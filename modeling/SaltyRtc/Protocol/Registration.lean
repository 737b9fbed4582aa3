import Mathlib
import SaltyRtc.Protocol.Invariants

/-!
# Registering responders at the initiator

`handle_server_auth_impl`, `process_new_responder` and `drop_oldest_inactive_responder` of
`InitiatorSignaling` (`src/protocol/mod.rs`): the checks on the `responders` list of
`server-auth`, the event that ends the server handshake, and path cleaning.
-/

namespace SaltyRtc

lemma Address.isResponder_iff {a : Address} : a.isResponder ↔ a ≠ ⟨0⟩ ∧ a ≠ ⟨1⟩ := by
  obtain ⟨v⟩ := a
  have hinj : ∀ w : UInt8, (⟨v⟩ : Address) = ⟨w⟩ ↔ v.toNat = w.toNat := fun w => by
    rw [Address.mk.injEq, ← UInt8.toNat_inj]
  simp only [Address.isResponder, decide_eq_true_eq, ne_eq, hinj, UInt8.le_iff_toNat_le]
  simp only [UInt8.toNat_ofNat]
  omega

namespace Handlers

open Signaling

variable {σ : Type} [Handlers σ] (env : Env)

/-- In the `ClientInfoSent` state of the server handshake, `server-auth` goes to
`handle_server_auth`. -/
lemma handleServerMessage_serverAuth {msg : ServerAuth} {nonce : Nonce}
    {nonceClone : Option Nonce} {s : σ}
    (hstate : (common s).server.handshakeState = .clientInfoSent) :
    handleServerMessage env ⟨.serverAuth msg, nonce⟩ nonceClone s =
      handleServerAuth env msg nonceClone s := by
  simp only [handleServerMessage, EStateM.bind_apply, EStateM.get_apply, hstate]

/-- Without the server's permanent key, `handle_server_auth` checks the repeated cookie, runs the
role's `handle_server_auth_impl`, ends the server handshake and enters the peer handshake. -/
lemma handleServerAuth_of_permanentKey_none {msg : ServerAuth} {nonceClone : Option Nonce}
    {s s₂ : σ} {actions : List HandleAction} {c : Common}
    (hid : (common s).identity ≠ .unknown)
    (hcookie : validateRepeatedCookie msg.yourCookie (common s).server.cookiePair.ours .server =
      .ok ())
    (hkey : (common s).server.permanentKey = none)
    (himpl : handleServerAuthImpl env msg s = .ok actions s₂)
    (hsig : Common.setSignalingState
      { common s₂ with server := { (common s₂).server with handshakeState := .done } }
      .peerHandshake = .ok c) :
    handleServerAuth env msg nonceClone s = .ok actions (setCommon s₂ c) := by
  simp [handleServerAuth, hid, liftResult, hcookie, hkey, himpl, modifyCommon, hsig]

end Handlers

namespace InitiatorSignaling

variable (env : Env)

/-- The checks on `responders` pass exactly for a list without repeated addresses and without an
address below `0x02`, when `initiator_connected` is absent; they pass the list on unchanged. -/
lemma checkServerAuthResponders_eq_ok {msg : ServerAuth} {L : List Address} :
    checkServerAuthResponders msg = .ok L ↔
      msg.initiatorConnected = none ∧ msg.responders = some L ∧ L.Nodup ∧
        ∀ a ∈ L, a.isResponder := by
  rcases msg with ⟨c, sk, _ | R, _ | b⟩
  · simp [checkServerAuthResponders]
  · simp [checkServerAuthResponders]
  · -- the set's size is the list's length exactly when no address repeats
    have hlen : R.length = R.dedup.length ↔ R.Nodup := by
      rw [eq_comm, ← Multiset.coe_nodup, ← Multiset.dedup_card_eq_card_iff_nodup,
        Multiset.coe_dedup, Multiset.coe_card, Multiset.coe_card]
    have hres : ((⟨0⟩ : Address) ∈ R.dedup ∨ (⟨1⟩ : Address) ∈ R.dedup) ↔
        ¬ ∀ a ∈ R, a.isResponder := by
      simp only [List.mem_dedup, not_forall, Address.isResponder_iff, not_and_or, not_not]
      constructor
      · rintro (h0 | h1)
        · exact ⟨_, h0, .inl rfl⟩
        · exact ⟨_, h1, .inr rfl⟩
      · rintro ⟨a, ha, rfl | rfl⟩
        · exact .inl ha
        · exact .inr ha
    simp only [checkServerAuthResponders, Option.isSome_none, Bool.false_eq_true, if_false]
    split_ifs with h01 hl
    · simp only [false_iff]
      rintro ⟨-, hR, -, hall⟩
      cases hR
      exact hres.1 h01 hall
    · simp only [false_iff]
      rintro ⟨-, hR, hnd, -⟩
      cases hR
      exact hl (hlen.2 hnd)
    · simp only [Except.ok.injEq, Option.some.injEq, true_and]
      constructor
      · rintro rfl
        exact ⟨rfl, hlen.1 (not_not.1 hl), not_not.1 (mt hres.2 h01)⟩
      · rintro ⟨rfl, -⟩
        rfl
  · simp [checkServerAuthResponders]

/-- A successful `handle_server_auth_impl` registers, in the order of the set, the responders of
a list that passed the checks, and ends its actions with `ServerHandshakeDone`, whose flag is
whether that list is empty. -/
lemma handleServerAuthImpl_eq_ok {msg : ServerAuth} {s s' : InitiatorSignaling}
    {actions : List HandleAction} (h : handleServerAuthImpl env msg s = .ok actions s') :
    ∃ L drops, checkServerAuthResponders msg = .ok L ∧
      (env.setOrder L).filterMapM (processNewResponder env) s = .ok drops s' ∧
      actions = drops ++ [.event (.serverHandshakeDone L.isEmpty)] := by
  simp only [handleServerAuthImpl, EStateM.bind_apply, liftResult] at h
  cases hc : checkServerAuthResponders msg with
  | error e => simp [hc] at h
  | ok L =>
    simp only [hc] at h
    cases hf : (env.setOrder L).filterMapM (processNewResponder env) s with
    | error e s₁ => simp [hf] at h
    | ok drops s₁ =>
      simp only [hf, EStateM.pure_apply, EStateM.Result.ok.injEq] at h
      obtain ⟨rfl, rfl⟩ := h
      exact ⟨L, drops, rfl, hf, rfl⟩

/-! ## Path cleaning -/

/-- The inactive responders are the contexts of the list still in the `New` state. -/
lemma mem_inactiveResponders {s : InitiatorSignaling} {r : ResponderContext} :
    r ∈ inactiveResponders s ↔ (∃ a, s.responders.lookup a = some r) ∧ r.handshakeState = .new := by
  simp only [inactiveResponders, List.mem_filter, List.mem_map, decide_eq_true_eq]
  constructor
  · rintro ⟨⟨⟨a, r'⟩, hmem, rfl⟩, hnew⟩
    exact ⟨⟨a, AList.mem_lookup_iff.mpr hmem⟩, hnew⟩
  · rintro ⟨⟨a, hr⟩, hnew⟩
    exact ⟨⟨⟨a, r⟩, AList.mem_lookup_iff.mp hr, rfl⟩, hnew⟩

lemma inactiveResponders_eq_nil {s : InitiatorSignaling} :
    inactiveResponders s = [] ↔ ∀ a r, s.responders.lookup a = some r → r.handshakeState ≠ .new := by
  rw [List.eq_nil_iff_forall_not_mem]
  simp only [mem_inactiveResponders]
  constructor
  · intro h a r hr hnew
    exact h r ⟨⟨a, hr⟩, hnew⟩
  · rintro h r ⟨⟨a, hr⟩, hnew⟩
    exact h a r hr hnew

/-- Putting a context that is not inactive in the place of another leaves no inactive responder
where there was none. -/
lemma inactiveResponders_of_insert {s t : InitiatorSignaling} {a : Address} {r : ResponderContext}
    (ht : t.responders = (s.responders.erase a).insert a r) (hr : r.handshakeState ≠ .new)
    (h : inactiveResponders s = []) : inactiveResponders t = [] := by
  rw [inactiveResponders_eq_nil] at h ⊢
  intro b r' hr'
  rw [ht] at hr'
  by_cases hb : b = a
  · subst hb
    rw [AList.lookup_insert, Option.some.injEq] at hr'
    exact hr' ▸ hr
  · rw [AList.lookup_insert_ne hb, AList.lookup_erase_ne hb] at hr'
    exact h b r' hr'

/-- Without an inactive responder, there is nothing to drop. -/
lemma dropOldestInactiveResponder_of_nil {s : InitiatorSignaling} (h : inactiveResponders s = []) :
    dropOldestInactiveResponder env s = .ok none s := by
  simp [dropOldestInactiveResponder, h]

/-- With a trusted key, a new responder gets a context that knows its key and waits for `key`;
that context is not inactive, so where no context was inactive none is dropped, however long
the list grows. -/
lemma processNewResponder_trustedKey {s : InitiatorSignaling} {a : Address} {k : PublicKey}
    {next : UInt32} {r : ResponderContext} (hauth : s.common.authProvider = some (.trustedKey k))
    (hnext : s.responderCounter.checkedAdd 1 = some next)
    (hnew : ResponderContext.new (env.draw s.drawn) a s.responderCounter = some r)
    (hinact : inactiveResponders s = []) :
    processNewResponder env a s = .ok none { s with
      responders := (s.responders.erase a).insert a
        { r with permanentKey := some k, handshakeState := .tokenReceived }
      responderCounter := next, drawn := s.drawn + 1 } := by
  obtain ⟨-, hkey, -⟩ := ResponderContext.new_eq_some hnew
  have hinact' : inactiveResponders { s with
      responders := (s.responders.erase a).insert a
        { r with permanentKey := some k, handshakeState := .tokenReceived }
      responderCounter := next, drawn := s.drawn + 1 } = [] :=
    inactiveResponders_of_insert rfl (by simp) hinact
  simp only [processNewResponder, EStateM.bind_apply, EStateM.modify_apply, EStateM.get_apply,
    EStateM.set_apply, hnext, hnew, hauth, hkey, Option.isSome_none, Bool.false_eq_true, if_false,
    EStateM.pure_apply]
  split_ifs
  · exact dropOldestInactiveResponder_of_nil env hinact'
  · rfl

/-- With a trusted key and no inactive responder, registering the responders of a list, one
after the other, drops none: each address gets a context, and the list keeps every other
context. -/
lemma filterMapM_processNewResponder_trustedKey {k : PublicKey}
    (hdraw : ∀ n, (Cookie.random (env.draw n).cookie).isSome) :
    ∀ (L : List Address) (s : InitiatorSignaling), s.common.authProvider = some (.trustedKey k) →
      inactiveResponders s = [] → s.responderCounter.toNat + L.length < UInt32.size →
      ∃ s', L.filterMapM (processNewResponder env) s = .ok [] s' ∧ s'.common = s.common ∧
        inactiveResponders s' = [] ∧ ∀ b, b ∈ s'.responders ↔ b ∈ L ∨ b ∈ s.responders
  | [], s, _, _, _ => ⟨s, rfl, rfl, ‹_›, by simp⟩
  | a :: L, s, hauth, hinact, hcount => by
    -- one registration, then the rest from the state it leaves
    obtain ⟨next, hnext⟩ : ∃ next, s.responderCounter.checkedAdd 1 = some next :=
      Option.isSome_iff_exists.mp (by
        rw [Option.isSome_iff_ne_none, Ne, UInt32.checkedAdd_eq_none]
        simp only [List.length_cons, UInt32.toNat_one] at hcount ⊢
        omega)
    have hnext' := (UInt32.checkedAdd_eq_some.mp hnext).2
    obtain ⟨r, hnew⟩ : ∃ r, ResponderContext.new (env.draw s.drawn) a s.responderCounter = some r :=
      Option.isSome_iff_exists.mp (by simpa [ResponderContext.new] using hdraw s.drawn)
    have hstep := processNewResponder_trustedKey env hauth hnext hnew hinact
    let t : InitiatorSignaling := { s with
      responders := (s.responders.erase a).insert a
        { r with permanentKey := some k, handshakeState := .tokenReceived }
      responderCounter := next, drawn := s.drawn + 1 }
    have hinact_t : inactiveResponders t = [] := inactiveResponders_of_insert rfl (by simp) hinact
    obtain ⟨s', hrun, hcommon, hinact', hmem⟩ := filterMapM_processNewResponder_trustedKey hdraw L t
      hauth hinact_t (by simp only [t, List.length_cons, UInt32.toNat_one] at hcount hnext' ⊢; omega)
    refine ⟨s', ?_, hcommon, hinact', fun b => ?_⟩
    · rw [List.filterMapM_cons, EStateM.bind_apply, hstep]
      exact hrun
    · rw [hmem b, AList.mem_insert, AList.mem_erase, List.mem_cons]
      by_cases hb : b = a <;> simp [hb]

/-- With a trusted key and no inactive responder, `handle_server_auth_impl` registers every
responder of the list and drops none: its only action is the event. -/
lemma handleServerAuthImpl_trustedKey {k : PublicKey} {msg : ServerAuth} {L : List Address}
    {s : InitiatorSignaling} (hdraw : ∀ n, (Cookie.random (env.draw n).cookie).isSome)
    (hauth : s.common.authProvider = some (.trustedKey k)) (hinact : inactiveResponders s = [])
    (hcheck : checkServerAuthResponders msg = .ok L)
    (hcount : s.responderCounter.toNat + L.length < UInt32.size) :
    ∃ s', handleServerAuthImpl env msg s = .ok [.event (.serverHandshakeDone L.isEmpty)] s' ∧
      s'.common = s.common ∧ inactiveResponders s' = [] ∧
      ∀ b, b ∈ s'.responders ↔ b ∈ L ∨ b ∈ s.responders := by
  have hnd : L.Nodup := (checkServerAuthResponders_eq_ok.mp hcheck).2.2.1
  -- the set yields the addresses of the list, each once
  have hperm : (env.setOrder L).Perm L := by
    simpa [hnd.dedup] using env.setOrder_perm L
  obtain ⟨s', hrun, hcommon, hinact', hmem⟩ :=
    filterMapM_processNewResponder_trustedKey env hdraw (env.setOrder L) s hauth hinact
      (by rwa [hperm.length_eq])
  refine ⟨s', ?_, hcommon, hinact', fun b => by rw [hmem b, hperm.mem_iff]⟩
  simp only [handleServerAuthImpl, EStateM.bind_apply, liftResult, hcheck, EStateM.pure_apply,
    hrun]
  rfl

end InitiatorSignaling

/-- The responder's `handle_server_auth_impl` ends the server handshake with the flag the server
sent in `initiator_connected`: whether its peer is connected. -/
lemma ResponderSignaling.handleServerAuthImpl_eq_ok (env : Env) {msg : ServerAuth}
    {s s' : ResponderSignaling} {actions : List HandleAction}
    (h : ResponderSignaling.handleServerAuthImpl env msg s = .ok actions s') :
    ∃ b sent, msg.initiatorConnected = some b ∧
      actions = sent ++ [.event (.serverHandshakeDone b)] := by
  simp only [ResponderSignaling.handleServerAuthImpl] at h
  rcases hr : msg.responders with _ | R
  · rcases hc : msg.initiatorConnected with _ | _ | _
    · simp [hr, hc] at h
    · simp only [hr, hc, Option.isSome_none, Bool.false_eq_true, if_false, EStateM.pure_apply,
        EStateM.Result.ok.injEq] at h
      exact ⟨false, [], rfl, h.1.symm⟩
    · simp only [hr, hc, Option.isSome_none, Bool.false_eq_true, if_false] at h
      cases hsent : ResponderSignaling.sendTokenAndKey env s with
      | error e s₁ => simp [EStateM.bind_apply, hsent] at h
      | ok sent s₁ =>
        simp only [EStateM.bind_apply, hsent, EStateM.modify_apply, EStateM.pure_apply,
          EStateM.Result.ok.injEq] at h
        exact ⟨true, sent, rfl, h.1.symm⟩
  · simp [hr] at h

/-- The responder addresses `0x02` to `0xfe`: 253 of them. -/
def Toy.crowd : List Address := (List.range 253).map fun i => ⟨UInt8.ofNat (i + 2)⟩

lemma Toy.crowd_nodup : Toy.crowd.Nodup := by
  refine List.Nodup.map_on ?_ List.nodup_range
  intro i hi j hj hij
  simp only [List.mem_range] at hi hj
  have hval := congrArg (fun a : Address => a.val.toNat) hij
  simp only [UInt8.toNat_ofNat'] at hval
  omega

lemma Toy.crowd_isResponder : ∀ a ∈ Toy.crowd, a.isResponder := by
  simp only [Toy.crowd, List.mem_map, List.mem_range, forall_exists_index, and_imp]
  rintro a i hi rfl
  simp only [Address.isResponder, decide_eq_true_eq, UInt8.le_iff_toNat_le, UInt8.toNat_ofNat',
    UInt8.toNat_ofNat]
  omega

/-- A server that reports the 253 responders in `server-auth`; every draw has seed 10. -/
def Toy.crowdEnv : Env :=
  Toy.env [.serverHello ⟨Toy.publicKey 100⟩, .serverAuth ⟨Toy.cookie 10, none, some Toy.crowd, none⟩]
    [] fun _ => Toy.draw 10 1

/-- The initiator that trusts the responder's key, after `server-hello` from that server. -/
def Toy.crowdInitiator : InitiatorSignaling :=
  (handleAll Toy.crowdEnv [Toy.helloBox]
    ((InitiatorSignaling.new Toy.crowdEnv (Toy.keyPair 1) Toy.tasks (some (Toy.publicKey 2)) none
      none (Toy.authToken 3)).get (by decide +kernel))).state

/-- The run that shows that a trusted-key initiator never cleans its path: after
`server-hello`, `server-auth` lists 253 responders; each is registered with a context in the
`TokenReceived` state, which is never a candidate for dropping, so the call returns no
`drop-responder` action and leaves 253 responders, more than 252, none of them inactive. -/
theorem trusted_key_path_not_cleaned :
    InitiatorSignaling.Reachable Toy.crowdEnv Toy.crowdInitiator ∧
      ∃ s', Handlers.handleMessage Toy.crowdEnv Toy.initiatorAuthBox Toy.crowdInitiator =
          .ok [.event (.serverHandshakeDone false)] s' ∧
        s'.responders.entries.length = 253 ∧ InitiatorSignaling.inactiveResponders s' = [] := by
  refine ⟨reachable_handleAll _ _ (.init ⟨_, _, _, _, _, _, (Option.some_get _).symm⟩)
    (by decide +kernel), ?_⟩
  -- the nonce checks and the decryption, on a state without responders
  let s₁ := (Handlers.validateNonce Toy.initiatorAuthBox.nonce Toy.crowdInitiator).state
  have hvalid : Handlers.validateNonce Toy.initiatorAuthBox.nonce Toy.crowdInitiator = .ok () s₁ :=
    EStateM.Result.eq_ok_of_ok? (by decide +kernel)
  have hdecode : Signaling.decodeServerMessage Toy.crowdEnv s₁ Toy.initiatorAuthBox =
      .ok ⟨.serverAuth ⟨Toy.cookie 10, none, some Toy.crowd, none⟩, Toy.initiatorAuthBox.nonce⟩ :=
    rfl
  have hstate : s₁.common.server.handshakeState = .clientInfoSent := by decide +kernel
  have hid : s₁.common.identity ≠ .unknown := by decide +kernel
  have hcookie : Signaling.validateRepeatedCookie (Toy.cookie 10)
      s₁.common.server.cookiePair.ours .server = .ok () := by decide +kernel
  have hkey : s₁.common.server.permanentKey = none := by decide +kernel
  have hauth : s₁.common.authProvider = some (.trustedKey (Toy.publicKey 2)) := by decide +kernel
  have hsig₁ : s₁.common.signalingState = .serverHandshake := by decide +kernel
  have hempty : s₁.responders.entries = [] := by decide +kernel
  have hcount : s₁.responderCounter.toNat + Toy.crowd.length < UInt32.size := by decide +kernel
  have hinact : InitiatorSignaling.inactiveResponders s₁ = [] := by
    simp only [InitiatorSignaling.inactiveResponders, hempty, List.map_nil, List.filter_nil]
  have hnone : ∀ b, b ∉ s₁.responders := fun b hb => by
    rw [AList.mem_keys, AList.keys, hempty] at hb
    exact List.not_mem_nil hb
  clear_value s₁
  -- the registrations, by the lemma on lists: no list of this size is computed here
  have hcheck : InitiatorSignaling.checkServerAuthResponders
      ⟨Toy.cookie 10, none, some Toy.crowd, none⟩ = .ok Toy.crowd :=
    InitiatorSignaling.checkServerAuthResponders_eq_ok.mpr
      ⟨rfl, rfl, Toy.crowd_nodup, Toy.crowd_isResponder⟩
  have hdraw : ∀ n, (Cookie.random (Toy.crowdEnv.draw n).cookie).isSome := fun _ => rfl
  obtain ⟨s₂, himpl, hcommon, hinact₂, hmem⟩ :=
    InitiatorSignaling.handleServerAuthImpl_trustedKey Toy.crowdEnv hdraw hauth hinact hcheck hcount
  have hsig : Common.setSignalingState
      { s₂.common with server := { s₂.common.server with handshakeState := .done } }
      .peerHandshake = .ok { s₁.common with
        server := { s₁.common.server with handshakeState := .done },
        signalingState := .peerHandshake } := by
    rw [hcommon, Common.setSignalingState_eq_ok]
    exact ⟨.inr (by simp [SignalingState.mayTransitionTo_iff, hsig₁]), rfl⟩
  have hne : Toy.crowd.isEmpty = false := by simp [Toy.crowd]
  rw [hne] at himpl
  have hmsg : Handlers.handleServerAuth Toy.crowdEnv ⟨Toy.cookie 10, none, some Toy.crowd, none⟩
      (some Toy.initiatorAuthBox.nonce) s₁ = .ok [.event (.serverHandshakeDone false)] _ :=
    Handlers.handleServerAuth_of_permanentKey_none Toy.crowdEnv hid hcookie hkey himpl hsig
  have htype : (Message.serverAuth ⟨Toy.cookie 10, none, some Toy.crowd, none⟩).getType =
      "server-auth" := rfl
  obtain ⟨s₃, hmsg', hs₃⟩ : ∃ s₃, Handlers.handleServerAuth Toy.crowdEnv
      ⟨Toy.cookie 10, none, some Toy.crowd, none⟩ (some Toy.initiatorAuthBox.nonce) s₁ =
        .ok [.event (.serverHandshakeDone false)] s₃ ∧ s₃.responders = s₂.responders :=
    ⟨_, hmsg, rfl⟩
  refine ⟨s₃, ?_, ?_, ?_⟩
  · rw [Handlers.handleMessage_of_validateNonce_server Toy.crowdEnv hvalid rfl hdecode, htype,
      if_pos rfl, Handlers.handleServerMessage_serverAuth Toy.crowdEnv hstate]
    exact hmsg'
  · -- the keys of the list are the 253 addresses
    have hkeys : ∀ b, b ∈ s₂.responders ↔ b ∈ Toy.crowd := fun b => by
      rw [hmem b]
      exact or_iff_left (hnone b)
    have hlen : Toy.crowd.length = 253 := by simp [Toy.crowd]
    rw [hs₃, ← hlen]
    exact ((AList.mem_iff_of_length_eq Toy.crowd_nodup).mpr hkeys).1
  · rw [InitiatorSignaling.inactiveResponders_eq_nil, hs₃]
    exact InitiatorSignaling.inactiveResponders_eq_nil.mp hinact₂

/-- The initiator with an auth token, after `server-hello`. -/
def Toy.tokenInitiatorAfterHello : InitiatorSignaling :=
  (handleAll Toy.initiatorEnv [Toy.helloBox] (Toy.initiator false)).state

/-- The run that shows the initiator's flag: after `server-hello`, the initiator with an auth
token gets `server-auth` listing responder `0x02`, registers it, and reports
`ServerHandshakeDone(false)`, as if no peer were connected. -/
theorem serverHandshakeDone_flag_inverted :
    InitiatorSignaling.Reachable Toy.initiatorEnv Toy.tokenInitiatorAfterHello ∧
      Handlers.handleMessage Toy.initiatorEnv Toy.initiatorAuthBox Toy.tokenInitiatorAfterHello =
        .ok [.event (.serverHandshakeDone false)]
          (Handlers.handleMessage Toy.initiatorEnv Toy.initiatorAuthBox
            Toy.tokenInitiatorAfterHello).state ∧
      (⟨2⟩ : Address) ∈ (Handlers.handleMessage Toy.initiatorEnv Toy.initiatorAuthBox
        Toy.tokenInitiatorAfterHello).state.responders :=
  ⟨reachable_handleAll _ _ (.init (Toy.initiator_initial false)) (by decide +kernel),
    EStateM.Result.eq_ok_of_ok? (by decide +kernel), by decide +kernel⟩

end SaltyRtc
