import Mathlib
import SaltyRtc.Protocol.Actions
import SaltyRtc.Protocol.Inversion

/-!
# The `close` of a peer handshake without a shared task

When the tasks a responder proposes share none with ours, `handle_auth` at the initiator
(`src/protocol/mod.rs`) answers with a `close` message sealed for the responder and returns the
`NoSharedTask` error after it; a `close` that cannot be encoded is only logged. `do_handshake`
(`src/lib.rs`) raises the error only after sending the messages of the call, so an error that comes
without a `close` is lost.

Encoding the `close` advances our CSN towards the responder. That CSN starts below `2^32` when
the context is created and advances once, for our `key`, before the responder's `auth` is read:
every context in the list has at most `2^32` (`ResponderContext.Bounded`), in every reachable state
(`reachable_respondersBounded`). So the `close` is always encoded, and the only handshake error the
initiator ever returns is `NoSharedTask` right after it.
-/

namespace SaltyRtc

open Std.Do Signaling Handlers

set_option mvcgen.warning false

/-! ## The write-back of a passed nonce check -/

namespace Handlers

variable {σ : Type} [Handlers σ]

/-- A passed nonce check writes back, after the destination check, the pairs of the sender's
context with our CSN towards it unchanged: what survives such writes survives the check. -/
lemma validateNonce_eq_ok_ours {P : σ → Prop} {nonce : Nonce} {s s' : σ}
    (hsource : ∀ s₁ : σ, (validateNonceSource nonce s₁).state = s₁)
    (hP : ∀ s₁ peer csnPair cookiePair, P s₁ →
      getPeerWithAddressMut s₁ nonce.source = .ok (some peer) → csnPair.ours = peer.csnPair.ours →
      P (setPeerWithAddress s₁ nonce.source csnPair cookiePair))
    (hdest : P (validateNonceDestination nonce s).state)
    (h : validateNonce nonce s = .ok () s') : P s' := by
  obtain ⟨s₁, s₂, hd, hc, hk⟩ := validateNonce_eq_ok hsource h
  rw [hd, EStateM.Result.state_ok] at hdest
  -- the CSN check stores their CSN, the cookie check their cookie
  obtain ⟨peer, hpeer, -, rfl⟩ := validateNonceCsn_eq_ok.mp hc
  have hP₂ := hP _ _ { peer.csnPair with theirs := some nonce.csn } peer.cookiePair hdest hpeer rfl
  obtain ⟨peer', hpeer', ⟨-, -, rfl⟩ | ⟨-, rfl⟩⟩ := validateNonceCookie_eq_ok.mp hk
  · exact hP _ _ _ _ hP₂ hpeer' rfl
  · exact hP₂

end Handlers

/-! ## The bound -/

namespace ResponderContext

/-- A context of the initiator's list: at a responder's address, with our CSN towards the
responder below `2^32` until our `key` is sent, and at most `2^32` after. -/
structure Bounded (r : ResponderContext) : Prop where
  address : r.address.isResponder
  sent : r.csnPair.ours.combinedSequenceNumber.toNat ≤ 2 ^ 32
  unsent : r.handshakeState ≠ .keySent → r.csnPair.ours.combinedSequenceNumber.toNat < 2 ^ 32

variable {r r' : ResponderContext}

/-- A context with the same address, the same CSN and no `key` sent where none was. -/
lemma Bounded.of_ours (h : r.Bounded) (haddr : r'.address = r.address)
    (hours : r'.csnPair.ours = r.csnPair.ours)
    (hstate : r'.handshakeState ≠ .keySent → r.handshakeState ≠ .keySent) : r'.Bounded where
  address := haddr ▸ h.address
  sent := hours ▸ h.sent
  unsent hs := hours ▸ h.unsent (hstate hs)

/-- A fresh context at a responder's address: a random CSN, with overflow number 0. -/
lemma Bounded.of_new {d : Draw} {a : Address} {c : UInt32} (h : ResponderContext.new d a c = some r)
    (ha : a.isResponder) : r.Bounded := by
  simp only [ResponderContext.new, Option.map_eq_some_iff] at h
  obtain ⟨_, -, rfl⟩ := h
  have hlt : (CombinedSequence.random d.sequence).combinedSequenceNumber.toNat < 2 ^ 32 := by
    have := d.sequence.toNat_lt
    simp [CombinedSequence.random] at this ⊢
    omega
  exact ⟨ha, hlt.le, fun _ => hlt⟩

/-- The context advanced by our `key`, from one that had sent nothing. -/
lemma Bounded.of_key (h : r.Bounded) (hstate : r.handshakeState ≠ .keySent)
    {csn : CombinedSequenceSnapshot} {ours : CombinedSequence}
    (hinc : r.csnPair.ours.increment = .ok (csn, ours)) (haddr : r'.address = r.address)
    (hours : r'.csnPair.ours = ours) (hks : r'.handshakeState = .keySent) : r'.Bounded := by
  have hstep := (CombinedSequence.increment_eq_ok.mp hinc).2.1
  have hlt := h.unsent hstate
  refine ⟨haddr ▸ h.address, ?_, fun hne => absurd hks hne⟩
  rw [hours, hstep]
  omega

/-- A responder's address has an address as an identity. -/
lemma Bounded.toAddress (h : r.Bounded) :
    (Identity.responder r.address.val).toAddress = some r.address := by
  have ha := h.address
  simp only [Address.isResponder, decide_eq_true_eq] at ha
  have hgt : r.address.val > 1 := UInt8.lt_of_lt_of_le (by decide) ha
  simp [Identity.toAddress, hgt]

end ResponderContext

/-- Our `close` to a context of the list in `KeySent` is encoded, whenever our identity has an
address: the CSN can advance, and the session keys are there. -/
lemma Signaling.encodeCloseMessage_responder {σ : Type} [Signaling σ] (env : Env)
    (reason : CloseCode) {r : ResponderContext} {s : σ} {k : PublicKey} {a : Address}
    (hb : r.Bounded) (hk : r.sessionKey = some k) (hid : (common s).identity.toAddress = some a) :
    ∃ bbox, (encodeCloseMessage env reason (some r.toPeer) : SignalingM σ ByteBox) s =
      .ok bbox s := by
  obtain ⟨csn, ours, hinc⟩ := CombinedSequence.increment_isOk (c := r.csnPair.ours) (by
    have := hb.sent
    omega)
  simp [encodeCloseMessage, liftAddress, liftResult, hid, ResponderContext.toPeer, hb.toAddress,
    hinc, hk]

namespace InitiatorSignaling

variable (env : Env)

/-- Every context of the list is bounded. -/
def RespondersBounded (s : InitiatorSignaling) : Prop :=
  s.responders.Forall fun _ r => r.Bounded

variable {env} {s s' : InitiatorSignaling} {actions : List HandleAction}

/-- The write-back of the pairs of the context a nonce check found, with our CSN unchanged. -/
lemma RespondersBounded.setPeerWithAddress (h : s.RespondersBounded) {addr : Address} {peer : Peer}
    (hpeer : getPeerWithAddressMut s addr = .ok (some peer)) {csnPair : CombinedSequencePair}
    (hours : csnPair.ours = peer.csnPair.ours) (cookiePair : CookiePair) :
    (s.setPeerWithAddress addr csnPair cookiePair).RespondersBounded := by
  unfold InitiatorSignaling.setPeerWithAddress
  unfold getPeerWithAddressMut at hpeer
  split
  · exact h
  · exact h
  · rename_i hid
    simp only [hid] at hpeer
    split_ifs with ht
    · exact h
    · simp only [ht, if_false, Except.ok.injEq, Option.map_eq_some_iff] at hpeer
      obtain ⟨r, hr, rfl⟩ := hpeer
      simp only [hr]
      -- the context found keeps its address, its state and our CSN
      exact AList.Forall.replace h ((h addr r hr).of_ours rfl hours id)

/-- A nonce check, passed or dropped, keeps the bound. -/
lemma RespondersBounded.validateNonce (h : s.RespondersBounded) {nonce : Nonce} {s₁ : InitiatorSignaling}
    (hcheck : Handlers.validateNonce nonce s = .ok () s₁ ∨
      ∃ m, Handlers.validateNonce nonce s = .error (.err (.dropMsg m)) s₁) :
    s₁.RespondersBounded := by
  -- the destination check changes at most our identity
  have hdest : (InitiatorSignaling.validateNonceDestination nonce s).state.RespondersBounded := by
    rcases (validateNonceDestination_cases nonce s).2 with hsame | ⟨-, -, hassigned⟩
    · rw [hsame]
      exact h
    · rw [hassigned]
      exact h
  rcases hcheck with hok | ⟨m, hdrop⟩
  · exact validateNonce_eq_ok_ours (P := RespondersBounded) (validateNonceSource_state nonce)
      (fun _ _ _ cookiePair h₁ hpeer hours => h₁.setPeerWithAddress hpeer hours cookiePair) hdest hok
  · rw [validateNonce_eq_dropMsg (validateNonceDestination_cases nonce s).1
      (validateNonceSource_state nonce) hdrop]
    exact hdest

/-- A write of common data keeps the bound. -/
@[simp] lemma respondersBounded_setCommon (c : Common) :
    RespondersBounded { s with common := c } ↔ s.RespondersBounded := Iff.rfl

variable (env)

/-- Path cleaning drops a context of the list and advances our CSN towards the server. -/
theorem dropOldestInactiveResponder_bounded_spec :
    ⦃fun s => ⌜s.RespondersBounded⌝⦄ dropOldestInactiveResponder env
    ⦃⇓? _ s => ⌜s.RespondersBounded⌝⦄ := by
  mvcgen [dropOldestInactiveResponder]
  rename_i hb _ _ _ _ _ _ hdrop
  obtain ⟨ours, rfl⟩ := hdrop
  exact hb.erase _

/-- A new responder at a responder's address gets a fresh context. -/
theorem processNewResponder_bounded_spec (address : Address) :
    ⦃fun s => ⌜s.RespondersBounded ∧ address.isResponder⌝⦄ processNewResponder env address
    ⦃⇓? _ s => ⌜s.RespondersBounded⌝⦄ := by
  mvcgen [processNewResponder, dropOldestInactiveResponder_bounded_spec]
  -- with and without a trusted key, and with and without a drop: a fresh context at `address`
  all_goals
    obtain ⟨hb, ha⟩ := ‹_ ∧ address.isResponder›
    have hnew := ResponderContext.Bounded.of_new ‹ResponderContext.new _ address _ = some _› ha
    refine (hb.erase address).insert ?_
  · exact hnew.of_ours rfl rfl fun _ => by simp [ResponderContext.new_eq_some ‹_›]
  · exact hnew.of_ours rfl rfl fun _ => by simp [ResponderContext.new_eq_some ‹_›]
  · exact hnew
  · exact hnew

variable {env}

/-- `handle_server_auth_impl` registers the responders the server reports, each at a responder's
address. -/
lemma RespondersBounded.handleServerAuthImpl (h : s.RespondersBounded) {msg : ServerAuth}
    (himpl : handleServerAuthImpl env msg s = .ok actions s') : s'.RespondersBounded := by
  obtain ⟨L, drops, hcheck, hdrops, -⟩ := handleServerAuthImpl_eq_ok env himpl
  have hL := (checkServerAuthResponders_eq_ok.mp hcheck).2.2.2
  -- the set yields addresses of the list
  have hmem : ∀ a ∈ env.setOrder L, a.isResponder := fun a ha =>
    hL a (List.mem_dedup.mp ((env.setOrder_perm L).mem_iff.mp ha))
  refine EStateM.of_triple (EStateM.filterMapM_inv RespondersBounded (processNewResponder env)
    (env.setOrder L) fun a ha => ?_) h hdrops
  exact EStateM.triple_of_forall fun s₀ hs₀ => EStateM.triple_of_run fun _ _ hrun =>
    EStateM.of_triple (processNewResponder_bounded_spec env a) ⟨hs₀, hmem a ha⟩ hrun

variable (env) in
/-- `handle_new_responder` registers a responder's address. -/
theorem handleNewResponder_bounded_spec (msg : NewResponder) :
    ⦃fun s => ⌜s.RespondersBounded⌝⦄ handleNewResponder env msg
    ⦃⇓? _ s => ⌜s.RespondersBounded⌝⦄ := by
  mvcgen [handleNewResponder, processNewResponder_bounded_spec]
  -- only a responder's address is registered
  rename_i hid _ hbounded
  exact ⟨hbounded, by simpa using hid⟩

variable (env) in
/-- `handle_key` advances our CSN towards the responder once, with our `key`, and puts its
context in `KeySent`. -/
theorem handleKey_csn_spec (msg : Key) (src : Address) (s₀ : InitiatorSignaling) :
    ⦃fun s => ⌜s = s₀⌝⦄ handleKey env msg src
    ⦃⇓? _ s => ⌜∃ r csn ours, s₀.responders.lookup src = some r ∧
      r.csnPair.ours.increment = .ok (csn, ours) ∧
      s = { s₀ with
        responders := s₀.responders.replace src
          { r with
            sessionKey := some msg.key, handshakeState := .keySent,
            csnPair := { r.csnPair with ours } } }⌝⦄ := by
  mvcgen [handleKey, updateResponder, liftAddress, liftResult]
  -- the one successful path: the nonce of `key` advanced the context's CSN once
  subst_vars
  have hr := ‹AList.lookup src _ = some _›
  exact ⟨_, _, _, hr, ‹CombinedSequence.increment _ = .ok _›,
    by simp +zetaDelta only [AList.replace_replace]⟩

/-- The peer handshake keeps the bound: `token` and `key` change a context of the list, `key`
advancing our CSN from below `2^32` by one, and `auth` empties the list. -/
lemma RespondersBounded.handlePeerMessage (h : s.RespondersBounded) {obox : OpenBox Message}
    (hpeer : handlePeerMessage env obox s = .ok actions s') (hno : NoHandshakeError actions) :
    s'.RespondersBounded := by
  obtain ⟨r, hr, htoken | hkey | hauth⟩ := handlePeerMessage_eq_ok env hpeer
  · obtain ⟨msg, -, hnew, htoken⟩ := htoken
    obtain ⟨r', hr', -, rfl⟩ := EStateM.of_triple (handleToken_spec msg _ s) rfl htoken
    obtain rfl : r = r' := Option.some.inj (hr.symm.trans hr')
    exact AList.Forall.replace h ((h _ r hr).of_ours rfl rfl fun _ => by simp [hnew])
  · obtain ⟨msg, -, hrecv, hkey⟩ := hkey
    obtain ⟨r', csn, ours, hr', hinc, rfl⟩ := EStateM.of_triple (handleKey_csn_spec env msg _ s) rfl hkey
    obtain rfl : r = r' := Option.some.inj (hr.symm.trans hr')
    exact AList.Forall.replace h ((h _ r hr).of_key (by simp [hrecv]) hinc rfl rfl rfl)
  · obtain ⟨msg, -, -, hauth⟩ := hauth
    obtain ⟨r', chosen, ours, csnPair, -, -, rfl⟩ :=
      EStateM.of_triple (handleAuth_spec env msg _ s) rfl hauth hno
    exact AList.forall_empty _

/-- Every message of the server keeps the bound. -/
lemma RespondersBounded.handleServerMessage (h : s.RespondersBounded) {obox : OpenBox Message}
    {nonceClone : Option Nonce} (hserver : Handlers.handleServerMessage env obox nonceClone s = .ok actions s') :
    s'.RespondersBounded := by
  rcases handleServerMessage_eq_ok env hserver with ⟨msg, -, -, hhello⟩ |
    ⟨msg, -, -, hauth⟩ | ⟨-, ⟨-, hinit⟩ | ⟨msg, -, hresp⟩ | ⟨msg, -, hdisc⟩⟩
  · obtain ⟨-, ours, rfl⟩ := EStateM.of_triple (handleServerHello_spec env msg s) rfl hhello
    exact h
  · obtain ⟨-, s₁, himpl, -, rfl⟩ :=
      EStateM.of_triple (handleServerAuth_spec env msg nonceClone s) rfl hauth
    exact (show RespondersBounded s₁ from h.handleServerAuthImpl himpl)
  · exact (EStateM.of_triple handleNewInitiator_spec trivial hinit).elim
  · exact EStateM.of_triple (handleNewResponder_bounded_spec env msg) h hresp
  · rw [EStateM.of_triple (handleDisconnected_spec msg s) rfl hdisc]
    exact h

/-- Every call that returns `Ok` without a handshake error keeps the bound. -/
lemma RespondersBounded.okStep (h : s.RespondersBounded) {bbox : ByteBox} (hstep : OkStep env s bbox s') :
    s'.RespondersBounded := by
  obtain ⟨actions, hrun, hno⟩ := hstep
  obtain ⟨s₁, hcheck, hrest⟩ := EStateM.of_triple (handleMessage_spec env bbox s) rfl hrun
  have h₁ : s₁.RespondersBounded := h.validateNonce hcheck
  rcases hrest with rfl | ⟨-, obox, -, hserver⟩ | hpeer
  · exact h₁
  · exact h₁.handleServerMessage hserver
  · rcases EStateM.of_triple (handleHandshakePeerMessage_spec env bbox s₁) rfl hpeer with
      ⟨-, ours, rfl⟩ | ⟨obox, -, -, ⟨-, -, hserver⟩ | hmsg⟩
    · exact h₁
    · exact h₁.handleServerMessage hserver
    · exact h₁.handlePeerMessage hmsg hno

variable (env)

/-- In every state an initiator reaches, every context of its list is at a responder's address,
and our CSN towards it is below `2^32` until our `key` is sent, and at most `2^32` after. -/
theorem reachable_respondersBounded (hs : Reachable env s) : s.RespondersBounded := by
  refine hs.inv (fun s₀ h₀ => ?_) fun _ _ _ _ hb hstep => hb.okStep hstep
  obtain ⟨_, _, _, _, _, _, hnew⟩ := h₀
  simp only [new, Option.map_eq_some_iff] at hnew
  obtain ⟨server, -, rfl⟩ := hnew
  exact AList.forall_empty _

variable {env}

/-- In the peer handshake, from a state of the invariant and of the bound, a message of a
responder returns no handshake error, or our `close` then `NoSharedTask`: the `close` to a context
in `KeySent`, with our identity `initiator`, is always encoded. -/
lemma handlePeerMessage_close (hi : s.Inv) (hb : s.RespondersBounded)
    (hsig : s.common.signalingState = .peerHandshake) {obox : OpenBox Message}
    (h : handlePeerMessage env obox s = .ok actions s') :
    NoHandshakeError actions ∨ ∃ close, actions = [.reply close, .handshakeError .noSharedTask] := by
  obtain ⟨r, hr, htoken | hkey | hauth⟩ := handlePeerMessage_eq_ok env h
  · obtain ⟨msg, -, -, htoken⟩ := htoken
    rw [EStateM.of_triple (handleToken_nil_spec msg _) trivial htoken]
    exact .inl (.of_signals (by simp))
  · obtain ⟨msg, -, -, hkey⟩ := hkey
    exact .inl (.of_signals (EStateM.of_triple (handleKey_signals_spec env msg _) trivial hkey))
  · obtain ⟨msg, -, hks, hauth⟩ := hauth
    rcases EStateM.of_triple (handleAuth_actions_spec env msg _ s) rfl hauth with
      ⟨replies, hsig', rfl, -⟩ | ⟨r', hr', hclose | ⟨-, s₁, e, s₂, hid₁, hfail⟩⟩
    · exact .inl (.of_done hsig')
    · exact .inr hclose
    · -- the `close` could not be encoded: impossible here
      obtain rfl : r = r' := Option.some.inj (hr.symm.trans hr')
      obtain ⟨k, hk⟩ := Option.isSome_iff_exists.mp ((hi.responders _ r hr).sessionKey.mpr hks)
      have hfits : s.common.identity.Fits .initiator := (hi.stage.peer (by simp [hsig])).2.2
      have hid : s₁.common.identity.toAddress = some ⟨0x01⟩ := by
        rw [hid₁]
        revert hfits
        cases s.common.identity <;> simp [ClientIdentity.Fits, ClientIdentity.toAddress]
      obtain ⟨bbox, hok⟩ := encodeCloseMessage_responder env .noSharedTask (hb _ r hr) hk
        (s := s₁) hid
      rw [hok] at hfail
      cases hfail

variable (env)

/-- In every state an initiator reaches, a call of `handle_message` that returns a handshake error
returns our `close`, then `NoSharedTask`. -/
theorem reachable_handshakeError {bbox : ByteBox} (hs : Reachable env s)
    (h : Handlers.handleMessage env bbox s = .ok actions s') :
    NoHandshakeError actions ∨ ∃ close, actions = [.reply close, .handshakeError .noSharedTask] := by
  by_cases hno : NoHandshakeError actions
  · exact .inl hno
  have hi := reachable_inv env hs
  -- the error comes from a message of the peer handshake, after the nonce check
  obtain ⟨s₁, obox, hcheck, hsig, hmsg⟩ := (actionRole env).handleMessage_handshakeError hi h hno
  have hi₁ : s₁.Inv := (RoleInv.leads_validateNonce (R := roleInv env) hi hcheck).1
  have hb₁ := (reachable_respondersBounded env hs).validateNonce hcheck
  exact handlePeerMessage_close hi₁ hb₁ hsig hmsg

end InitiatorSignaling

namespace ResponderSignaling

variable {env : Env} {s s' : ResponderSignaling} {actions : List HandleAction}

/-- A message of the initiator never returns a handshake error: `key` is answered by our `auth`,
and `auth` ends the handshake. -/
lemma handlePeerMessage_noHandshakeError {obox : OpenBox Message}
    (h : handlePeerMessage env obox s = .ok actions s') : NoHandshakeError actions := by
  rcases EStateM.of_triple (handlePeerMessage_spec env obox s) rfl h with
    ⟨msg, -, hkey⟩ | ⟨msg, -, hauth⟩
  · obtain ⟨-, -, -, -, -, rfl, -⟩ := EStateM.of_triple (handleKey_auth_spec env msg _ s) rfl hkey
    exact .of_signals (by simp)
  · rw [EStateM.of_triple (handleAuth_done_spec env msg) trivial hauth]
    have hnone : ∀ a ∈ ([] : List HandleAction), a.isSignal = true := by simp
    exact .of_done hnone

variable (env)

/-- In every state a responder reaches, no call of `handle_message` returns a handshake error. -/
theorem reachable_noHandshakeError {bbox : ByteBox} (hs : Reachable env s)
    (h : Handlers.handleMessage env bbox s = .ok actions s') : NoHandshakeError actions := by
  by_contra hno
  obtain ⟨s₁, obox, -, -, hmsg⟩ :=
    (actionRole env).handleMessage_handshakeError (reachable_inv env hs) h hno
  exact hno (handlePeerMessage_noHandshakeError hmsg)

end ResponderSignaling

/-- The handshake errors of both roles, in every state each reaches: the initiator returns one
only for want of a shared task, and then right after our `close` to the responder; the
responder returns none. -/
theorem handshake_error_after_close (env : Env) :
    (∀ (s s' : InitiatorSignaling) bbox actions, InitiatorSignaling.Reachable env s →
      handleMessage env bbox s = .ok actions s' →
      NoHandshakeError actions ∨ ∃ close, actions = [.reply close, .handshakeError .noSharedTask]) ∧
    (∀ (s s' : ResponderSignaling) bbox actions, ResponderSignaling.Reachable env s →
      handleMessage env bbox s = .ok actions s' → NoHandshakeError actions) :=
  ⟨fun _ _ _ _ hs h => InitiatorSignaling.reachable_handshakeError env hs h,
    fun _ _ _ _ hs h => ResponderSignaling.reachable_noHandshakeError env hs h⟩

/-- Our CSN towards each responder in an initiator's list, over every run: in every state the
initiator reaches, each context of the list is at a responder's address, and our CSN towards it
is below `2^32` until our `key` is sent and at most `2^32` after, far from the 48-bit limit of
`CombinedSequence::increment`. -/
theorem initiator_responder_csn_bound (env : Env) :
    ∀ s : InitiatorSignaling, InitiatorSignaling.Reachable env s → s.RespondersBounded :=
  fun _ hs => InitiatorSignaling.reachable_respondersBounded env hs

/-- The initiator with an auth token after `server-hello` and a `server-auth` that lists
responder `0x02`. -/
def Toy.registeredInitiator : InitiatorSignaling :=
  (handleAll Toy.initiatorEnv [Toy.helloBox, Toy.initiatorAuthBox] (Toy.initiator false)).state

/-- The bound in a reached state with a responder in the list. -/
theorem registeredInitiator_csn_bound :
    InitiatorSignaling.Reachable Toy.initiatorEnv Toy.registeredInitiator ∧
      (⟨2⟩ : Address) ∈ Toy.registeredInitiator.responders ∧
      Toy.registeredInitiator.RespondersBounded :=
  have hs : InitiatorSignaling.Reachable Toy.initiatorEnv Toy.registeredInitiator :=
    reachable_handleAll _ _ (.init (Toy.initiator_initial false)) (by decide +kernel)
  ⟨hs, by decide +kernel, initiator_responder_csn_bound _ _ hs⟩

end SaltyRtc
