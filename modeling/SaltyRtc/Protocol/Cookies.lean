import Mathlib
import SaltyRtc.Protocol.CookieRule
import SaltyRtc.Protocol.Registration

/-!
# The cookie rule at each role

What the code of each role does to the cookie pairs of its contexts (`CookieRole`), and from it the
cookie rule over every run of either role (`incoming_cookie_rule`).

The responder finds two contexts, the server's and the initiator's, in every state, so it never
drops one; `new-initiator` is the only code that creates one, afresh. The initiator finds the
server's context and those of its list of responders, and in the task state only the chosen
responder: `server-auth` and `new-responder` create contexts afresh at the addresses they name and
path cleaning drops some, `token` and `key` change a context but not its pair, and `auth` takes the
sender's context, with its pair, out of the list to be the chosen responder, dropping the others
as the initiator enters the task state. That the chosen responder is then found at the sender's address rests on an invariant
the initiator's code keeps: every context of the list is stored under its own address
(`InitiatorSignaling.AddressesMatch`).
-/

namespace SaltyRtc

open Std.Do Signaling Handlers CookiePair

set_option mvcgen.warning false

/-- Distinct addresses stand for distinct identities. -/
lemma Identity.ofAddress_injective : Function.Injective Identity.ofAddress := fun a b h =>
  Option.some.inj ((Identity.toAddress_ofAddress a).symm.trans (h ▸ Identity.toAddress_ofAddress b))

/-- The address of the initiator's identity is the initiator's address. -/
lemma Identity.isInitiator_of_ofAddress {a : Address} (h : Identity.ofAddress a = .initiator) :
    a.isInitiator := by
  unfold Identity.ofAddress at h
  split_ifs at h with h0 h1
  simp [Address.isInitiator, h1]

/-- `ResponderContext::new` makes a context for the given address, with no cookie stored. -/
lemma ResponderContext.new_address_cookiePair {d : Draw} {a : Address} {c : UInt32}
    {r : ResponderContext} (h : ResponderContext.new d a c = some r) :
    r.address = a ∧ r.cookiePair.theirs = none := by
  simp only [ResponderContext.new, Option.map_eq_some_iff] at h
  obtain ⟨_, -, rfl⟩ := h
  exact ⟨rfl, rfl⟩

/-- `InitiatorContext::new` makes a context with no cookie stored. -/
lemma InitiatorContext.new_theirs {d : Draw} {k : PublicKey} {c : InitiatorContext}
    (h : InitiatorContext.new d k = some c) : c.cookiePair.theirs = none := by
  simp only [InitiatorContext.new, Option.map_eq_some_iff] at h
  obtain ⟨_, -, rfl⟩ := h
  rfl

namespace InitiatorSignaling

variable (env : Env)

/-- The pair at an address, as the initiator finds it: the server's, or a responder's, from the
list before the task state and from the chosen responder in it. -/
lemma cookiePairAt_eq (s : InitiatorSignaling) (a : Address) :
    cookiePairAt s a = match Identity.ofAddress a with
      | .server => some s.common.server.cookiePair
      | .initiator => none
      | .responder _ =>
        if s.common.signalingState = .task then
          s.responder.bind fun r =>
            if r.toPeer.identity.toAddress = some a then some r.cookiePair else none
        else (s.responders.lookup a).map (·.cookiePair) := by
  unfold cookiePairAt
  rw [getPeerWithAddressMut_eq]
  unfold getPeerWithAddressMut
  cases Identity.ofAddress a with
  | server => rfl
  | initiator => rfl
  | responder v =>
    dsimp only
    split_ifs
    · cases s.responder with
      | none => rfl
      | some r =>
        dsimp only [Option.bind]
        cases r.toPeer.identity.toAddress with
        | none => rfl
        | some pa => by_cases h : pa = a <;> simp [h, ResponderContext.toPeer]
    · cases s.responders.lookup a <;> rfl

/-- Every responder context of the list is stored under its own address. -/
def AddressesMatch (s : InitiatorSignaling) : Prop :=
  s.responders.Forall fun a r => r.address = a

variable {env} {s t : InitiatorSignaling}

/-- What is done to the pairs of the list is done to the pairs, when the server's pair, the task
state and the chosen responder stay. -/
lemma handled_of_list {creates : Address → Prop} {drops : Prop}
    (hserver : t.common.server.cookiePair = s.common.server.cookiePair)
    (htask : t.common.signalingState = .task ↔ s.common.signalingState = .task)
    (hchosen : t.responder = s.responder)
    (hlist : ∀ a, Handled (creates a) drops ((s.responders.lookup a).map (·.cookiePair))
      ((t.responders.lookup a).map (·.cookiePair))) :
    ∀ a, Handled (creates a) drops (cookiePairAt s a) (cookiePairAt t a) := by
  intro a
  rw [cookiePairAt_eq, cookiePairAt_eq, hserver, hchosen]
  cases Identity.ofAddress a with
  | server => exact .refl _
  | initiator => exact .refl _
  | responder v =>
    dsimp only
    by_cases ht : s.common.signalingState = .task
    · simp only [ht, htask.mpr ht, if_true]
      exact .refl _
    · simp only [ht, mt htask.mp ht, if_false]
      exact hlist a

/-- The pair at an address stays when the server's pair, the task state, the chosen responder and
the pair of the list at that address stay. -/
lemma cookiePairAt_congr {a : Address}
    (hserver : t.common.server.cookiePair = s.common.server.cookiePair)
    (htask : t.common.signalingState = .task ↔ s.common.signalingState = .task)
    (hchosen : t.responder = s.responder)
    (hlist : (t.responders.lookup a).map (·.cookiePair) = (s.responders.lookup a).map (·.cookiePair)) :
    cookiePairAt t a = cookiePairAt s a := by
  rw [cookiePairAt_eq, cookiePairAt_eq, hserver, hchosen, hlist]
  simp only [htask]

lemma cookiePairAt_setServerOurs (s : InitiatorSignaling) (ours : CombinedSequence) (a : Address) :
    cookiePairAt (setServerOurs s ours) a = cookiePairAt s a := by
  apply cookiePairAt_congr <;> rfl

/-- Dropping a context of the list drops its pair and keeps every other. -/
lemma handled_erase {creates : Address → Prop} {drops : Prop} (hd : drops) (a : Address) :
    ∀ b, Handled (creates b) drops (cookiePairAt s b)
      (cookiePairAt { s with responders := s.responders.erase a } b) := by
  refine handled_of_list rfl Iff.rfl rfl fun c => ?_
  by_cases hc : c = a
  · subst hc
    rw [AList.lookup_erase]
    exact .dropped hd
  · rw [AList.lookup_erase_ne hc]
    exact .refl _

lemma AddressesMatch.register (h : s.AddressesMatch) {a : Address} {r : ResponderContext}
    (ha : r.address = a) (n : UInt32) (d : Nat) :
    AddressesMatch { s with responders := (s.responders.erase a).insert a r, responderCounter := n, drawn := d } :=
  (AList.Forall.erase h a).insert ha

/-- A fresh context in place of any earlier one at its address. -/
lemma handled_register {creates : Address → Prop} {drops : Prop} {a : Address} (ha : creates a)
    {r : ResponderContext} (hr : r.cookiePair.theirs = none) (n : UInt32) (d : Nat) :
    ∀ b, Handled (creates b) drops (cookiePairAt s b) (cookiePairAt
      { s with responders := (s.responders.erase a).insert a r, responderCounter := n, drawn := d }
      b) := by
  refine handled_of_list rfl Iff.rfl rfl fun c => ?_
  by_cases hc : c = a
  · subst hc
    rw [AList.lookup_insert]
    exact .created ha (by simp [Fresh, hr])
  · rw [AList.lookup_insert_ne hc, AList.lookup_erase_ne hc]
    exact .refl _

variable (env)

/-- Path cleaning drops a context of the list and advances our CSN towards the server; it keeps
what registering responders at the addresses with `creates` may do to the pairs from `s₀`. -/
theorem dropOldestInactiveResponder_cookies_spec (creates : Address → Prop) (s₀ : InitiatorSignaling) :
    ⦃fun s => ⌜s.AddressesMatch ∧ ∀ a, Handled (creates a) True (cookiePairAt s₀ a) (cookiePairAt s a)⌝⦄
    dropOldestInactiveResponder env
    ⦃⇓? _ s => ⌜s.AddressesMatch ∧ ∀ a, Handled (creates a) True (cookiePairAt s₀ a) (cookiePairAt s a)⌝⦄ := by
  mvcgen [dropOldestInactiveResponder]
  rename_i s hpre _ _ _ _ _ _ hdrop
  obtain ⟨ours, rfl⟩ := hdrop
  obtain ⟨hJ, hhandled⟩ := hpre
  refine ⟨hJ.erase _, fun a => ?_⟩
  rw [cookiePairAt_setServerOurs]
  exact (hhandled a).trans (handled_erase trivial _ a)

/-- A new responder gets a fresh context at its address, which must be one where registering may
create contexts. -/
theorem processNewResponder_cookies_spec (address : Address) (creates : Address → Prop)
    (hc : creates address) (s₀ : InitiatorSignaling) :
    ⦃fun s => ⌜s.AddressesMatch ∧ ∀ a, Handled (creates a) True (cookiePairAt s₀ a) (cookiePairAt s a)⌝⦄
    processNewResponder env address
    ⦃⇓? _ s => ⌜s.AddressesMatch ∧ ∀ a, Handled (creates a) True (cookiePairAt s₀ a) (cookiePairAt s a)⌝⦄ := by
  have hdrop := dropOldestInactiveResponder_cookies_spec env creates s₀
  mvcgen [processNewResponder, hdrop]
  -- with and without a trusted key, and with and without a drop: a fresh context at `address`
  all_goals
    obtain ⟨ha, hr⟩ := ResponderContext.new_address_cookiePair ‹ResponderContext.new _ address _ = some _›
    obtain ⟨hJ, hhandled⟩ := ‹_ ∧ ∀ a, Handled _ _ _ _›
    -- the context inserted is the one drawn, or that one with the trusted key: same address and pair
    refine ⟨hJ.register ?_ _ _, fun b => (hhandled b).trans (handled_register hc ?_ _ _ b)⟩
    · exact ha
    · exact hr

/-- `handle_server_auth_impl` creates afresh the contexts of the responders the message lists,
and may drop contexts. -/
lemma handleServerAuthImpl_cookies {msg : ServerAuth} {s s' : InitiatorSignaling}
    {actions : List HandleAction} (hJ : s.AddressesMatch)
    (h : handleServerAuthImpl env msg s = .ok actions s') :
    s'.AddressesMatch ∧ CookiesHandled (.serverAuth msg) s s' := by
  obtain ⟨L, drops, hcheck, hloop, -⟩ := handleServerAuthImpl_eq_ok env h
  obtain ⟨-, hL, -, -⟩ := checkServerAuthResponders_eq_ok.mp hcheck
  -- every address of the loop is one the message lists
  have hmem : ∀ a ∈ env.setOrder L, a ∈ msg.responders.getD [] := fun a ha => by
    rw [hL, Option.getD_some]
    exact List.mem_dedup.mp ((env.setOrder_perm L).mem_iff.mp ha)
  exact EStateM.of_triple (EStateM.filterMapM_inv _ (processNewResponder env) (env.setOrder L)
    fun a ha => processNewResponder_cookies_spec env a (· ∈ msg.responders.getD []) (hmem a ha) s)
    ⟨hJ, fun _ => .refl _⟩ hloop

theorem handleNewResponder_cookies_spec (msg : NewResponder) (s₀ : InitiatorSignaling) :
    ⦃fun s => ⌜s.AddressesMatch ∧ ∀ a, Handled (a = msg.id) True (cookiePairAt s₀ a) (cookiePairAt s a)⌝⦄
    handleNewResponder env msg
    ⦃⇓? _ s => ⌜s.AddressesMatch ∧ ∀ a, Handled (a = msg.id) True (cookiePairAt s₀ a) (cookiePairAt s a)⌝⦄ := by
  have hnew := processNewResponder_cookies_spec env msg.id (· = msg.id) rfl s₀
  mvcgen [handleNewResponder, hnew]

variable {env}

/-- The write-back of a peer's pairs changes no other context. -/
lemma cookiePairAt_setPeerWithAddress_ne (s : InitiatorSignaling) {addr a : Address}
    (csnPair : CombinedSequencePair) (cookiePair : CookiePair) (ha : a ≠ addr) :
    cookiePairAt (setPeerWithAddress s addr csnPair cookiePair) a = cookiePairAt s a := by
  unfold setPeerWithAddress
  cases hid : Identity.ofAddress addr with
  | server =>
    -- only the server's pair changes, and `a` is not the server's address
    have hserver : Identity.ofAddress a ≠ .server := fun h =>
      ha (Identity.ofAddress_injective (h.trans hid.symm))
    rw [cookiePairAt_eq, cookiePairAt_eq]
    cases h : Identity.ofAddress a with
    | server => exact absurd h hserver
    | initiator => rfl
    | responder v => rfl
  | initiator => rfl
  | responder v =>
    dsimp only
    split_ifs with ht
    · -- the chosen responder changes its pairs only if it is at `addr`, which is not `a`
      rw [cookiePairAt_eq, cookiePairAt_eq]
      cases Identity.ofAddress a with
      | server => rfl
      | initiator => rfl
      | responder w =>
        simp only [ht, if_true]
        cases s.responder with
        | none => rfl
        | some r =>
          by_cases hra : r.address = addr
          · subst hra
            have hr : (Identity.responder r.address.val).toAddress ≠ some a := fun h =>
              ha (ResponderContext.eq_address_of_toAddress h)
            simp [ResponderContext.toPeer, hr]
          · simp [hra]
    · split
      · -- the replaced context is at `addr`, not at `a`
        apply cookiePairAt_congr
        · rfl
        · rfl
        · rfl
        · rw [AList.lookup_replace_ne ha]
      · rfl

/-- The write-back of a peer's pairs keeps every context of the list under its own address. -/
lemma AddressesMatch.setPeerWithAddress (h : s.AddressesMatch) (addr : Address)
    (csnPair : CombinedSequencePair) (cookiePair : CookiePair) :
    (s.setPeerWithAddress addr csnPair cookiePair).AddressesMatch := by
  unfold InitiatorSignaling.setPeerWithAddress
  split
  · exact h
  · exact h
  · split_ifs
    · exact h
    · split
      · -- only the CSN and cookie pairs of the context change
        rename_i r hr
        exact AList.Forall.replace h (h addr r hr)
      · exact h

/-- Replacing a context of the list by one with the same pair keeps the pairs of the list. -/
lemma lookup_replace_cookiePair {src : Address} {r r' : ResponderContext}
    (hr : s.responders.lookup src = some r) (hc : r'.cookiePair = r.cookiePair) (a : Address) :
    ((s.responders.replace src r').lookup a).map (·.cookiePair) =
      (s.responders.lookup a).map (·.cookiePair) := by
  by_cases ha : a = src
  · subst ha
    rw [AList.lookup_replace_self (AList.lookup_isSome.mp (by rw [hr]; rfl)), hr]
    exact congrArg some hc
  · rw [AList.lookup_replace_ne ha]

/-- `update_responder` with a context at the same address and with the same pair as the one it
replaces, beside a write of common data that keeps the server's pair and the signaling state:
every context stays under its own address and every pair is kept. -/
lemma updateResponder_cookies {src : Address} {r r' : ResponderContext} (c : Common)
    (hJ : s.AddressesMatch) (hr : s.responders.lookup src = some r) (haddr : r'.address = r.address)
    (hc : r'.cookiePair = r.cookiePair) (hserver : c.server.cookiePair = s.common.server.cookiePair)
    (hsig : c.signalingState = s.common.signalingState) :
    AddressesMatch { s with common := c, responders := s.responders.replace src r' } ∧
      ∀ a, cookiePairAt { s with common := c, responders := s.responders.replace src r' } a =
        cookiePairAt s a := by
  refine ⟨AList.Forall.replace hJ (haddr.trans (hJ _ r hr)), fun a => ?_⟩
  apply cookiePairAt_congr
  · exact hserver
  · rw [hsig]
  · rfl
  · exact lookup_replace_cookiePair hr hc a

variable (env) in
/-- The peer handshake keeps every pair, or drops contexts as it enters the task state: `token` and
`key` change a context of the list but not its pair, and `auth` moves the sender's context, with its
pair, out of the list to be the chosen responder, drops every other context, and enters the task
state. -/
lemma handlePeerMessage_cookies {obox : OpenBox Message} {actions : List HandleAction}
    (hJ : s.AddressesMatch) (hsig : s.common.signalingState = .peerHandshake)
    (h : handlePeerMessage env obox s = .ok actions t) (hno : NoHandshakeError actions) :
    t.AddressesMatch ∧ ∀ a, Handled False (t.common.signalingState = .task) (cookiePairAt s a)
      (cookiePairAt t a) := by
  rcases EStateM.of_triple (handlePeerMessage_spec env obox s) rfl h with
    ⟨msg, -, htoken⟩ | ⟨msg, -, hkey⟩ | ⟨msg, -, hauth⟩
  · obtain ⟨r, hr, -, rfl⟩ := EStateM.of_triple (handleToken_spec msg _ s) rfl htoken
    refine (updateResponder_cookies _ hJ hr (by rfl) (by rfl) (by rfl) (by rfl)).imp_right
      fun hview a => .inl (hview a)
  · obtain ⟨r, csnPair, hr, -, -, rfl⟩ := EStateM.of_triple (handleKey_spec env msg _ s) rfl hkey
    refine (updateResponder_cookies _ hJ hr (by rfl) (by rfl) (by rfl) (by rfl)).imp_right
      fun hview a => .inl (hview a)
  · obtain ⟨r, chosen, ours, csnPair, hr, -, rfl⟩ :=
      EStateM.of_triple (handleAuth_spec env msg _ s) rfl hauth hno
    refine ⟨AList.forall_empty _, fun a => ?_⟩
    rw [cookiePairAt_eq, cookiePairAt_eq]
    cases Identity.ofAddress a with
    | server => exact .refl _
    | initiator => exact .refl _
    | responder w =>
      simp only [hsig, if_true, if_false, Option.bind_some, reduceCtorEq]
      by_cases haddr : r.toPeer.identity.toAddress = some a
      · -- the chosen responder is found at its own address, the sender's
        have hsrc : a = obox.nonce.source := (ResponderContext.eq_address_of_toAddress haddr).trans (hJ _ r hr)
        subst hsrc
        rw [hr]
        exact .inl (if_pos haddr)
      · exact .inr (.inr ⟨trivial, if_neg haddr⟩)

/-- The destination check changes at most our identity. -/
lemma validateNonceDestination_cookies (nonce : Nonce) (hJ : s.AddressesMatch) :
    (validateNonceDestination nonce s).state.AddressesMatch ∧
      ∀ a, cookiePairAt (validateNonceDestination nonce s).state a = cookiePairAt s a := by
  rcases (validateNonceDestination_cases nonce s).2 with hsame | ⟨-, -, hassigned⟩
  · rw [hsame]
    exact ⟨hJ, fun _ => rfl⟩
  · rw [hassigned]
    refine ⟨hJ, fun a => ?_⟩
    apply cookiePairAt_congr <;> rfl

/-- `InitiatorSignaling::new` starts with no responder. -/
lemma AddressesMatch.initial (h : Initial env s) : s.AddressesMatch := by
  obtain ⟨_, _, _, _, _, _, hnew⟩ := h
  simp only [new, Option.map_eq_some_iff] at hnew
  obtain ⟨server, -, rfl⟩ := hnew
  exact AList.forall_empty _

variable (env)

/-- The initiator's part of the cookie argument, with the invariant that every context of the
list is stored under its own address. -/
def cookieRole : CookieRole InitiatorSignaling env where
  J := AddressesMatch
  destination nonce _ hJ := validateNonceDestination_cookies nonce hJ
  setPeer s addr csnPair cookiePair hJ := ⟨hJ.setPeerWithAddress addr csnPair cookiePair,
    fun _ ha => cookiePairAt_setPeerWithAddress_ne s csnPair cookiePair ha⟩
  setCommon _ _ hJ hserver htask := ⟨hJ, fun _ => cookiePairAt_congr hserver htask rfl rfl⟩
  serverView_destination := serverView_validateNonceDestination
  serverView_setPeer := serverView_setPeerWithAddress
  decodePeerMessage_nonce _ _ _ h := decodePeerMessage_nonce env h
  serverAuthImpl _ _ _ _ hJ h := handleServerAuthImpl_cookies env hJ h
  newInitiator _ _ _ _ h := (EStateM.of_triple handleNewInitiator_spec trivial h).elim
  newResponder msg s _ _ hJ h :=
    EStateM.of_triple (handleNewResponder_cookies_spec env msg s) ⟨hJ, fun _ => .refl _⟩ h
  disconnected msg s _ _ hJ h := by
    rw [EStateM.of_triple (handleDisconnected_spec msg s) rfl h]
    exact ⟨hJ, fun _ => rfl⟩
  peer _ _ _ _ _ hJ hsig _ h hno := handlePeerMessage_cookies env hJ hsig h hno

end InitiatorSignaling

namespace ResponderSignaling

/-- The pair at an address, as the responder finds it: the server's or the initiator's. -/
lemma cookiePairAt_eq (s : ResponderSignaling) (a : Address) :
    cookiePairAt s a = match Identity.ofAddress a with
      | .server => some s.common.server.cookiePair
      | .initiator => some s.initiator.cookiePair
      | .responder _ => none := by
  unfold cookiePairAt
  rw [getPeerWithAddressMut_eq]
  unfold getPeerWithAddressMut
  cases Identity.ofAddress a <;> rfl

variable {s t : ResponderSignaling}

/-- The pairs stay when the server's and the initiator's pairs stay. -/
lemma cookiePairAt_congr (hserver : t.common.server.cookiePair = s.common.server.cookiePair)
    (hinitiator : t.initiator.cookiePair = s.initiator.cookiePair) (a : Address) :
    cookiePairAt t a = cookiePairAt s a := by
  rw [cookiePairAt_eq, cookiePairAt_eq, hserver, hinitiator]

/-- The write-back of a peer's pairs changes no other context. -/
lemma cookiePairAt_setPeerWithAddress_ne (s : ResponderSignaling) {addr a : Address}
    (csnPair : CombinedSequencePair) (cookiePair : CookiePair) (ha : a ≠ addr) :
    cookiePairAt (setPeerWithAddress s addr csnPair cookiePair) a = cookiePairAt s a := by
  have hne : Identity.ofAddress a ≠ Identity.ofAddress addr := fun h =>
    ha (Identity.ofAddress_injective h)
  rw [cookiePairAt_eq, cookiePairAt_eq]
  unfold setPeerWithAddress
  cases hid : Identity.ofAddress addr with
  | server =>
    cases h : Identity.ofAddress a with
    | server => exact absurd (h.trans hid.symm) hne
    | initiator => rfl
    | responder v => rfl
  | initiator =>
    cases h : Identity.ofAddress a with
    | server => rfl
    | initiator => exact absurd (h.trans hid.symm) hne
    | responder v => rfl
  | responder v => rfl

variable (env : Env)

/-- `handle_server_auth_impl` keeps the pairs of the server and of the initiator. -/
theorem handleServerAuthImpl_cookiePairs_spec (msg : ServerAuth) (s₀ : ResponderSignaling) :
    ⦃fun s => ⌜s = s₀⌝⦄ handleServerAuthImpl env msg
    ⦃⇓? _ s => ⌜s.initiator.cookiePair = s₀.initiator.cookiePair ∧
      s.common.server.cookiePair = s₀.common.server.cookiePair⌝⦄ := by
  -- the registered specs of the messages to the initiator only keep the stage
  unfold handleServerAuthImpl sendTokenAndKey sendToken sendKey nextInitiatorNonce
  mvcgen [liftAddress, liftResult]
  all_goals
    subst_vars
    exact ⟨rfl, rfl⟩

/-- `handle_new_initiator` creates the initiator's context afresh. -/
theorem handleNewInitiator_cookiePairs_spec (s₀ : ResponderSignaling) :
    ⦃fun s => ⌜s = s₀⌝⦄ handleNewInitiator env
    ⦃⇓? _ s => ⌜s.initiator.cookiePair.theirs = none ∧
      s.common.server.cookiePair = s₀.common.server.cookiePair⌝⦄ := by
  unfold handleNewInitiator sendTokenAndKey sendToken sendKey nextInitiatorNonce
  mvcgen [liftAddress, liftResult]
  all_goals
    subst_vars
    have hnew := InitiatorContext.new_theirs ‹InitiatorContext.new _ _ = some _›
    exact ⟨hnew, rfl⟩

/-- `handle_key` keeps the pairs of the server and of the initiator. -/
theorem handleKey_cookiePairs_spec (msg : Key) (nonce : Nonce) (s₀ : ResponderSignaling) :
    ⦃fun s => ⌜s = s₀⌝⦄ handleKey env msg nonce
    ⦃⇓? _ s => ⌜s.initiator.cookiePair = s₀.initiator.cookiePair ∧
      s.common.server.cookiePair = s₀.common.server.cookiePair⌝⦄ := by
  mvcgen [handleKey, liftResult, nextInitiatorNonce, liftAddress]
  all_goals
    subst_vars
    exact ⟨rfl, rfl⟩

variable {env}

/-- The destination check changes at most our identity. -/
lemma cookiePairAt_validateNonceDestination (nonce : Nonce) (s : ResponderSignaling) (a : Address) :
    cookiePairAt (validateNonceDestination nonce s).state a = cookiePairAt s a := by
  rcases (validateNonceDestination_cases nonce s).2 with hsame | ⟨-, -, -, hassigned⟩
  · rw [hsame]
  · rw [hassigned]
    exact cookiePairAt_congr rfl rfl a

/-- A new initiator gets a context with no cookie stored, at the initiator's address; the server's
pair stays. -/
lemma handled_of_fresh_initiator (hserver : t.common.server.cookiePair = s.common.server.cookiePair)
    (hinitiator : t.initiator.cookiePair.theirs = none) : CookiesHandled .newInitiator s t := by
  intro a
  rw [cookiePairAt_eq, cookiePairAt_eq]
  cases h : Identity.ofAddress a with
  | server => exact .inl (by rw [hserver])
  | initiator =>
    exact .created (Identity.isInitiator_of_ofAddress h) fun cp h => by cases h; exact hinitiator
  | responder v => exact .refl _

variable (env) in
/-- The responder opens every message of the initiator under the nonce it came with. -/
lemma decodePeerMessage_nonce {bbox : ByteBox} {obox : OpenBox Message}
    (h : decodePeerMessage env s bbox = .ok obox) : obox.nonce = bbox.nonce := by
  unfold decodePeerMessage at h
  split_ifs at h
  split at h
  · exact OpenBox.decrypt_nonce h
  · split at h
    · cases h
    · exact OpenBox.decrypt_nonce h
  · cases h

variable (env) in
/-- The peer handshake keeps the pairs of the server and of the initiator. -/
lemma handlePeerMessage_cookies {obox : OpenBox Message} {actions : List HandleAction}
    (h : handlePeerMessage env obox s = .ok actions t) (a : Address) :
    cookiePairAt t a = cookiePairAt s a := by
  rcases EStateM.of_triple (handlePeerMessage_spec env obox s) rfl h with
    ⟨msg, -, hkey⟩ | ⟨msg, -, hauth⟩
  · obtain ⟨hinitiator, hserver⟩ :=
      EStateM.of_triple (handleKey_cookiePairs_spec env msg obox.nonce s) rfl hkey
    exact cookiePairAt_congr hserver hinitiator a
  · obtain ⟨chosen, -, rfl⟩ := EStateM.of_triple (handleAuth_spec env msg s) rfl hauth
    exact cookiePairAt_congr rfl rfl a

variable (env)

/-- The responder's part of the cookie argument; it needs no invariant. -/
def cookieRole : CookieRole ResponderSignaling env where
  J _ := True
  destination nonce s _ := ⟨trivial, cookiePairAt_validateNonceDestination nonce s⟩
  setPeer s _ csnPair cookiePair _ :=
    ⟨trivial, fun _ ha => cookiePairAt_setPeerWithAddress_ne s csnPair cookiePair ha⟩
  setCommon _ _ _ hserver _ := ⟨trivial, cookiePairAt_congr hserver rfl⟩
  serverView_destination := serverView_validateNonceDestination
  serverView_setPeer := serverView_setPeerWithAddress
  decodePeerMessage_nonce _ _ _ h := decodePeerMessage_nonce env h
  serverAuthImpl msg s _ _ _ h := by
    obtain ⟨hinitiator, hserver⟩ := EStateM.of_triple (handleServerAuthImpl_cookiePairs_spec env msg s) rfl h
    exact ⟨trivial, .of_eq (cookiePairAt_congr hserver hinitiator)⟩
  newInitiator s _ _ _ h := by
    obtain ⟨hinitiator, hserver⟩ := EStateM.of_triple (handleNewInitiator_cookiePairs_spec env s) rfl h
    exact ⟨trivial, handled_of_fresh_initiator hserver hinitiator⟩
  newResponder _ _ _ _ _ h := (EStateM.of_triple handleNewResponder_spec trivial h).elim
  disconnected msg s _ _ _ h := by
    rw [EStateM.of_triple (handleDisconnected_spec msg s) rfl h]
    exact ⟨trivial, fun _ => rfl⟩
  peer _ _ _ _ _ _ _ _ h _ := ⟨trivial, fun a => .inl (handlePeerMessage_cookies env h a)⟩

/-- The responder finds a context at the server's and at the initiator's address in every state,
so it never drops one. -/
lemma cookiePairAt_ne_none {a : Address} (h : cookiePairAt s a ≠ none) : cookiePairAt t a ≠ none := by
  rw [cookiePairAt_eq] at h ⊢
  revert h
  cases Identity.ofAddress a with
  | server => exact fun _ => Option.some_ne_none _
  | initiator => exact fun _ => Option.some_ne_none _
  | responder v => exact fun h => absurd rfl h

end ResponderSignaling

/-- Every context of the list of a reachable initiator is stored under its own address. -/
theorem InitiatorSignaling.reachable_addressesMatch (env : Env) {s : InitiatorSignaling}
    (hs : InitiatorSignaling.Reachable env s) : s.AddressesMatch :=
  (InitiatorSignaling.cookieRole env).J_of_reachable (InitiatorSignaling.roleInv env)
    (fun _ => InitiatorSignaling.AddressesMatch.initial) hs

/-- The incoming cookie rule. One check, at any role: where the sender's context is found, a first
cookie is accepted exactly when it differs from our cookie for that peer, and is then stored; a
later one exactly when it is the stored one, and the check then changes nothing; a rejected cookie
changes nothing. One call of `handle_message` from a reachable state of the initiator, or from any
state of the responder, applies the rule to the sender's context only; its handler then keeps
every pair, except that a message of the server creates afresh, with no stored cookie, the
contexts it names (`new-initiator`, `new-responder`, `server-auth`), and that contexts are dropped
only where the initiator cleans its path after `new-responder` or `server-auth`, or enters the
task state. So over a run of the initiator a stored cookie stays until the first call that
changes it, which creates its context afresh or drops it; over a run of the responder, until a
call creates its context afresh. -/
theorem incoming_cookie_rule (env : Env) :
    (∀ (σ : Type) [Signaling σ] (s : σ) (nonce : Nonce) (peer : Peer),
      getPeerWithAddressMut s nonce.source = .ok (some peer) →
      (peer.cookiePair.theirs = none →
        ((∃ s', validateNonceCookie nonce s = .ok () s') ↔ nonce.cookie ≠ peer.cookiePair.ours) ∧
        ∀ s', validateNonceCookie nonce s = .ok () s' →
          cookiePairAt s' nonce.source = some { peer.cookiePair with theirs := some nonce.cookie }) ∧
      (∀ d, peer.cookiePair.theirs = some d →
        ((∃ s', validateNonceCookie nonce s = .ok () s') ↔ nonce.cookie = d) ∧
        ∀ s', validateNonceCookie nonce s = .ok () s' → s' = s) ∧
      ∀ e s', validateNonceCookie nonce s = .error e s' → s' = s) ∧
    (∀ s bbox s', InitiatorSignaling.Reachable env s → OkStep env s bbox s' →
      ∀ a, Step bbox.nonce.source bbox.nonce.cookie (CreatesContextAt env s bbox a)
        (DropsContexts env s bbox s') a (cookiePairAt s a) (cookiePairAt s' a)) ∧
    (∀ (s : ResponderSignaling) bbox s', OkStep env s bbox s' →
      ∀ a, Step bbox.nonce.source bbox.nonce.cookie (CreatesContextAt env s bbox a)
        (DropsContexts env s bbox s') a (cookiePairAt s a) (cookiePairAt s' a)) ∧
    (∀ (s t : InitiatorSignaling) a cp d, InitiatorSignaling.Reachable env s →
      Reach.Reachable (OkStep env) (· = s) t → cookiePairAt s a = some cp → cp.theirs = some d →
      cookiePairAt t a = some cp ∨ ∃ u bbox u', Reach.Reachable (OkStep env) (· = s) u ∧
        cookiePairAt u a = some cp ∧ OkStep env u bbox u' ∧
        (CreatesContextAt env u bbox a ∧ Fresh (cookiePairAt u' a) ∨
          DropsContexts env u bbox u' ∧ cookiePairAt u' a = none) ∧
        Reach.Reachable (OkStep env) (· = u') t) ∧
    (∀ (s t : ResponderSignaling) a cp d,
      Reach.Reachable (OkStep env) (· = s) t → cookiePairAt s a = some cp → cp.theirs = some d →
      cookiePairAt t a = some cp ∨ ∃ u bbox u', Reach.Reachable (OkStep env) (· = s) u ∧
        cookiePairAt u a = some cp ∧ OkStep env u bbox u' ∧
        CreatesContextAt env u bbox a ∧ Fresh (cookiePairAt u' a) ∧
        Reach.Reachable (OkStep env) (· = u') t) := by
  refine ⟨fun σ _ s nonce peer hpeer => ⟨validateNonceCookie_first hpeer,
    fun d hd => validateNonceCookie_later hpeer hd, fun e s' h => (validateNonceCookie_eq_error h).1⟩,
    ?_, ?_, ?_, ?_⟩
  · intro s bbox s' hs h
    exact ((InitiatorSignaling.cookieRole env).okStep (InitiatorSignaling.roleInv env)
      (InitiatorSignaling.reachable_addressesMatch env hs) h).2
  · intro s bbox s' h
    exact ((ResponderSignaling.cookieRole env).okStep (ResponderSignaling.roleInv env) trivial h).2
  · intro s t a cp d hs hrun hcp hd
    exact (InitiatorSignaling.cookieRole env).stored_of_reach (InitiatorSignaling.roleInv env)
      (InitiatorSignaling.reachable_addressesMatch env hs) hrun hcp hd
  · intro s t a cp d hrun hcp hd
    rcases (ResponderSignaling.cookieRole env).stored_of_reach (ResponderSignaling.roleInv env)
      trivial hrun hcp hd with hsame | ⟨u, bbox, u', hsu, hu, hstep, hcreated | ⟨-, hnone⟩, hut⟩
    · exact .inl hsame
    · exact .inr ⟨u, bbox, u', hsu, hu, hstep, hcreated.1, hcreated.2, hut⟩
    · -- the responder keeps a context at every address where it has one
      exact absurd hnone (ResponderSignaling.cookiePairAt_ne_none (hu ▸ Option.some_ne_none cp))

end SaltyRtc
