import Mathlib
import SaltyRtc.Protocol.Invariants

/-!
# Which call of `handle_message` moves the peer handshake

Inversion lemmas for `handle_message` (`src/protocol/mod.rs`), one for each change of the peer
handshake that later proofs start from: the call that moves a client into the task state, and,
at the responder, the call that sends our `auth`. Each names the path through the code that made
the change: the nonce check, which leaves what the handshake reads (`handshakeView`), the
decryption of the peer's message, and the role's handler for it.

The other paths are ruled out once for all roles (`RoleInv.handleMessage_view`): a dropped
message or a task message ends in the state the nonce check left, a `key` message the initiator
cannot open only advances our CSN towards the server, and the server's messages never enter the
task state (`RoleInv.handleServerMessage_task`).
-/

namespace SaltyRtc

open Signaling Handlers

/-! ## The paths of a call, for any role -/

namespace RoleInv

variable {σ : Type} [Handlers σ] {env : Env} {β : Type} (f : σ → β)

/-- What the destination check, the write-back of a peer's CSN and cookie, and our CSN towards
the server leave unchanged, the whole nonce check leaves unchanged, whether it passes or drops
the message. -/
lemma validateNonce_view (R : RoleInv σ env) (hdest : ∀ nonce s, f (validateNonceDestination nonce s).state = f s)
    (hset : ∀ s addr csnPair cookiePair, f (setPeerWithAddress s addr csnPair cookiePair) = f s)
    {nonce : Nonce} {s s₁ : σ}
    (h : validateNonce nonce s = .ok () s₁ ∨
      ∃ m, validateNonce nonce s = .error (.err (.dropMsg m)) s₁) :
    f s₁ = f s := by
  rcases h with hok | ⟨m, hdrop⟩
  · exact validateNonce_eq_ok_of (P := fun s₂ => f s₂ = f s) (R.source nonce)
      (fun s₂ addr csnPair cookiePair h₂ => (hset s₂ addr csnPair cookiePair).trans h₂)
      (hdest nonce s) hok
  · rw [validateNonce_eq_dropMsg (R.destination_ne_dropMsg nonce s) (R.source nonce) hdrop]
    exact hdest nonce s

/-- A call of `handle_message` that returns `Ok` leaves what the nonce check leaves, or has
handled a message of the server, or a peer's message of the peer handshake, after such a
check. -/
theorem handleMessage_view (R : RoleInv σ env)
    (hdest : ∀ nonce s, f (validateNonceDestination nonce s).state = f s)
    (hset : ∀ s addr csnPair cookiePair, f (setPeerWithAddress s addr csnPair cookiePair) = f s)
    (hours : ∀ s ours, f (setServerOurs s ours) = f s)
    {bbox : ByteBox} {s s' : σ} {actions : List HandleAction} (hs : R.I s)
    (h : handleMessage env bbox s = .ok actions s') :
    f s' = f s ∨
    (∃ s₁ obox nonceClone, R.I s₁ ∧ f s₁ = f s ∧
      handleServerMessage env obox nonceClone s₁ = .ok actions s') ∨
    ∃ s₁ obox, f s₁ = f s ∧ (common s₁).signalingState = .peerHandshake ∧
      decodePeerMessage env s₁ bbox = .ok obox ∧ handlePeerMessage env obox s₁ = .ok actions s' := by
  obtain ⟨s₁, hcheck, hrest⟩ := EStateM.of_triple (handleMessage_spec env bbox s) rfl h
  have hview : f s₁ = f s := validateNonce_view f R hdest hset hcheck
  have hs₁ : R.I s₁ := (R.leads_validateNonce hs hcheck).1
  rcases hrest with rfl | ⟨-, obox, -, hserver⟩ | hpeer
  · exact .inl hview
  · exact .inr (.inl ⟨s₁, obox, _, hs₁, hview, hserver⟩)
  · rcases EStateM.of_triple (handleHandshakePeerMessage_spec env bbox s₁) rfl hpeer with
      ⟨-, ours, rfl⟩ | ⟨obox, hdecode, hsig, ⟨-, -, hserver⟩ | hhandle⟩
    · -- a `key` message the initiator cannot open
      exact .inl ((hours s₁ ours).trans hview)
    · exact .inr (.inl ⟨s₁, obox, none, hs₁, hview, hserver⟩)
    · exact .inr (.inr ⟨s₁, obox, hview, hsig, hdecode, hhandle⟩)

/-- No message of the server moves a client into the task state. -/
lemma handleServerMessage_task (R : RoleInv σ env) {obox : OpenBox Message} {nonceClone : Option Nonce} {s s' : σ}
    {actions : List HandleAction} (hs : R.I s)
    (h : handleServerMessage env obox nonceClone s = .ok actions s')
    (ht : (common s').signalingState = .task) : (common s).signalingState = .task := by
  -- the messages the role handles keep the stage, and so the signaling state
  have of_stage : (common s').stage = (common s).stage → (common s).signalingState = .task :=
    fun hstage => (congrArg Stage.signalingState hstage).symm.trans ht
  rcases handleServerMessage_eq_ok env h with ⟨msg, -, -, hhello⟩ |
    ⟨msg, -, -, hauth⟩ | ⟨-, ⟨-, hinit⟩ | ⟨msg, -, hresp⟩ | ⟨msg, -, hdisc⟩⟩
  · obtain ⟨-, ours, rfl⟩ := EStateM.of_triple (handleServerHello_spec env msg s) rfl hhello
    simpa using ht
  · -- `server-auth` opens the peer handshake
    obtain ⟨-, s₁, -, -, rfl⟩ := EStateM.of_triple (handleServerAuth_spec env msg nonceClone s) rfl hauth
    simp at ht
  · exact of_stage (R.newInitiator s actions s' hs hinit).2
  · exact of_stage (R.newResponder msg s actions s' hs hresp).2
  · exact of_stage (R.disconnected msg s actions s' hs hdisc).2

end RoleInv

/-! ## The initiator -/

namespace InitiatorSignaling

variable (env : Env)

/-- What the initiator's peer handshake reads and the nonce check leaves: the signaling state,
our tasks, and the handshake state and session keys of every responder. -/
def handshakeView (s : InitiatorSignaling) : SignalingState × Option Tasks ×
    (Address → Option (ResponderHandshakeState × KeyPair × Option PublicKey)) :=
  (s.common.signalingState, s.common.tasks,
    fun a => (s.responders.lookup a).map fun r => (r.handshakeState, r.keypair, r.sessionKey))

lemma handshakeView_validateNonceDestination (nonce : Nonce) (s : InitiatorSignaling) :
    (validateNonceDestination nonce s).state.handshakeView = s.handshakeView := by
  rcases (validateNonceDestination_cases nonce s).2 with hsame | ⟨-, -, hassigned⟩
  · rw [hsame]
  · rw [hassigned]
    rfl

lemma handshakeView_setPeerWithAddress (s : InitiatorSignaling) (addr : Address)
    (csnPair : CombinedSequencePair) (cookiePair : CookiePair) :
    (setPeerWithAddress s addr csnPair cookiePair).handshakeView = s.handshakeView := by
  unfold setPeerWithAddress
  split
  · rfl
  · rfl
  · split_ifs
    · rfl
    · split
      · -- only the CSN and cookie pairs of the context change
        rename_i r hr
        simp only [handshakeView, Prod.mk.injEq, true_and]
        funext a
        by_cases ha : a = addr
        · subst ha
          rw [AList.lookup_replace_self (AList.lookup_isSome.mp (by simp [hr])), hr]
          rfl
        · rw [AList.lookup_replace_ne ha]
      · rfl

lemma handshakeView_setServerOurs (s : InitiatorSignaling) (ours : CombinedSequence) :
    (setServerOurs s ours).handshakeView = s.handshakeView := rfl

/-- `handle_peer_message` takes `token` in `New`, `key` in `TokenReceived` and `auth` in
`KeySent`, of the context of the sender. -/
lemma handlePeerMessage_eq_ok {obox : OpenBox Message} {s s' : InitiatorSignaling}
    {actions : List HandleAction} (h : handlePeerMessage env obox s = .ok actions s') :
    ∃ r, s.responders.lookup obox.nonce.source = some r ∧
      ((∃ msg, obox.message = .token msg ∧ r.handshakeState = .new ∧
          handleToken msg obox.nonce.source s = .ok actions s') ∨
        (∃ msg, obox.message = .key msg ∧ r.handshakeState = .tokenReceived ∧
          handleKey env msg obox.nonce.source s = .ok actions s') ∨
        (∃ msg, obox.message = .auth msg ∧ r.handshakeState = .keySent ∧
          handleAuth env msg obox.nonce.source s = .ok actions s')) := by
  simp only [handlePeerMessage, EStateM.bind_apply, EStateM.get_apply] at h
  cases hr : s.responders.lookup obox.nonce.source with
  | none => simp [hr] at h
  | some r =>
    simp only [hr] at h
    refine ⟨r, rfl, ?_⟩
    rcases hs : r.handshakeState <;> rcases hm : obox.message <;>
      simp only [hs, hm, EStateM.throw_apply, reduceCtorEq] at h <;> simp [h]

/-- The initiator opens every message of a responder under the nonce it came with. -/
lemma decodePeerMessage_nonce {s : InitiatorSignaling} {bbox : ByteBox} {obox : OpenBox Message}
    (h : decodePeerMessage env s bbox = .ok obox) : obox.nonce = bbox.nonce := by
  unfold decodePeerMessage at h
  split_ifs at h
  cases hr : s.responders.lookup bbox.nonce.source with
  | none => simp [hr] at h
  | some r =>
    simp only [hr] at h
    rcases hs : r.handshakeState <;> simp only [hs, reduceCtorEq] at h
    · -- `New`: the token
      rcases ha : s.common.authProvider with _ | (t | k) <;> simp only [ha, reduceCtorEq] at h
      exact OpenBox.decryptToken_nonce h
    · -- `TokenReceived`: the permanent keys; an opened message is passed on as it is
      cases hp : r.permanentKey <;> simp only [hp, reduceCtorEq] at h
      split at h
      · cases h
      · exact OpenBox.decrypt_nonce h
    · cases hk : r.sessionKey <;> simp only [hk, reduceCtorEq] at h
      exact OpenBox.decrypt_nonce h

/-- A responder in `KeySent` is read with its session key. -/
lemma decodePeerMessage_keySent {s : InitiatorSignaling} {bbox : ByteBox} {obox : OpenBox Message}
    {r : ResponderContext} (hr : s.responders.lookup bbox.nonce.source = some r)
    (hks : r.handshakeState = .keySent) (h : decodePeerMessage env s bbox = .ok obox) :
    ∃ k, r.sessionKey = some k ∧ OpenBox.decrypt env.sodium env.msgpack bbox r.keypair k = .ok obox := by
  unfold decodePeerMessage at h
  split_ifs at h
  simp only [hr, hks] at h
  cases hk : r.sessionKey with
  | none => simp [hk] at h
  | some k =>
    simp only [hk] at h
    exact ⟨k, rfl, h⟩

variable {env}

/-- The call that moves the initiator into the task state is the call that handles the `auth` of
a responder in `KeySent`, opened with its session keys, after a nonce check that leaves what the
handshake reads. -/
theorem entersTask_inv {bbox : ByteBox} {s s' : InitiatorSignaling} {actions : List HandleAction}
    (hi : s.Inv) (h : handleMessage env bbox s = .ok actions s')
    (hnt : s.common.signalingState ≠ .task) (ht : s'.common.signalingState = .task) :
    ∃ s₁ a r k, s₁.handshakeView = s.handshakeView ∧
      s₁.responders.lookup bbox.nonce.source = some r ∧ r.handshakeState = .keySent ∧
      r.sessionKey = some k ∧
      OpenBox.decrypt env.sodium env.msgpack bbox r.keypair k = .ok ⟨.auth a, bbox.nonce⟩ ∧
      handleAuth env a bbox.nonce.source s₁ = .ok actions s' := by
  -- a call that keeps the signaling state does not enter the task state
  have hsig : ∀ s₁ : InitiatorSignaling, s₁.handshakeView = s.handshakeView →
      s'.common.signalingState ≠ s₁.common.signalingState := by
    intro s₁ hview heq
    exact hnt ((congrArg Prod.fst hview).symm.trans (heq.symm.trans ht))
  rcases RoleInv.handleMessage_view handshakeView (roleInv env) handshakeView_validateNonceDestination
      handshakeView_setPeerWithAddress handshakeView_setServerOurs hi h with
    hsame | ⟨s₁, obox, nonceClone, hi₁, hview, hserver⟩ | ⟨s₁, obox, hview, -, hdecode, hhandle⟩
  · exact absurd (congrArg Prod.fst hsame) (hsig s rfl)
  · exact absurd ((congrArg Prod.fst hview).symm.trans
      (RoleInv.handleServerMessage_task (roleInv env) hi₁ hserver ht)) hnt
  · have hnonce := decodePeerMessage_nonce env hdecode
    obtain ⟨r, hr, htoken | hkey | hauth⟩ := handlePeerMessage_eq_ok env hhandle
    · obtain ⟨msg, -, -, htoken⟩ := htoken
      obtain ⟨r', -, -, rfl⟩ := EStateM.of_triple (handleToken_spec msg _ s₁) rfl htoken
      exact absurd rfl (hsig s₁ hview)
    · obtain ⟨msg, -, -, hkey⟩ := hkey
      obtain ⟨r', csnPair, -, -, -, rfl⟩ := EStateM.of_triple (handleKey_spec env msg _ s₁) rfl hkey
      exact absurd rfl (hsig s₁ hview)
    · obtain ⟨a, hmsg, hks, hauth⟩ := hauth
      rw [hnonce] at hr hauth
      obtain ⟨k, hk, hopen⟩ := decodePeerMessage_keySent env hr hks hdecode
      have hobox : obox = ⟨.auth a, bbox.nonce⟩ := by
        rw [← hmsg, ← hnonce]
      exact ⟨s₁, a, r, k, hview, hr, hks, hk, hobox ▸ hopen, hauth⟩

end InitiatorSignaling

/-! ## The responder -/

namespace ResponderSignaling

variable (env : Env)

/-- What the responder's peer handshake reads and the nonce check leaves: the signaling state, our
tasks, and the handshake state and session keys of the initiator's context. -/
def handshakeView (s : ResponderSignaling) :
    SignalingState × Option Tasks × InitiatorHandshakeState × KeyPair × Option PublicKey :=
  (s.common.signalingState, s.common.tasks, s.initiator.handshakeState, s.initiator.keypair,
    s.initiator.sessionKey)

lemma handshakeView_validateNonceDestination (nonce : Nonce) (s : ResponderSignaling) :
    (validateNonceDestination nonce s).state.handshakeView = s.handshakeView := by
  rcases (validateNonceDestination_cases nonce s).2 with hsame | ⟨-, -, -, hassigned⟩
  · rw [hsame]
  · rw [hassigned]
    rfl

lemma handshakeView_setPeerWithAddress (s : ResponderSignaling) (addr : Address)
    (csnPair : CombinedSequencePair) (cookiePair : CookiePair) :
    (setPeerWithAddress s addr csnPair cookiePair).handshakeView = s.handshakeView := by
  unfold setPeerWithAddress
  split <;> rfl

lemma handshakeView_setServerOurs (s : ResponderSignaling) (ours : CombinedSequence) :
    (setServerOurs s ours).handshakeView = s.handshakeView := rfl

/-- The responder reads the initiator's messages in `AuthSent` with its session keys. -/
lemma decodePeerMessage_authSent {s : ResponderSignaling} {bbox : ByteBox}
    {obox : OpenBox Message} (hs : s.initiator.handshakeState = .authSent)
    (h : decodePeerMessage env s bbox = .ok obox) :
    ∃ k, s.initiator.sessionKey = some k ∧
      OpenBox.decrypt env.sodium env.msgpack bbox s.initiator.keypair k = .ok obox := by
  unfold decodePeerMessage at h
  split_ifs at h
  simp only [hs] at h
  cases hk : s.initiator.sessionKey with
  | none => simp [hk] at h
  | some k =>
    simp only [hk] at h
    exact ⟨k, rfl, h⟩

/-- No message of the server puts the initiator's context in a handshake state other than the
one it had or `KeySent`. -/
lemma handleServerMessage_handshakeState {obox : OpenBox Message} {nonceClone : Option Nonce}
    {s s' : ResponderSignaling} {actions : List HandleAction}
    (h : handleServerMessage env obox nonceClone s = .ok actions s') :
    s'.initiator.handshakeState = s.initiator.handshakeState ∨
      s'.initiator.handshakeState = .keySent := by
  rcases handleServerMessage_eq_ok env h with ⟨msg, -, -, hhello⟩ |
    ⟨msg, -, -, hauth⟩ | ⟨-, ⟨-, hinit⟩ | ⟨msg, -, hresp⟩ | ⟨msg, -, hdisc⟩⟩
  · obtain ⟨-, ours, rfl⟩ := EStateM.of_triple (handleServerHello_spec env msg s) rfl hhello
    exact .inl rfl
  · obtain ⟨-, s₁, himpl, -, rfl⟩ :=
      EStateM.of_triple (handleServerAuth_spec env msg nonceClone s) rfl hauth
    have h₁ : s₁.initiator.handshakeState = s.initiator.handshakeState ∨
        s₁.initiator.handshakeState = .keySent :=
      EStateM.of_triple (handleServerAuthImpl_handshakeState_spec env msg s) rfl himpl
    exact h₁
  · exact .inr (EStateM.of_triple (handleNewInitiator_handshakeState_spec env) trivial hinit)
  · exact (EStateM.of_triple handleNewResponder_spec trivial hresp).elim
  · rw [EStateM.of_triple (handleDisconnected_spec msg s) rfl hdisc]
    exact .inl rfl

variable {env}

/-- The call that puts the initiator's context in `AuthSent` is the call that handles the
initiator's `key` in `KeySent`, in the peer handshake, after a nonce check that leaves what the
handshake reads. -/
theorem sendsAuth_inv {bbox : ByteBox} {s s' : ResponderSignaling} {actions : List HandleAction}
    (hi : s.Inv) (h : handleMessage env bbox s = .ok actions s')
    (hbefore : s.initiator.handshakeState ≠ .authSent)
    (hafter : s'.initiator.handshakeState = .authSent) :
    ∃ s₁ obox msg, s₁.handshakeView = s.handshakeView ∧
      s₁.common.signalingState = .peerHandshake ∧ decodePeerMessage env s₁ bbox = .ok obox ∧
      obox.message = .key msg ∧ handleKey env msg obox.nonce s₁ = .ok actions s' := by
  have hstate : ∀ s₁ : ResponderSignaling, s₁.handshakeView = s.handshakeView →
      s₁.initiator.handshakeState = s.initiator.handshakeState :=
    fun _ hview => congrArg (fun v => v.2.2.1) hview
  rcases RoleInv.handleMessage_view handshakeView (roleInv env) handshakeView_validateNonceDestination
      handshakeView_setPeerWithAddress handshakeView_setServerOurs hi h with
    hsame | ⟨s₁, obox, nonceClone, -, hview, hserver⟩ | ⟨s₁, obox, hview, hsig, hdecode, hhandle⟩
  · exact absurd ((hstate s' hsame).symm.trans hafter) hbefore
  · rcases handleServerMessage_handshakeState env hserver with hsame | hkey
    · exact absurd ((hstate s₁ hview).symm.trans (hsame.symm.trans hafter)) hbefore
    · rw [hkey] at hafter
      cases hafter
  · rcases handlePeerMessage_eq_ok env hhandle with ⟨msg, hmsg, -, hkey⟩ | ⟨msg, -, -, hauth⟩
    · exact ⟨s₁, obox, msg, hview, hsig, hdecode, hmsg, hkey⟩
    · -- `auth` moves the context to `AuthReceived`
      obtain ⟨chosen, -, rfl⟩ := EStateM.of_triple (handleAuth_spec env msg s₁) rfl hauth
      cases hafter

/-- The call that moves the responder into the task state is the call that handles the
initiator's `auth` in `AuthSent`, opened with the session keys, after a nonce check that leaves
what the handshake reads. -/
theorem entersTask_inv {bbox : ByteBox} {s s' : ResponderSignaling} {actions : List HandleAction}
    (hi : s.Inv) (h : handleMessage env bbox s = .ok actions s')
    (hnt : s.common.signalingState ≠ .task) (ht : s'.common.signalingState = .task) :
    ∃ s₁ a k, s₁.handshakeView = s.handshakeView ∧ s₁.initiator.sessionKey = some k ∧
      OpenBox.decrypt env.sodium env.msgpack bbox s₁.initiator.keypair k = .ok ⟨.auth a, bbox.nonce⟩ ∧
      handleAuth env a s₁ = .ok actions s' := by
  rcases RoleInv.handleMessage_view handshakeView (roleInv env) handshakeView_validateNonceDestination
      handshakeView_setPeerWithAddress handshakeView_setServerOurs hi h with
    hsame | ⟨s₁, obox, nonceClone, hi₁, hview, hserver⟩ | ⟨s₁, obox, hview, -, hdecode, hhandle⟩
  · exact absurd ((congrArg Prod.fst hsame).symm.trans ht) hnt
  · exact absurd ((congrArg Prod.fst hview).symm.trans
      (RoleInv.handleServerMessage_task (roleInv env) hi₁ hserver ht)) hnt
  · rcases handlePeerMessage_eq_ok env hhandle with ⟨msg, -, -, hkey⟩ | ⟨a, hmsg, hs, hauth⟩
    · -- `key` keeps the stage
      have hstage := EStateM.of_triple (handleKey_spec env msg obox.nonce _) rfl hkey
      have hsig := (congrArg Stage.signalingState hstage).symm.trans ht
      exact absurd ((congrArg Prod.fst hview).symm.trans hsig) hnt
    · obtain ⟨k, hk, hopen⟩ := decodePeerMessage_authSent env hs hdecode
      have hobox : obox = ⟨.auth a, bbox.nonce⟩ := by
        rw [← hmsg, ← OpenBox.decrypt_nonce hopen]
      exact ⟨s₁, a, k, hview, hk, hobox ▸ hopen, hauth⟩

end ResponderSignaling

end SaltyRtc
