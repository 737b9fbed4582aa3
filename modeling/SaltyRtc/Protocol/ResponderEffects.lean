import Mathlib
import SaltyRtc.Protocol.Effects

/-!
# What the responder's handlers do to its state

The effect of each of the responder's handlers on a successful call. Only `auth` changes the
stage of the responder: it fixes the task and moves to the task state. Every other handler works
on the context of the initiator (its keys, its CSN, a fresh context for a new initiator) or uses
up the auth token, and leaves the stage as it is.
-/

namespace SaltyRtc

open Std.Do

set_option mvcgen.warning false

/-- `InitiatorContext::new` holds no session key of the initiator. -/
lemma InitiatorContext.new_sessionKey {d : Draw} {k : PublicKey} {c : InitiatorContext}
    (h : InitiatorContext.new d k = some c) : c.sessionKey = none := by
  simp only [InitiatorContext.new, Option.map_eq_some_iff] at h
  obtain ⟨_, -, rfl⟩ := h
  rfl

namespace ResponderSignaling

open Signaling

variable (env : Env)

/-- `setServerOurs` at the responder. -/
@[simp] lemma setServerOurs_eq (s : ResponderSignaling) (ours : CombinedSequence) :
    setServerOurs s ours = { s with common := { s.common with
      server := { s.common.server with csnPair := { s.common.server.csnPair with ours } } } } :=
  rfl

@[simp] lemma stage_setPeerWithAddress (s : ResponderSignaling) (addr : Address)
    (csnPair : CombinedSequencePair) (cookiePair : CookiePair) :
    (setPeerWithAddress s addr csnPair cookiePair).common.stage = s.common.stage := by
  unfold setPeerWithAddress
  split <;> rfl

/-! ## Messages to the initiator -/

@[spec] theorem nextInitiatorNonce_spec (st : Stage) :
    ⦃fun s => ⌜s.common.stage = st⌝⦄ nextInitiatorNonce ⦃⇓? _ s => ⌜s.common.stage = st⌝⦄ := by
  mvcgen [nextInitiatorNonce, liftAddress, liftResult]

/-- `send_token` and `send_key` for the peer handshake, which use up the auth token, leave the
stage. -/
@[spec] theorem sendTokenAndKey_spec (st : Stage) :
    ⦃fun s => ⌜s.common.stage = st⌝⦄ sendTokenAndKey env ⦃⇓? _ s => ⌜s.common.stage = st⌝⦄ := by
  mvcgen [sendTokenAndKey, sendToken, sendKey]
  -- with a token: using it up leaves the stage, and so do the nonces of `token` and `key`
  · rename_i hst _ _ _ _ _ _ htoken _ _ _ hkey
    exact hkey.trans (htoken.trans hst)
  -- with a trusted key: `key` only
  · rename_i hst _ _ _ _ _ _ hkey
    exact hkey.trans hst

/-! ## The peer handshake -/

/-- `handle_key` stores the initiator's session key and leaves the stage. -/
theorem handleKey_spec (msg : Key) (nonce : Nonce) (st : Stage) :
    ⦃fun s => ⌜s.common.stage = st⌝⦄ handleKey env msg nonce
    ⦃⇓? _ s => ⌜s.common.stage = st⌝⦄ := by
  mvcgen [handleKey, liftResult]
  -- storing the session key leaves the stage, and so does the nonce of `auth`
  rename_i hst _ _ _ _ _ _ _ _ _ _ hnonce _ _ _
  exact hnonce.trans hst

/-- What `handle_key` sends: our `auth`, built by `ResponderAuthBuilder` from our tasks and the
cookie of the initiator's nonce, sealed with our session key pair and the initiator's session key
it just stored; the context then waits in `AuthSent`. -/
theorem handleKey_auth_spec (msg : Key) (nonce : Nonce) (s₀ : ResponderSignaling) :
    ⦃fun s => ⌜s = s₀⌝⦄ handleKey env msg nonce
    ⦃⇓? actions s => ⌜∃ tasks auth n, s₀.common.tasks = some tasks ∧
      ResponderAuthBuilder.build nonce.cookie tasks = .ok auth ∧
      actions = [.reply (OpenBox.encrypt env.sodium env.msgpack ⟨.auth auth, n⟩
        s₀.initiator.keypair msg.key)] ∧
      s.common = s₀.common ∧ s.initiator.keypair = s₀.initiator.keypair ∧
      s.initiator.sessionKey = some msg.key ∧ s.initiator.handshakeState = .authSent⌝⦄ := by
  mvcgen [handleKey, liftResult, nextInitiatorNonce, liftAddress]
  -- the one successful path: our tasks, and the `auth` message built from them
  rename_i htasks _ hbuild _ _ _ _ _ _ _
  subst_vars
  exact ⟨_, _, _, htasks, hbuild, rfl, rfl, rfl⟩

/-- `handle_auth` takes out our tasks, fixes the task the initiator chose and moves to the task
state. -/
theorem handleAuth_spec (msg : Auth) (s₀ : ResponderSignaling) :
    ⦃fun s => ⌜s = s₀⌝⦄ handleAuth env msg
    ⦃⇓? _ s => ⌜∃ chosen,
      (s₀.common.signalingState = .peerHandshake ∨ s₀.common.signalingState = .task) ∧
      s = { s₀ with
        common := { s₀.common with
          tasks := none, task := some chosen, taskSupportedTypes := some chosen.supportedTypes,
          signalingState := .task }
        initiator := { s₀.initiator with handshakeState := .authReceived } }⌝⦄ := by
  mvcgen [handleAuth, liftResult]
  -- the one successful path ends by moving to the task state
  rename_i hset
  subst_vars
  obtain ⟨hmay, rfl⟩ := Common.setSignalingState_eq_ok.mp hset
  exact ⟨_, by simpa using hmay.symm, rfl⟩

/-- The task a successful `handle_auth` fixes: ours of the name in the `task` field, with the
data the initiator sent for it. -/
theorem handleAuth_task_spec (msg : Auth) (s₀ : ResponderSignaling) :
    ⦃fun s => ⌜s = s₀⌝⦄ handleAuth env msg
    ⦃⇓? _ s => ⌜∃ tasks name t d, s₀.common.tasks = some tasks ∧ msg.task = some name ∧
      tasks.tasks.find? (fun t => t.name = name) = some t ∧ msg.data.lookup t.name = some d ∧
      s.common.task = some { t with initData := some d }⌝⦄ := by
  mvcgen [handleAuth, liftResult]
  -- the one successful path: the task named in `task`, found among ours, with the data sent
  rename_i htask _ htasks _ hfind _ _ _ _ _ hdata _ _ _ _ hset
  subst_vars
  obtain ⟨-, rfl⟩ := Common.setSignalingState_eq_ok.mp hset
  exact ⟨_, _, _, _, htasks, htask, hfind, hdata, rfl⟩

/-- A `close` message during the peer handshake always fails. -/
theorem handlePeerHandshakeClose_spec (msg : Close) :
    ⦃fun _ => ⌜True⌝⦄ handlePeerHandshakeClose msg ⦃⇓? _ _ => ⌜False⌝⦄ := by
  mvcgen [handlePeerHandshakeClose]

/-- `handle_peer_message` hands the initiator's `key` and `auth` to their handlers. -/
theorem handlePeerMessage_spec (obox : OpenBox Message) (s₀ : ResponderSignaling) :
    ⦃fun s => ⌜s = s₀⌝⦄ handlePeerMessage env obox
    ⦃⇓? actions s => ⌜(∃ msg, obox.message = .key msg ∧
        handleKey env msg obox.nonce s₀ = .ok actions s) ∨
      (∃ msg, obox.message = .auth msg ∧ handleAuth env msg s₀ = .ok actions s)⌝⦄ := by
  have hkey := fun msg => EStateM.triple_run (handleKey env msg obox.nonce)
  have hauth := fun msg => EStateM.triple_run (handleAuth env msg)
  have hclose := fun msg => handlePeerHandshakeClose_spec msg
  mvcgen [handlePeerMessage, hkey, hauth, hclose]
  all_goals subst_vars
  -- `key` in `KeySent`, `auth` in `AuthSent`; `close` never returns
  · exact fun h => .inl ⟨_, ‹_›, h⟩
  · exact fun h => .inr ⟨_, ‹_›, h⟩
  · exact False.elim

/-- `handle_peer_message` takes `key` only in `KeySent` and `auth` only in `AuthSent`. -/
lemma handlePeerMessage_eq_ok {obox : OpenBox Message} {s s' : ResponderSignaling}
    {actions : List HandleAction} (h : handlePeerMessage env obox s = .ok actions s') :
    (∃ msg, obox.message = .key msg ∧ s.initiator.handshakeState = .keySent ∧
      handleKey env msg obox.nonce s = .ok actions s') ∨
    (∃ msg, obox.message = .auth msg ∧ s.initiator.handshakeState = .authSent ∧
      handleAuth env msg s = .ok actions s') := by
  simp only [handlePeerMessage, EStateM.bind_apply, EStateM.get_apply] at h
  rcases hs : s.initiator.handshakeState <;> rcases hm : obox.message <;>
    simp only [hs, hm, EStateM.throw_apply, reduceCtorEq] at h
  -- a `close` in `AuthSent` always fails
  all_goals first
    | exact (EStateM.of_triple (handlePeerHandshakeClose_spec _) trivial h).elim
    | simp [h]

/-! ## Server messages -/

/-- `handle_server_auth_impl` opens the peer handshake if the initiator is connected. -/
theorem handleServerAuthImpl_spec (msg : ServerAuth) (st : Stage) :
    ⦃fun s => ⌜s.common.stage = st⌝⦄ handleServerAuthImpl env msg
    ⦃⇓? _ s => ⌜s.common.stage = st⌝⦄ := by
  mvcgen [handleServerAuthImpl]
  -- with the initiator connected: `token` and `key`, then the context waits in `KeySent`
  rename_i hst _ _ hsend _
  exact hsend.trans hst

/-- `handle_server_auth_impl` leaves the initiator's context in its handshake state, or opens the
peer handshake in `KeySent`. -/
theorem handleServerAuthImpl_handshakeState_spec (msg : ServerAuth) (s₀ : ResponderSignaling) :
    ⦃fun s => ⌜s = s₀⌝⦄ handleServerAuthImpl env msg
    ⦃⇓? _ s => ⌜s.initiator.handshakeState = s₀.initiator.handshakeState ∨
      s.initiator.handshakeState = .keySent⌝⦄ := by
  mvcgen [handleServerAuthImpl]
  all_goals subst_vars
  -- with the initiator connected, the context waits in `KeySent`; without, nothing changes
  · exact .inr rfl
  · exact .inl rfl

/-- `handle_server_auth_impl` keeps the initiator's session key. -/
theorem handleServerAuthImpl_sessionKey_spec (msg : ServerAuth) (s₀ : ResponderSignaling) :
    ⦃fun s => ⌜s = s₀⌝⦄ handleServerAuthImpl env msg
    ⦃⇓? _ s => ⌜s.initiator.sessionKey = s₀.initiator.sessionKey⌝⦄ := by
  -- the messages to the initiator advance our CSN towards it and leave its keys
  unfold handleServerAuthImpl sendTokenAndKey sendToken sendKey nextInitiatorNonce
  mvcgen [liftAddress, liftResult]
  all_goals
    subst_vars
    rfl

/-- `handle_new_initiator` replaces the initiator's context and opens the peer handshake. -/
theorem handleNewInitiator_spec (st : Stage) :
    ⦃fun s => ⌜s.common.stage = st⌝⦄ handleNewInitiator env
    ⦃⇓? _ s => ⌜s.common.stage = st⌝⦄ := by
  mvcgen [handleNewInitiator]
  -- the fresh context, then `token` and `key`, which leave the stage
  rename_i hst _ _ _ _ hsend _
  exact hsend.trans hst

/-- The new initiator's context waits in `KeySent`. -/
theorem handleNewInitiator_handshakeState_spec :
    ⦃fun _ => ⌜True⌝⦄ handleNewInitiator env
    ⦃⇓? _ s => ⌜s.initiator.handshakeState = .keySent⌝⦄ := by
  mvcgen [handleNewInitiator]

/-- The new initiator's context holds no session key. -/
theorem handleNewInitiator_sessionKey_spec :
    ⦃fun _ => ⌜True⌝⦄ handleNewInitiator env ⦃⇓? _ s => ⌜s.initiator.sessionKey = none⌝⦄ := by
  unfold handleNewInitiator sendTokenAndKey sendToken sendKey nextInitiatorNonce
  mvcgen [liftAddress, liftResult]
  -- the messages to the initiator change only the CSN of the context drawn
  all_goals
    have hnew := InitiatorContext.new_sessionKey ‹InitiatorContext.new _ _ = some _›
    exact hnew

/-- The responder never accepts `new-responder`. -/
theorem handleNewResponder_spec :
    ⦃fun _ => ⌜True⌝⦄ handleNewResponder ⦃⇓? _ _ => ⌜False⌝⦄ := by
  mvcgen [handleNewResponder]

/-- `handle_disconnected` changes nothing. -/
theorem handleDisconnected_spec (msg : Disconnected) (s₀ : ResponderSignaling) :
    ⦃fun s => ⌜s = s₀⌝⦄ handleDisconnected msg ⦃⇓? _ s => ⌜s = s₀⌝⦄ := by
  mvcgen [handleDisconnected]

end ResponderSignaling

end SaltyRtc
