import Mathlib
import SaltyRtc.Lib.Triple
import SaltyRtc.Protocol.Stage
import SaltyRtc.Protocol.Validation

/-!
# What the shared handlers do to a client's state

The effect of each default method of the `Signaling` trait on a successful call: the state it
ends in, as an update of the state it started from. The methods that run straight through are
specified by triples, proved by `mvcgen`; the methods that hand the message on to another handler
(`handle_message`, `handle_server_message`, `handle_handshake_peer_message`) and `handle_server_auth`,
which calls the role's part, get a lemma listing what a successful call went through.
-/

namespace SaltyRtc

open Std.Do

set_option mvcgen.warning false

attribute [simp] Signaling.common_setCommon Signaling.setCommon_common
  Signaling.setCommon_setCommon SignalingState.mayTransitionTo_iff

/-- Setting the signaling state succeeds on the state itself and on the one before it, and
changes nothing else. -/
@[simp] lemma Common.setSignalingState_eq_ok {c c' : Common} {state : SignalingState} :
    c.setSignalingState state = .ok c' ↔
      (c.signalingState = state ∨ c.signalingState.mayTransitionTo state) ∧
        c' = { c with signalingState := state } := by
  unfold Common.setSignalingState
  by_cases hsame : c.signalingState = state
  · -- setting the current state again is ignored
    subst hsame
    simp only [if_true, Except.ok.injEq, true_or, true_and]
    exact ⟨fun h => h ▸ rfl, fun h => h ▸ rfl⟩
  · by_cases hmay : c.signalingState.mayTransitionTo state
    · simp only [hsame, hmay, if_false, Bool.not_true, Bool.false_eq_true, Except.ok.injEq,
        or_true, true_and]
      exact eq_comm
    · simp [hsame, hmay]

namespace Signaling

variable {σ : Type} [Signaling σ] (env : Env)

/-- The state with our CSN towards the server replaced: all that sending to the server
changes. -/
def setServerOurs (s : σ) (ours : CombinedSequence) : σ :=
  setCommon s { common s with
    server := { (common s).server with csnPair := { (common s).server.csnPair with ours } } }

@[simp] lemma setServerOurs_setServerOurs (s : σ) (ours ours' : CombinedSequence) :
    setServerOurs (setServerOurs s ours) ours' = setServerOurs s ours' := by
  simp [setServerOurs]

@[simp] lemma setServerOurs_self (s : σ) : setServerOurs s (common s).server.csnPair.ours = s :=
  setCommon_common s

@[simp] lemma stage_setServerOurs (s : σ) (ours : CombinedSequence) :
    (common (setServerOurs s ours)).stage = (common s).stage := by
  simp [setServerOurs]

/-- `nextServerNonce` only advances our CSN towards the server. -/
@[spec] theorem nextServerNonce_spec (s₀ : σ) :
    ⦃fun s => ⌜s = s₀⌝⦄ (nextServerNonce : SignalingM σ Nonce)
    ⦃⇓? _ s => ⌜∃ ours, s = setServerOurs s₀ ours⌝⦄ := by
  mvcgen [nextServerNonce, modifyCommon, liftAddress, liftResult]
  subst_vars
  exact ⟨_, rfl⟩

/-- `send_drop_responder` only advances our CSN towards the server. -/
@[spec] theorem sendDropResponder_spec (addr : Address) (reason : DropReason) (s₀ : σ) :
    ⦃fun s => ⌜s = s₀⌝⦄ (sendDropResponder env addr reason : SignalingM σ HandleAction)
    ⦃⇓? _ s => ⌜∃ ours, s = setServerOurs s₀ ours⌝⦄ := by
  mvcgen [sendDropResponder]
  -- the branch that encrypts `drop-responder`: only the server nonce advanced our CSN
  rename_i hnonce _ _
  subst_vars
  exact hnonce

/-- A run of `drop-responder` messages only advances our CSN towards the server. -/
@[spec] theorem sendDropResponders_spec (addrs : List Address) (reason : DropReason) (s₀ : σ) :
    ⦃fun s => ⌜s = s₀⌝⦄
    (addrs.mapM fun addr => (sendDropResponder env addr reason : SignalingM σ HandleAction))
    ⦃⇓? _ s => ⌜∃ ours, s = setServerOurs s₀ ours⌝⦄ := by
  -- each message keeps the state an update of our CSN in the state before the loop
  have hstep : ∀ addr ∈ addrs,
      ⦃fun s => ⌜∃ ours, s = setServerOurs s₀ ours⌝⦄
      (sendDropResponder env addr reason : SignalingM σ HandleAction)
      ⦃⇓? _ s => ⌜∃ ours, s = setServerOurs s₀ ours⌝⦄ := by
    intro addr _
    refine EStateM.triple_of_forall fun s₁ ⟨ours, hs₁⟩ => EStateM.triple_of_run fun _ _ h => ?_
    obtain ⟨ours', rfl⟩ := EStateM.of_triple (sendDropResponder_spec env addr reason s₁) rfl h
    exact ⟨ours', by rw [hs₁, setServerOurs_setServerOurs]⟩
  refine EStateM.triple_of_run fun _ _ h => ?_
  exact EStateM.of_triple (EStateM.mapM_inv _ _ _ hstep) ⟨_, (setServerOurs_self s₀).symm⟩ h

/-- A `close` message for a context the caller owns changes nothing, whether it can be encoded
or not. -/
theorem encodeCloseMessage_some_spec (reason : CloseCode) (peer : Peer) (s₀ : σ) :
    ⦃fun s => ⌜s = s₀⌝⦄ (encodeCloseMessage env reason (some peer) : SignalingM σ ByteBox)
    ⦃post⟨fun _ s => ⌜s = s₀⌝, fun _ s => ⌜s = s₀⌝⟩⦄ := by
  mvcgen [encodeCloseMessage, liftAddress, liftResult]

/-- `handle_server_hello` stores the server's session key, which was unknown, and moves the
server handshake to `ClientInfoSent`; it also advances our CSN towards the server. -/
theorem handleServerHello_spec (msg : ServerHello) (s₀ : σ) :
    ⦃fun s => ⌜s = s₀⌝⦄ (handleServerHello env msg : SignalingM σ (List HandleAction))
    ⦃⇓? _ s => ⌜(common s₀).server.sessionKey = none ∧ ∃ ours, s = setCommon s₀ { common s₀ with
      server := { (common s₀).server with
        sessionKey := some msg.key, handshakeState := .clientInfoSent,
        csnPair := { (common s₀).server.csnPair with ours } } }⌝⦄ := by
  mvcgen [handleServerHello, modifyCommon]
  all_goals simp only [setServerOurs] at *
  -- the responder: the session key, the nonces of `client-hello` and `client-auth`, then the
  -- handshake state; the second nonce's CSN is the one that stays
  · rename_i hnone _ _ _ _ _ _ hs₁ _ _ _ _ _ _ hs _ _ _ _
    obtain ⟨_, rfl⟩ := hs₁
    obtain ⟨ours, rfl⟩ := hs
    subst_vars
    exact ⟨by simpa using hnone, ours, by simp +zetaDelta⟩
  -- the initiator sends `client-auth` only
  · rename_i hnone _ _ _ _ _ _ _ _ _ hs _ _ _ _
    obtain ⟨ours, rfl⟩ := hs
    subst_vars
    exact ⟨by simpa using hnone, ours, by simp +zetaDelta⟩

end Signaling

namespace Handlers

open Signaling

variable {σ : Type} [Handlers σ] (env : Env)

/-- `handle_server_auth` runs the role's part on the state it was called in, then completes the
server handshake and moves to the peer handshake; it needs an identity. -/
theorem handleServerAuth_spec (msg : ServerAuth) (nonceClone : Option Nonce) (s₀ : σ) :
    ⦃fun s => ⌜s = s₀⌝⦄ (handleServerAuth env msg nonceClone : SignalingM σ (List HandleAction))
    ⦃⇓? actions s => ⌜(common s₀).identity ≠ .unknown ∧
      ∃ s₁, (handleServerAuthImpl env msg : SignalingM σ (List HandleAction)) s₀ = .ok actions s₁ ∧
        ((common s₁).signalingState = .serverHandshake ∨
          (common s₁).signalingState = .peerHandshake) ∧
        s = setCommon s₁ { common s₁ with
          server := { (common s₁).server with handshakeState := .done },
          signalingState := .peerHandshake }⌝⦄ := by
  have himpl := EStateM.triple_run (handleServerAuthImpl env msg : SignalingM σ (List HandleAction))
  mvcgen [handleServerAuth, modifyCommon, liftResult, liftFault, himpl]
  -- with the server's permanent key checked or not, the role's part ran, the server handshake
  -- is done, and the signaling state moved to the peer handshake
  all_goals
    rename_i himpl _ _ hset
    obtain ⟨hmay, rfl⟩ := Common.setSignalingState_eq_ok.mp hset
    subst_vars
    refine ⟨‹_›, _, himpl, by simpa +zetaDelta using hmay.symm, by simp +zetaDelta⟩

/-- `handle_server_message` hands each message of the server to its handler in the one server
handshake state that expects it. -/
lemma handleServerMessage_eq_ok {obox : OpenBox Message} {nonceClone : Option Nonce} {s s' : σ}
    {actions : List HandleAction}
    (h : handleServerMessage env obox nonceClone s = .ok actions s') :
    (∃ msg, (common s).server.handshakeState = .new ∧ obox.message = .serverHello msg ∧
      handleServerHello env msg s = .ok actions s') ∨
    (∃ msg, (common s).server.handshakeState = .clientInfoSent ∧ obox.message = .serverAuth msg ∧
      handleServerAuth env msg nonceClone s = .ok actions s') ∨
    (common s).server.handshakeState = .done ∧
      (obox.message = .newInitiator ∧ handleNewInitiator env s = .ok actions s' ∨
        (∃ msg, obox.message = .newResponder msg ∧ handleNewResponder env msg s = .ok actions s') ∨
        (∃ msg, obox.message = .disconnected msg ∧ handleDisconnected msg s = .ok actions s')) := by
  simp only [handleServerMessage, EStateM.bind_apply, EStateM.get_apply] at h
  -- every other pair of state and message is an invalid transition, or `drop-responder`, which
  -- panics, or `send-error`, which fails
  rcases hs : (common s).server.handshakeState <;> rcases hm : obox.message <;>
    simp only [hs, hm, EStateM.throw_apply, reduceCtorEq] at h <;> simp [h]

/-- `handle_handshake_peer_message`: a `key` message the initiator cannot open is answered by
`drop-responder`; any other message must decrypt, and is handled in the peer handshake only, by
the server's handler when the box, from a peer, opens under a nonce from the server. -/
theorem handleHandshakePeerMessage_spec (bbox : ByteBox) (s₀ : σ) :
    ⦃fun s => ⌜s = s₀⌝⦄ (handleHandshakePeerMessage env bbox : SignalingM σ (List HandleAction))
    ⦃⇓? actions s => ⌜(decodePeerMessage env s₀ bbox = .error .initiatorCouldNotDecrypt ∧
        ∃ ours, s = setServerOurs s₀ ours) ∨
      ∃ obox, decodePeerMessage env s₀ bbox = .ok obox ∧
        (common s₀).signalingState = .peerHandshake ∧
        ((bbox.nonce.source.isServer = false ∧ obox.nonce.source.isServer ∧
            (handleServerMessage env obox none : SignalingM σ (List HandleAction)) s₀ =
              .ok actions s) ∨
          (handlePeerMessage env obox : SignalingM σ (List HandleAction)) s₀ = .ok actions s)⌝⦄ := by
  have hserver := fun obox =>
    EStateM.triple_run (handleServerMessage env obox none : SignalingM σ (List HandleAction))
  have hpeer := fun obox =>
    EStateM.triple_run (handlePeerMessage env obox : SignalingM σ (List HandleAction))
  mvcgen [handleHandshakePeerMessage, hserver, hpeer]
  -- `drop-responder`, for a box of a responder the initiator could not open
  · rename_i hdecode _ _ hdrop
    subst_vars
    exact .inl ⟨hdecode, hdrop⟩
  -- a box opened in the peer handshake, under a nonce from the server, and from the peer
  · rename_i hsrc _ _ _ obox hdecode hsig hobox _ _
    intro h
    subst_vars
    exact .inr ⟨obox, hdecode, hsig, .inl ⟨by simpa using hsrc, hobox, h⟩⟩
  · rename_i obox hdecode hsig _ _ _
    intro h
    subst_vars
    exact .inr ⟨obox, hdecode, hsig, .inr h⟩

/-- A task message changes nothing. -/
@[spec] theorem handleTaskPeerMessage_spec (bbox : ByteBox) (s₀ : σ) :
    ⦃fun s => ⌜s = s₀⌝⦄ (handleTaskPeerMessage env bbox : SignalingM σ (List HandleAction))
    ⦃⇓? _ s => ⌜s = s₀⌝⦄ := by
  mvcgen [handleTaskPeerMessage, liftResult]

/-- `checkNonce` goes on after a passed check and stops after a dropped one. -/
@[spec] theorem checkNonce_spec (nonce : Nonce) (s₀ : σ) :
    ⦃fun s => ⌜s = s₀⌝⦄ (checkNonce nonce : SignalingM σ Bool)
    ⦃⇓? valid s => ⌜validateNonce nonce s₀ = .ok () s ∧ valid = true ∨
      (∃ m, validateNonce nonce s₀ = .error (.err (.dropMsg m)) s) ∧ valid = false⌝⦄ :=
  EStateM.triple_of_run fun _ _ h => checkNonce_eq_ok h

/-- `handle_message` checks the nonce; a dropped message, and a task message, end in the state
the check left; a message of the server is opened and goes to `handle_server_message`, with the
nonce it came with when it is a `server-auth`; any other goes to the handshake handler. -/
theorem handleMessage_spec (bbox : ByteBox) (s₀ : σ) :
    ⦃fun s => ⌜s = s₀⌝⦄ (handleMessage env bbox : SignalingM σ (List HandleAction))
    ⦃⇓? actions s => ⌜∃ s₁, (validateNonce bbox.nonce s₀ = .ok () s₁ ∨
        ∃ m, validateNonce bbox.nonce s₀ = .error (.err (.dropMsg m)) s₁) ∧
      (s = s₁ ∨
        (bbox.nonce.source.isServer ∧ ∃ obox, decodeServerMessage env s₁ bbox = .ok obox ∧
          (handleServerMessage env obox
            (if obox.message.getType = "server-auth" then some bbox.nonce else none) :
            SignalingM σ _) s₁ = .ok actions s) ∨
        (handleHandshakePeerMessage env bbox : SignalingM σ _) s₁ = .ok actions s)⌝⦄ := by
  have hserver := fun obox nonceClone =>
    EStateM.triple_run (handleServerMessage env obox nonceClone : SignalingM σ (List HandleAction))
  have hpeer := EStateM.triple_run
    (handleHandshakePeerMessage env bbox : SignalingM σ (List HandleAction))
  mvcgen [handleMessage, hserver, hpeer, liftResult]
  -- the check, passed or dropped, is the first half of the postcondition in every branch
  all_goals subst_vars
  -- a dropped message
  · rename_i hcheck
    exact ⟨_, hcheck.imp And.left And.left, .inl rfl⟩
  -- a message from the server, opened and handed on with its nonce for `server-auth`
  · rename_i hsrc _ hcheck _ hdecode _ _ _
    intro h
    exact ⟨_, hcheck.imp And.left And.left, .inr (.inl ⟨hsrc, _, hdecode, h⟩)⟩
  -- a message from a peer in the server or the peer handshake
  · rename_i hcheck _ _ _
    intro h
    exact ⟨_, hcheck.imp And.left And.left, .inr (.inr h)⟩
  · rename_i hcheck _ _ _
    intro h
    exact ⟨_, hcheck.imp And.left And.left, .inr (.inr h)⟩
  -- a task message
  · rename_i hcheck _ _ _
    intro h
    exact ⟨_, hcheck.imp And.left And.left, .inl h⟩

end Handlers

end SaltyRtc
