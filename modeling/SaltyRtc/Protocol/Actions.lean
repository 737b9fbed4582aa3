import Mathlib
import SaltyRtc.Protocol.Registration

/-!
# What a call of `handle_message` returns

`do_handshake` (`src/lib.rs`) acts on the list of `HandleAction`s each call of `handle_message`
returns: it sends the replies, forwards the events, stops after `HandshakeDone`, fails after a
`HandshakeError` and takes a task message for a crash. A successful call returns one of four
kinds of list (`Handlers.Shape`): replies and events only; in the task state, what a peer's task
message carries; the replies that end the peer handshake followed by `HandshakeDone`, the client
then being in the task state; or the initiator's `close` to a responder with which it shares no
task, if it could be encoded, followed by the `NoSharedTask` error.

The argument is made once for both roles (`ActionRole.handleMessage_shape`) from what an
`ActionRole` records of a role's handlers, and each role then supplies these facts.
-/

namespace SaltyRtc

open Std.Do

set_option mvcgen.warning false

/-- An action that talks to the server or the peer, or informs the user: a reply or an event. -/
def HandleAction.isSignal : HandleAction → Bool
  | .reply _ | .event _ => true
  | _ => false

/-- An action that hands a task message to the task. -/
def HandleAction.isTaskMessage : HandleAction → Bool
  | .taskMessage _ => true
  | _ => false

namespace HandleAction

@[simp] lemma isSignal_reply (bbox : ByteBox) : (reply bbox).isSignal = true := rfl
@[simp] lemma isSignal_event (e : Event) : (event e).isSignal = true := rfl
@[simp] lemma isSignal_handshakeDone : handshakeDone.isSignal = false := rfl
@[simp] lemma isSignal_handshakeError (e : SaltyError) : (handshakeError e).isSignal = false := rfl
@[simp] lemma isTaskMessage_taskMessage (m : TaskMessage) : (taskMessage m).isTaskMessage = true :=
  rfl

/-- A reply or an event is no handshake error. -/
lemma isHandshakeError_of_isSignal {a : HandleAction} (h : a.isSignal = true) :
    a.isHandshakeError = false := by
  cases a <;> simp_all [isSignal, isHandshakeError]

/-- A task message is no handshake error. -/
lemma isHandshakeError_of_isTaskMessage {a : HandleAction} (h : a.isTaskMessage = true) :
    a.isHandshakeError = false := by
  cases a <;> simp_all [isTaskMessage, isHandshakeError]

/-- No action or one task message: only task messages. -/
lemma isTaskMessage_of_single {actions : List HandleAction}
    (h : actions = [] ∨ ∃ m, actions = [.taskMessage m]) : ∀ a ∈ actions, a.isTaskMessage = true := by
  rcases h with rfl | ⟨m, rfl⟩ <;> simp

end HandleAction

/-- Replies and events carry no handshake error. -/
lemma NoHandshakeError.of_signals {actions : List HandleAction}
    (h : ∀ a ∈ actions, a.isSignal = true) : NoHandshakeError actions :=
  fun a ha => HandleAction.isHandshakeError_of_isSignal (h a ha)

/-- Replies and events, then `HandshakeDone`, carry no handshake error. -/
lemma NoHandshakeError.of_done {replies : List HandleAction}
    (h : ∀ a ∈ replies, a.isSignal = true) : NoHandshakeError (replies ++ [.handshakeDone]) := by
  intro a ha
  rcases List.mem_append.mp ha with ha | ha
  · exact HandleAction.isHandshakeError_of_isSignal (h a ha)
  · rw [List.mem_singleton.mp ha]
    rfl

namespace Handlers

open Signaling

/-- The four kinds of action list a successful call returns, from `s` to `s'`. -/
inductive Shape {σ : Type} [Signaling σ] (s s' : σ) : List HandleAction → Prop
  /-- Replies and events: the handshake goes on, and the task state is not entered. -/
  | signals {actions : List HandleAction} : (∀ a ∈ actions, a.isSignal = true) →
      ((common s').signalingState = .task → (common s).signalingState = .task) →
      Shape s s' actions
  /-- In the task state, the task messages a message of the peer carries. -/
  | task {actions : List HandleAction} : (common s).signalingState = .task →
      (common s').signalingState = .task → (∀ a ∈ actions, a.isTaskMessage = true) →
      Shape s s' actions
  /-- The replies that end the peer handshake, then `HandshakeDone`: from the peer handshake to
  the task state. -/
  | done {replies : List HandleAction} : (∀ a ∈ replies, a.isSignal = true) →
      (common s).signalingState = .peerHandshake → (common s').signalingState = .task →
      Shape s s' (replies ++ [.handshakeDone])
  /-- No shared task: the `close` to the peer, if it could be encoded, then the error. -/
  | noSharedTask {close : List HandleAction} : close.length ≤ 1 →
      (∀ a ∈ close, a.isSignal = true) → (common s).signalingState = .peerHandshake →
      Shape s s' (close ++ [.handshakeError .noSharedTask])

namespace Shape

variable {σ : Type} [Signaling σ] {s s₁ s' : σ} {actions : List HandleAction}

/-- A shape from a state of the same signaling state. -/
lemma of_signalingState (h₁ : (common s₁).signalingState = (common s).signalingState)
    (h : Shape s₁ s' actions) : Shape s s' actions := by
  cases h with
  | signals hsig htask => exact .signals hsig (h₁ ▸ htask)
  | task htask htask' hmsg => exact .task (h₁ ▸ htask) htask' hmsg
  | done hsig hpeer htask => exact .done hsig (h₁ ▸ hpeer) htask
  | noSharedTask hlen hsig hpeer => exact .noSharedTask hlen hsig (h₁ ▸ hpeer)

/-- Replies and events to a state with the signaling state unchanged. -/
lemma of_signals_eq (hsig : ∀ a ∈ actions, a.isSignal = true)
    (h : (common s').signalingState = (common s).signalingState) : Shape s s' actions :=
  .signals hsig fun ht => h ▸ ht

/-- Replies and events to a state of the same stage. -/
lemma of_stage_eq (hsig : ∀ a ∈ actions, a.isSignal = true)
    (h : (common s').stage = (common s).stage) : Shape s s' actions :=
  of_signals_eq hsig (congrArg Stage.signalingState h)

end Shape

/-- What the argument needs of a role beyond its invariant: the destination check keeps the
signaling state, the role's reactions to the server return replies and events, and a message of
the peer handshake returns one of the shapes. -/
structure ActionRole (σ : Type) [Handlers σ] (env : Env) extends RoleInv σ env where
  /-- The destination check assigns at most an identity. -/
  destination_signalingState : ∀ nonce (s : σ),
    (common (validateNonceDestination nonce s).state).signalingState = (common s).signalingState
  /-- The role's part of `server-auth` returns replies and events. -/
  serverAuthImpl_signals : ∀ msg (s : σ) actions s',
    handleServerAuthImpl env msg s = .ok actions s' → ∀ a ∈ actions, a.isSignal = true
  /-- `new-initiator` returns replies and events. -/
  newInitiator_signals : ∀ (s : σ) actions s',
    handleNewInitiator env s = .ok actions s' → ∀ a ∈ actions, a.isSignal = true
  /-- `new-responder` returns replies and events. -/
  newResponder_signals : ∀ msg (s : σ) actions s',
    handleNewResponder env msg s = .ok actions s' → ∀ a ∈ actions, a.isSignal = true
  /-- `disconnected` returns replies and events. -/
  disconnected_signals : ∀ msg (s : σ) actions s',
    handleDisconnected msg s = .ok actions s' → ∀ a ∈ actions, a.isSignal = true
  /-- A message of the peer handshake, handled in the peer handshake. -/
  peer_shape : ∀ obox (s : σ) actions s', I s → (common s).signalingState = .peerHandshake →
    handlePeerMessage env obox s = .ok actions s' → Shape s s' actions

variable {σ : Type} [Handlers σ] (env : Env)

/-! ## The shared handlers -/

/-- `send_drop_responder` returns a reply. -/
theorem sendDropResponder_signal_spec (addr : Address) (reason : DropReason) :
    ⦃fun _ => ⌜True⌝⦄ (sendDropResponder env addr reason : SignalingM σ HandleAction)
    ⦃⇓? a _ => ⌜a.isSignal = true⌝⦄ := by
  mvcgen [sendDropResponder, -sendDropResponder_spec]

/-- `handle_server_hello` returns replies: `client-hello` (responder only) and `client-auth`. -/
theorem handleServerHello_signals_spec (msg : ServerHello) :
    ⦃fun _ => ⌜True⌝⦄ (handleServerHello env msg : SignalingM σ (List HandleAction))
    ⦃⇓? actions _ => ⌜∀ a ∈ actions, a.isSignal = true⌝⦄ := by
  mvcgen [handleServerHello, modifyCommon]
  all_goals simp +zetaDelta

/-- A task message of the peer hands at most one message to the task, and changes nothing. -/
theorem handleTaskPeerMessage_task_spec (bbox : ByteBox) (s₀ : σ) :
    ⦃fun s => ⌜s = s₀⌝⦄ (handleTaskPeerMessage env bbox : SignalingM σ (List HandleAction))
    ⦃⇓? actions s => ⌜s = s₀ ∧ (actions = [] ∨ ∃ m, actions = [.taskMessage m])⌝⦄ := by
  mvcgen [handleTaskPeerMessage, liftResult, -handleTaskPeerMessage_spec]
  all_goals
    subst_vars
    simp

/-- `handle_handshake_peer_message`: a `key` the initiator cannot open is answered by one reply,
which only advances our CSN towards the server; any other message goes, in the peer handshake,
to the server's handler or the peer's. -/
theorem handleHandshakePeerMessage_actions_spec (bbox : ByteBox) (s₀ : σ) :
    ⦃fun s => ⌜s = s₀⌝⦄ (handleHandshakePeerMessage env bbox : SignalingM σ (List HandleAction))
    ⦃⇓? actions s => ⌜(∀ a ∈ actions, a.isSignal = true) ∧ (∃ ours, s = setServerOurs s₀ ours) ∨
      (common s₀).signalingState = .peerHandshake ∧ ∃ obox,
        ((handleServerMessage env obox none : SignalingM σ (List HandleAction)) s₀ =
            .ok actions s ∨
          (handlePeerMessage env obox : SignalingM σ (List HandleAction)) s₀ = .ok actions s)⌝⦄ := by
  have hserver := fun obox =>
    EStateM.triple_run (handleServerMessage env obox none : SignalingM σ (List HandleAction))
  have hpeer := fun obox =>
    EStateM.triple_run (handlePeerMessage env obox : SignalingM σ (List HandleAction))
  mvcgen [handleHandshakePeerMessage, sendDropResponder, hserver, hpeer, -sendDropResponder_spec]
  all_goals subst_vars
  · -- the reply's nonce only advances our CSN towards the server
    exact .inl ⟨by simp, ‹_›⟩
  · exact fun h => .inr ⟨‹_›, _, .inl h⟩
  · exact fun h => .inr ⟨‹_›, _, .inr h⟩

/-- `handle_message`: a dropped message returns nothing; a message that passes the nonce check goes
to the server's handler, to the handshake handler outside the task state, or to the task handler
in it. -/
theorem handleMessage_actions_spec (bbox : ByteBox) (s₀ : σ) :
    ⦃fun s => ⌜s = s₀⌝⦄ (handleMessage env bbox : SignalingM σ (List HandleAction))
    ⦃⇓? actions s => ⌜∃ s₁, (validateNonce bbox.nonce s₀ = .ok () s₁ ∨
        ∃ m, validateNonce bbox.nonce s₀ = .error (.err (.dropMsg m)) s₁) ∧
      (actions = [] ∧ s = s₁ ∨
        (∃ obox nonceClone, (handleServerMessage env obox nonceClone : SignalingM σ _) s₁ =
          .ok actions s) ∨
        (common s₁).signalingState ≠ .task ∧
          (handleHandshakePeerMessage env bbox : SignalingM σ _) s₁ = .ok actions s ∨
        (common s₁).signalingState = .task ∧ s = s₁ ∧
          (actions = [] ∨ ∃ m, actions = [.taskMessage m]))⌝⦄ := by
  have hserver := fun obox nonceClone =>
    EStateM.triple_run (handleServerMessage env obox nonceClone : SignalingM σ (List HandleAction))
  have hpeer := EStateM.triple_run
    (handleHandshakePeerMessage env bbox : SignalingM σ (List HandleAction))
  have htask := handleTaskPeerMessage_task_spec (σ := σ) env bbox
  mvcgen [handleMessage, hserver, hpeer, htask, liftResult, -handleTaskPeerMessage_spec]
  all_goals
    subst_vars
    obtain hv := (‹validateNonce bbox.nonce _ = _ ∧ _ ∨ _›).imp And.left And.left
  · exact ⟨_, hv, .inl ⟨trivial, rfl⟩⟩
  · exact fun h => ⟨_, hv, .inr (.inl ⟨_, _, h⟩)⟩
  -- the two handshake states
  · exact fun h => ⟨_, hv, .inr (.inr (.inl ⟨by simp [*], h⟩))⟩
  · exact fun h => ⟨_, hv, .inr (.inr (.inl ⟨by simp [*], h⟩))⟩
  · exact fun h hmsg => ⟨_, hv, .inr (.inr (.inr ⟨‹_›, h, hmsg⟩))⟩

/-! ## The common argument -/

namespace ActionRole

variable {env} (A : ActionRole σ env)

/-- The nonce check, passed or dropped, keeps the signaling state. -/
lemma validateNonce_signalingState {nonce : Nonce} {s s₁ : σ} (hs : A.I s)
    (h : validateNonce nonce s = .ok () s₁ ∨
      ∃ m, validateNonce nonce s = .error (.err (.dropMsg m)) s₁) :
    (common s₁).signalingState = (common s).signalingState := by
  have hdest := A.destination_signalingState nonce s
  rcases h with hok | ⟨m, hdrop⟩
  · -- the write-backs of the CSN and the cookie keep the stage, under the invariant
    refine (validateNonce_eq_ok_of
      (P := fun s₂ => A.I s₂ ∧ (common s₂).signalingState = (common s).signalingState)
      (A.source nonce) (fun s₂ addr csnPair cookiePair h₂ => ?_)
      ⟨(A.destination nonce s hs).1, hdest⟩ hok).2
    obtain ⟨hI, hstage⟩ := A.setPeer s₂ addr csnPair cookiePair h₂.1
    refine ⟨hI, ?_⟩
    rw [← Common.stage_signalingState, hstage, Common.stage_signalingState, h₂.2]
  · rw [validateNonce_eq_dropMsg (A.destination_ne_dropMsg nonce s) (A.source nonce) hdrop]
    exact hdest

/-- Every message of the server returns replies and events, and enters no task state. -/
lemma handleServerMessage_signals {obox : OpenBox Message} {nonceClone : Option Nonce} {s s' : σ}
    {actions : List HandleAction} (hs : A.I s)
    (h : handleServerMessage env obox nonceClone s = .ok actions s') :
    (∀ a ∈ actions, a.isSignal = true) ∧
      ((common s').signalingState = .task → (common s).signalingState = .task) := by
  -- the messages the role handles keep the stage, and so the signaling state
  have of_stage : (common s').stage = (common s).stage →
      (common s').signalingState = .task → (common s).signalingState = .task :=
    fun hstage ht => (congrArg Stage.signalingState hstage).symm.trans ht
  rcases handleServerMessage_eq_ok env h with ⟨msg, -, -, hhello⟩ |
    ⟨msg, -, -, hauth⟩ | ⟨-, ⟨-, hinit⟩ | ⟨msg, -, hresp⟩ | ⟨msg, -, hdisc⟩⟩
  · have hsig := EStateM.of_triple (handleServerHello_signals_spec env msg) trivial hhello
    obtain ⟨-, ours, rfl⟩ := EStateM.of_triple (handleServerHello_spec env msg s) rfl hhello
    exact ⟨hsig, by simp⟩
  · -- `server-auth` moves to the peer handshake
    obtain ⟨-, s₁, himpl, -, rfl⟩ :=
      EStateM.of_triple (handleServerAuth_spec env msg nonceClone s) rfl hauth
    exact ⟨A.serverAuthImpl_signals msg s actions s₁ himpl, by simp⟩
  · exact ⟨A.newInitiator_signals s actions s' hinit, of_stage (A.newInitiator s actions s' hs hinit).2⟩
  · exact ⟨A.newResponder_signals msg s actions s' hresp,
      of_stage (A.newResponder msg s actions s' hs hresp).2⟩
  · exact ⟨A.disconnected_signals msg s actions s' hdisc,
      of_stage (A.disconnected msg s actions s' hs hdisc).2⟩

/-- Every message handled as one of the peer handshake. -/
lemma handleHandshakePeerMessage_shape {bbox : ByteBox} {s s' : σ} {actions : List HandleAction}
    (hs : A.I s) (h : handleHandshakePeerMessage env bbox s = .ok actions s') :
    Shape s s' actions := by
  rcases EStateM.of_triple (handleHandshakePeerMessage_actions_spec env bbox s) rfl h with
    ⟨hsig, ours, rfl⟩ | ⟨hpeer, obox, hserver | hmsg⟩
  · exact .of_stage_eq hsig (stage_setServerOurs s ours)
  · exact .signals (A.handleServerMessage_signals hs hserver).1
      (A.handleServerMessage_signals hs hserver).2
  · exact A.peer_shape obox s actions s' hs hpeer hmsg

/-- Every successful call of `handle_message` from a state of the invariant returns one of the
four shapes. -/
theorem handleMessage_shape {bbox : ByteBox} {s s' : σ} {actions : List HandleAction}
    (hs : A.I s) (h : handleMessage env bbox s = .ok actions s') : Shape s s' actions := by
  obtain ⟨s₁, hcheck, hrest⟩ := EStateM.of_triple (handleMessage_actions_spec env bbox s) rfl h
  have hs₁ : A.I s₁ := (RoleInv.leads_validateNonce (R := A.toRoleInv) hs hcheck).1
  refine Shape.of_signalingState (A.validateNonce_signalingState hs hcheck) ?_
  rcases hrest with ⟨rfl, rfl⟩ | ⟨obox, nonceClone, hserver⟩ | ⟨-, hpeer⟩ | ⟨htask, rfl, hmsg⟩
  · exact .signals (by simp) id
  · exact .signals (A.handleServerMessage_signals hs₁ hserver).1
      (A.handleServerMessage_signals hs₁ hserver).2
  · exact A.handleHandshakePeerMessage_shape hs₁ hpeer
  · exact .task htask htask (HandleAction.isTaskMessage_of_single hmsg)

/-- A call that returns a handshake error has handled, after the nonce check, a message of the
peer handshake in the peer handshake: every other path returns replies, events or task
messages. -/
lemma handleMessage_handshakeError {bbox : ByteBox} {s s' : σ} {actions : List HandleAction}
    (hs : A.I s) (h : handleMessage env bbox s = .ok actions s')
    (herr : ¬ NoHandshakeError actions) :
    ∃ s₁ obox, (validateNonce bbox.nonce s = .ok () s₁ ∨
        ∃ m, validateNonce bbox.nonce s = .error (.err (.dropMsg m)) s₁) ∧
      (common s₁).signalingState = .peerHandshake ∧ handlePeerMessage env obox s₁ = .ok actions s' := by
  have of_signals : (∀ a ∈ actions, a.isSignal = true) → False := fun hsig =>
    herr (.of_signals hsig)
  obtain ⟨s₁, hcheck, hrest⟩ := EStateM.of_triple (handleMessage_actions_spec env bbox s) rfl h
  have hs₁ : A.I s₁ := (RoleInv.leads_validateNonce (R := A.toRoleInv) hs hcheck).1
  rcases hrest with ⟨rfl, -⟩ | ⟨obox, nonceClone, hserver⟩ | ⟨-, hpeer⟩ | ⟨-, -, hmsg⟩
  · exact (of_signals (by simp)).elim
  · exact (of_signals (A.handleServerMessage_signals hs₁ hserver).1).elim
  · rcases EStateM.of_triple (handleHandshakePeerMessage_actions_spec env bbox s₁) rfl hpeer with
      ⟨hsig, -⟩ | ⟨hsig, obox, hserver | hmsg⟩
    · exact (of_signals hsig).elim
    · exact (of_signals (A.handleServerMessage_signals hs₁ hserver).1).elim
    · exact ⟨s₁, obox, hcheck, hsig, hmsg⟩
  · exact (herr fun a ha => HandleAction.isHandshakeError_of_isTaskMessage
      (HandleAction.isTaskMessage_of_single hmsg a ha)).elim

/-- In the task state a successful call returns replies and events, or at most one task message;
it is a step without a handshake error, and the task state is kept. -/
lemma handleMessage_task {bbox : ByteBox} {s s' : σ} {actions : List HandleAction}
    (hs : A.I s) (ht : (common s).signalingState = .task)
    (h : handleMessage env bbox s = .ok actions s') :
    ((∀ a ∈ actions, a.isSignal = true) ∨ actions = [] ∨ ∃ m, actions = [.taskMessage m]) ∧
      OkStep env s bbox s' ∧ (common s').signalingState = .task := by
  obtain ⟨s₁, hcheck, hrest⟩ := EStateM.of_triple (handleMessage_actions_spec env bbox s) rfl h
  have hs₁ : A.I s₁ := (RoleInv.leads_validateNonce (R := A.toRoleInv) hs hcheck).1
  have ht₁ : (common s₁).signalingState = .task := (A.validateNonce_signalingState hs hcheck).trans ht
  have hacts : (∀ a ∈ actions, a.isSignal = true) ∨ actions = [] ∨
      ∃ m, actions = [.taskMessage m] := by
    rcases hrest with ⟨rfl, -⟩ | ⟨obox, nonceClone, hserver⟩ | ⟨hnt, -⟩ | ⟨-, -, hmsg⟩
    · exact .inr (.inl rfl)
    · exact .inl (A.handleServerMessage_signals hs₁ hserver).1
    · exact absurd ht₁ hnt
    · exact .inr hmsg
  have hok : OkStep env s bbox s' := by
    refine ⟨actions, h, ?_⟩
    rcases hacts with hsig | hmsg
    · exact .of_signals hsig
    · exact fun a ha => HandleAction.isHandshakeError_of_isTaskMessage
        (HandleAction.isTaskMessage_of_single hmsg a ha)
  -- no change of phase leaves the task state
  have hstage := ((A.leads_okStep hs hok).2.task_eq (by rwa [Common.stage_signalingState])).1
  rw [Common.stage_signalingState] at hstage
  exact ⟨hacts, hok, hstage⟩

end ActionRole

end Handlers

/-! ## The initiator -/

namespace InitiatorSignaling

open Signaling Handlers

variable (env : Env)

/-- Dropping the oldest inactive responder sends at most one `drop-responder`. -/
theorem dropOldestInactiveResponder_signal_spec :
    ⦃fun _ => ⌜True⌝⦄ dropOldestInactiveResponder env
    ⦃⇓? drop _ => ⌜∀ a ∈ drop, a.isSignal = true⌝⦄ := by
  have hdrop := fun addr => sendDropResponder_signal_spec (σ := InitiatorSignaling) env addr
    .droppedByInitiator
  mvcgen [dropOldestInactiveResponder, hdrop, -sendDropResponder_spec]
  -- the candidate's `drop-responder`, the one action
  rename_i hsig
  exact fun a ha => Option.mem_some_iff.mp ha ▸ hsig

/-- Registering a responder sends at most one `drop-responder`. -/
theorem processNewResponder_signal_spec (address : Address) :
    ⦃fun _ => ⌜True⌝⦄ processNewResponder env address
    ⦃⇓? drop _ => ⌜∀ a ∈ drop, a.isSignal = true⌝⦄ := by
  mvcgen [processNewResponder, dropOldestInactiveResponder_signal_spec]

/-- `handle_server_auth_impl` returns the drops of path cleaning and the event that the server
handshake is done. -/
lemma handleServerAuthImpl_signals {msg : ServerAuth} {s s' : InitiatorSignaling}
    {actions : List HandleAction} (h : handleServerAuthImpl env msg s = .ok actions s') :
    ∀ a ∈ actions, a.isSignal = true := by
  obtain ⟨L, drops, -, hdrops, rfl⟩ := handleServerAuthImpl_eq_ok env h
  have hd := EStateM.of_triple (EStateM.filterMapM_forall _ _ _ fun a _ =>
    processNewResponder_signal_spec env a) trivial hdrops
  exact List.forall_mem_append.mpr ⟨hd, by simp⟩

/-- `handle_new_responder` returns at most one `drop-responder`. -/
theorem handleNewResponder_signals_spec (msg : NewResponder) :
    ⦃fun _ => ⌜True⌝⦄ handleNewResponder env msg
    ⦃⇓? actions _ => ⌜∀ a ∈ actions, a.isSignal = true⌝⦄ := by
  mvcgen [handleNewResponder, processNewResponder_signal_spec]
  -- the `drop-responder` of path cleaning, if any
  rename_i hsig
  simpa using hsig

/-- `handle_disconnected` returns its event. -/
theorem handleDisconnected_signals_spec (msg : Disconnected) :
    ⦃fun _ => ⌜True⌝⦄ handleDisconnected msg
    ⦃⇓? actions _ => ⌜∀ a ∈ actions, a.isSignal = true⌝⦄ := by
  mvcgen [handleDisconnected]
  simp

/-- `handle_token` returns nothing. -/
theorem handleToken_nil_spec (msg : Token) (src : Address) :
    ⦃fun _ => ⌜True⌝⦄ handleToken msg src ⦃⇓? actions _ => ⌜actions = []⌝⦄ := by
  mvcgen [handleToken, updateResponder]

/-- `handle_key` returns our `key`. -/
theorem handleKey_signals_spec (msg : Key) (src : Address) :
    ⦃fun _ => ⌜True⌝⦄ handleKey env msg src ⦃⇓? actions _ => ⌜∀ a ∈ actions, a.isSignal = true⌝⦄ := by
  mvcgen [handleKey, updateResponder, liftAddress, liftResult]
  all_goals simp

/-- `handle_auth` ends the peer handshake: with the drops of every other responder and our `auth`,
the task state entered, then `HandshakeDone`; or, for want of a shared task, with our `close` to
the responder, then the `NoSharedTask` error, the `close` missing only where its encoding failed,
with our identity. -/
theorem handleAuth_actions_spec (msg : Auth) (src : Address) (s₀ : InitiatorSignaling) :
    ⦃fun s => ⌜s = s₀⌝⦄ handleAuth env msg src
    ⦃⇓? actions s => ⌜(∃ replies, (∀ a ∈ replies, a.isSignal = true) ∧
        actions = replies ++ [.handshakeDone] ∧ s.common.signalingState = .task) ∨
      ∃ r, s₀.responders.lookup src = some r ∧
        ((∃ close, actions = [.reply close, .handshakeError .noSharedTask]) ∨
          actions = [.handshakeError .noSharedTask] ∧
            ∃ (s₁ : InitiatorSignaling) (e : Fault SignalingError) (s₂ : InitiatorSignaling),
              s₁.common.identity = s₀.common.identity ∧
              encodeCloseMessage env .noSharedTask (some r.toPeer) s₁ = .error e s₂)⌝⦄ := by
  have hdrops := fun keys : List Address => EStateM.mapM_forall (fun a => a.isSignal = true)
    (fun addr => (sendDropResponder env addr .droppedByInitiator :
      SignalingM InitiatorSignaling HandleAction)) keys
    (fun a _ => sendDropResponder_signal_spec env a .droppedByInitiator)
  have hclose := fun (peer : Peer) (s₁ : InitiatorSignaling) => EStateM.triple_run_result
    (encodeCloseMessage env .noSharedTask (some peer) : SignalingM InitiatorSignaling ByteBox) s₁
  mvcgen [handleAuth, liftAddress, liftResult, hclose, hdrops, -sendDropResponders_spec]
  all_goals subst_vars
  -- no shared task: the `close` encoded, or not
  · exact .inr ⟨_, ‹_›, .inl ⟨_, rfl⟩⟩
  · refine .inr ⟨_, ‹_›, .inr ⟨rfl, _, _, _, ?_, ‹encodeCloseMessage _ _ _ _ = .error _ _›⟩⟩
    rfl
  · -- the chosen task: the drops, then our `auth`
    obtain ⟨-, rfl⟩ := Common.setSignalingState_eq_ok.mp ‹Common.setSignalingState _ _ = .ok _›
    refine .inl ⟨_, ?_, (List.append_assoc _ [HandleAction.reply _] _).symm, rfl⟩
    exact List.forall_mem_append.mpr ⟨‹∀ b ∈ (_ : List HandleAction), b.isSignal = true›, by simp⟩

/-- A message of a responder, in the peer handshake. -/
lemma handlePeerMessage_shape {obox : OpenBox Message} {s s' : InitiatorSignaling}
    {actions : List HandleAction} (hpeer : s.common.signalingState = .peerHandshake)
    (h : handlePeerMessage env obox s = .ok actions s') : Shape s s' actions := by
  rcases EStateM.of_triple (handlePeerMessage_spec env obox s) rfl h with
    ⟨msg, -, htoken⟩ | ⟨msg, -, hkey⟩ | ⟨msg, -, hauth⟩
  · have hnil := EStateM.of_triple (handleToken_nil_spec msg _) trivial htoken
    obtain ⟨r, -, -, rfl⟩ := EStateM.of_triple (handleToken_spec msg _ s) rfl htoken
    exact .of_signals_eq (by simp [hnil]) rfl
  · have hsig := EStateM.of_triple (handleKey_signals_spec env msg _) trivial hkey
    obtain ⟨r, csnPair, -, -, -, rfl⟩ := EStateM.of_triple (handleKey_spec env msg _ s) rfl hkey
    exact .of_signals_eq hsig rfl
  · rcases EStateM.of_triple (handleAuth_actions_spec env msg _ s) rfl hauth with
      ⟨replies, hsig, rfl, htask⟩ | ⟨-, -, ⟨close, rfl⟩ | ⟨rfl, -⟩⟩
    · exact .done hsig hpeer htask
    · have hclose : ∀ a ∈ [HandleAction.reply close], a.isSignal = true := by simp
      exact .noSharedTask (by simp) hclose hpeer
    · have hclose : ∀ a ∈ ([] : List HandleAction), a.isSignal = true := by simp
      exact .noSharedTask (by simp) hclose hpeer

/-- The initiator's part of the argument. -/
def actionRole : ActionRole InitiatorSignaling env where
  toRoleInv := roleInv env
  destination_signalingState nonce s := by
    rcases (validateNonceDestination_cases nonce s).2 with hsame | ⟨-, -, hassigned⟩
    · exact congrArg (fun s => s.common.signalingState) hsame
    · exact congrArg (fun s => s.common.signalingState) hassigned
  serverAuthImpl_signals _ _ _ _ h := handleServerAuthImpl_signals env h
  newInitiator_signals _ _ _ h := (EStateM.of_triple handleNewInitiator_spec trivial h).elim
  newResponder_signals msg _ _ _ h := EStateM.of_triple (handleNewResponder_signals_spec env msg) trivial h
  disconnected_signals msg _ _ _ h := EStateM.of_triple (handleDisconnected_signals_spec msg) trivial h
  peer_shape _ _ _ _ _ hpeer h := handlePeerMessage_shape env hpeer h

end InitiatorSignaling

/-! ## The responder -/

namespace ResponderSignaling

open Signaling Handlers

variable (env : Env)

/-- `send_token` and `send_key` return their replies. -/
theorem sendTokenAndKey_signals_spec :
    ⦃fun _ => ⌜True⌝⦄ sendTokenAndKey env ⦃⇓? actions _ => ⌜∀ a ∈ actions, a.isSignal = true⌝⦄ := by
  mvcgen [sendTokenAndKey, sendToken, sendKey, -sendTokenAndKey_spec]
  all_goals simp

/-- `handle_server_auth_impl` returns the opening of the peer handshake, if any, and the event
that the server handshake is done. -/
theorem handleServerAuthImpl_signals_spec (msg : ServerAuth) :
    ⦃fun _ => ⌜True⌝⦄ handleServerAuthImpl env msg
    ⦃⇓? actions _ => ⌜∀ a ∈ actions, a.isSignal = true⌝⦄ := by
  mvcgen [handleServerAuthImpl, sendTokenAndKey_signals_spec, -sendTokenAndKey_spec]
  -- with the initiator connected: `token` and `key`, then the event
  rename_i hsig _
  intro a ha
  rcases List.mem_append.mp ha with ha | ha
  · exact hsig a ha
  · rw [List.mem_singleton.mp ha]
    rfl

/-- `handle_new_initiator` returns the opening of the peer handshake. -/
theorem handleNewInitiator_signals_spec :
    ⦃fun _ => ⌜True⌝⦄ handleNewInitiator env
    ⦃⇓? actions _ => ⌜∀ a ∈ actions, a.isSignal = true⌝⦄ := by
  mvcgen [handleNewInitiator, sendTokenAndKey_signals_spec, -sendTokenAndKey_spec]

/-- `handle_disconnected` returns its event. -/
theorem handleDisconnected_signals_spec (msg : Disconnected) :
    ⦃fun _ => ⌜True⌝⦄ handleDisconnected msg
    ⦃⇓? actions _ => ⌜∀ a ∈ actions, a.isSignal = true⌝⦄ := by
  mvcgen [handleDisconnected]
  simp

/-- `handle_auth` returns `HandshakeDone` alone. -/
theorem handleAuth_done_spec (msg : Auth) :
    ⦃fun _ => ⌜True⌝⦄ handleAuth env msg ⦃⇓? actions _ => ⌜actions = [.handshakeDone]⌝⦄ := by
  mvcgen [handleAuth, liftResult]

/-- A message of the initiator, in the peer handshake. -/
lemma handlePeerMessage_shape {obox : OpenBox Message} {s s' : ResponderSignaling}
    {actions : List HandleAction} (hpeer : s.common.signalingState = .peerHandshake)
    (h : handlePeerMessage env obox s = .ok actions s') : Shape s s' actions := by
  rcases EStateM.of_triple (handlePeerMessage_spec env obox s) rfl h with
    ⟨msg, -, hkey⟩ | ⟨msg, -, hauth⟩
  · obtain ⟨-, -, -, -, -, rfl, hcommon, -⟩ :=
      EStateM.of_triple (handleKey_auth_spec env msg _ s) rfl hkey
    exact .of_signals_eq (by simp) (congrArg Common.signalingState hcommon)
  · have hdone := EStateM.of_triple (handleAuth_done_spec env msg) trivial hauth
    obtain ⟨chosen, -, rfl⟩ := EStateM.of_triple (handleAuth_spec env msg s) rfl hauth
    rw [hdone, ← List.nil_append [HandleAction.handshakeDone]]
    exact .done (by simp) hpeer rfl

/-- The responder's part of the argument. -/
def actionRole : ActionRole ResponderSignaling env where
  toRoleInv := roleInv env
  destination_signalingState nonce s := by
    rcases (validateNonceDestination_cases nonce s).2 with hsame | ⟨-, -, -, hassigned⟩
    · exact congrArg (fun s => s.common.signalingState) hsame
    · exact congrArg (fun s => s.common.signalingState) hassigned
  serverAuthImpl_signals msg _ _ _ h :=
    EStateM.of_triple (handleServerAuthImpl_signals_spec env msg) trivial h
  newInitiator_signals _ _ _ h := EStateM.of_triple (handleNewInitiator_signals_spec env) trivial h
  newResponder_signals _ _ _ _ h := (EStateM.of_triple handleNewResponder_spec trivial h).elim
  disconnected_signals msg _ _ _ h := EStateM.of_triple (handleDisconnected_signals_spec msg) trivial h
  peer_shape _ _ _ _ _ hpeer h := handlePeerMessage_shape env hpeer h

end ResponderSignaling

/-- What a successful `handle_message` returns, in every state either role reaches: replies and
events, with the task state not entered; in the task state, task messages; the replies that end
the peer handshake followed by `HandshakeDone`, the task state then entered; or, at the end of
the peer handshake, at most one reply followed by the `NoSharedTask` error. -/
theorem handle_message_actions (env : Env) :
    (∀ (s s' : InitiatorSignaling) bbox actions, InitiatorSignaling.Reachable env s →
      Handlers.handleMessage env bbox s = .ok actions s' → Handlers.Shape s s' actions) ∧
    (∀ (s s' : ResponderSignaling) bbox actions, ResponderSignaling.Reachable env s →
      Handlers.handleMessage env bbox s = .ok actions s' → Handlers.Shape s s' actions) :=
  ⟨fun _ _ _ _ hs h => (InitiatorSignaling.actionRole env).handleMessage_shape
      (InitiatorSignaling.reachable_inv env hs) h,
    fun _ _ _ _ hs h => (ResponderSignaling.actionRole env).handleMessage_shape
      (ResponderSignaling.reachable_inv env hs) h⟩

end SaltyRtc
