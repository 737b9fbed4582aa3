import Mathlib
import SaltyRtc.Protocol.Runs
import SaltyRtc.Protocol.Refinement
import SaltyRtc.Protocol.InitiatorEffects
import SaltyRtc.Protocol.ResponderEffects

/-!
# The invariants of the signaling state

The invariant of each role, and the facts about its code (`RoleInv`) from which the common
argument of `Refinement` proves that every call of `handle_message` that returns `Ok` without a
`HandshakeError` keeps it and moves the stage forward.

At the responder the invariant is that of its stage. At the initiator it also says that a
responder is chosen exactly in the task state, and that every context in its list of responders
is valid: the handlers of `token` and `key` are the only code that changes the handshake state
of a context in the list, and `set_handshake_state` does not check what it is given, so the
invariant is what makes the handshake states of the contexts meaningful.
-/

namespace SaltyRtc

open Signaling

/-- `ServerContext::new` starts the server handshake. -/
lemma ServerContext.new_eq_some {d : Draw} {c : ServerContext} (h : ServerContext.new d = some c) :
    c.handshakeState = .new := by
  simp only [ServerContext.new, Option.map_eq_some_iff] at h
  obtain ⟨_, -, rfl⟩ := h
  rfl

/-! ## The initiator -/

namespace InitiatorSignaling

variable (env : Env)

/-- The invariant of an initiator: that of its stage, a chosen responder exactly in the task
state, and only valid contexts in its list of responders. -/
structure Inv (s : InitiatorSignaling) : Prop where
  stage : Stage.Inv .initiator s.common.stage
  chosen : s.common.signalingState = .task ↔ s.responder.isSome
  responders : s.RespondersValid

variable {env} {s s' : InitiatorSignaling} {actions : List HandleAction}

/-- `InitiatorSignaling::new` makes a state of the invariant. -/
lemma Inv.initial (h : Initial env s) : s.Inv := by
  obtain ⟨permanentKeypair, tasks, responderTrustedPubkey, serverPublicPermanentKey, pingInterval,
    token, hnew⟩ := h
  simp only [new, Option.map_eq_some_iff] at hnew
  obtain ⟨server, hserver, rfl⟩ := hnew
  exact ⟨.fresh rfl (ServerContext.new_eq_some hserver) rfl, by simp, AList.forall_empty _⟩

/-- Common data whose stage keeps its invariant, in the task state exactly when the old one was. -/
lemma Inv.setCommon (hi : s.Inv) {c : Common} (hst : Stage.Inv .initiator c.stage)
    (htask : c.signalingState = .task ↔ s.common.signalingState = .task) :
    Inv { s with common := c } :=
  ⟨hst, htask.trans hi.chosen, hi.responders⟩

/-- Common data of the same stage. -/
lemma Inv.setCommon_frame (hi : s.Inv) {c : Common} (hc : c.stage = s.common.stage) :
    Inv { s with common := c } := by
  have hsig : c.signalingState = s.common.signalingState := congrArg Stage.signalingState hc
  refine hi.setCommon ?_ (by rw [hsig])
  rw [hc]
  exact hi.stage

/-- Common data one change of phase of the server handshake on, out of the task state. -/
lemma Inv.setCommon_step (hi : s.Inv) {c : Common}
    (hsig : s.common.signalingState = .serverHandshake)
    (hstep : Stage.Step .initiator s.common.stage c.stage) (htask : c.signalingState ≠ .task) :
    Inv { s with common := c } :=
  hi.setCommon (hstep.inv hi.stage) (by simp [htask, hsig])

/-- The write-back of a peer's CSN and cookie. -/
lemma Inv.setPeerWithAddress (hi : s.Inv) (addr : Address) (csnPair : CombinedSequencePair)
    (cookiePair : CookiePair) : (s.setPeerWithAddress addr csnPair cookiePair).Inv where
  stage := by
    rw [stage_setPeerWithAddress]
    exact hi.stage
  chosen := by
    have hsig := congrArg Stage.signalingState (stage_setPeerWithAddress s addr csnPair cookiePair)
    simp only [Common.stage_signalingState] at hsig
    rw [hsig, responder_isSome_setPeerWithAddress]
    exact hi.chosen
  responders := hi.responders.setPeerWithAddress addr csnPair cookiePair

/-- The destination check keeps the state or assigns the identity `initiator`. -/
lemma Inv.validateNonceDestination (hi : s.Inv) (nonce : Nonce) :
    (validateNonceDestination nonce s).state.Inv ∧
      Stage.Steps .initiator s.common.stage (validateNonceDestination nonce s).state.common.stage := by
  rcases (validateNonceDestination_cases nonce s).2 with hsame | ⟨hunknown, hnew, hassigned⟩
  · rw [hsame]
    exact ⟨hi, .refl⟩
  · rw [hassigned]
    have hstep : Stage.Step .initiator s.common.stage
        { s.common.stage with identity := .initiator } :=
      .assignIdentity hunknown hnew trivial
    exact ⟨hi.setCommon (hstep.inv hi.stage) Iff.rfl, .single hstep⟩

/-- A handler that keeps the stage, the chosen responder and the validity of the contexts. -/
lemma Inv.of_frame (hi : s.Inv) (h : Frame s.common.stage s.responder s') :
    s'.Inv ∧ s'.common.stage = s.common.stage := by
  obtain ⟨hstage, hchosen, hvalid⟩ := h
  have hsig : s'.common.signalingState = s.common.signalingState :=
    congrArg Stage.signalingState hstage
  refine ⟨⟨?_, ?_, hvalid⟩, hstage⟩
  · rw [hstage]
    exact hi.stage
  · rw [hsig, hchosen]
    exact hi.chosen

/-- `handle_server_auth_impl` registers valid contexts and leaves the rest. -/
lemma Inv.handleServerAuthImpl (hi : s.Inv) {msg : ServerAuth}
    (h : handleServerAuthImpl env msg s = .ok actions s') :
    s'.Inv ∧ s'.common.stage = s.common.stage :=
  hi.of_frame (EStateM.of_triple (handleServerAuthImpl_spec env msg _ _) ⟨rfl, rfl, hi.responders⟩ h)

/-- `handle_new_responder` registers a valid context and leaves the rest. -/
lemma Inv.handleNewResponder (hi : s.Inv) {msg : NewResponder}
    (h : handleNewResponder env msg s = .ok actions s') :
    s'.Inv ∧ s'.common.stage = s.common.stage :=
  hi.of_frame (EStateM.of_triple (handleNewResponder_spec env msg _ _) ⟨rfl, rfl, hi.responders⟩ h)

/-- The peer handshake: `token` and `key` turn a valid context into a valid one, and `auth` drops
every context, chooses the responder and the task, and moves to the task state. -/
lemma Inv.handlePeerMessage (hi : s.Inv) (hpeer : s.common.signalingState = .peerHandshake)
    {obox : OpenBox Message} (h : handlePeerMessage env obox s = .ok actions s')
    (hno : NoHandshakeError actions) :
    s'.Inv ∧ Stage.Steps .initiator s.common.stage s'.common.stage := by
  rcases EStateM.of_triple (handlePeerMessage_spec env obox s) rfl h with
    ⟨msg, -, htoken⟩ | ⟨msg, -, hkey⟩ | ⟨msg, -, hauth⟩
  · obtain ⟨r, hr, hpk, rfl⟩ := EStateM.of_triple (handleToken_spec msg _ s) rfl htoken
    -- a context without the responder's permanent key is a fresh one
    obtain ⟨-, hsk⟩ := (hi.responders _ r hr).new_of_permanentKey hpk
    exact ⟨⟨hi.stage, hi.chosen, hi.responders.replace (.of_tokenReceived rfl rfl hsk)⟩, .refl⟩
  · obtain ⟨r, csnPair, -, -, hpk, rfl⟩ :=
      EStateM.of_triple (handleKey_spec env msg _ s) rfl hkey
    exact ⟨⟨hi.stage, hi.chosen, hi.responders.replace (.of_keySent rfl hpk rfl)⟩, .refl⟩
  · obtain ⟨r, chosen, ours, csnPair, -, -, rfl⟩ :=
      EStateM.of_triple (handleAuth_spec env msg _ s) rfl hauth hno
    have hstep : Stage.Step .initiator s.common.stage _ := .chooseTask chosen hpeer
    exact ⟨⟨hstep.inv hi.stage, by simp, AList.forall_empty _⟩, .single hstep⟩

variable (env)

/-- The initiator's part of the argument. -/
def roleInv : RoleInv InitiatorSignaling env where
  I := Inv
  stage _ hi := hi.stage
  frame _ _ hi hc := hi.setCommon_frame hc
  step _ _ hi hsig hstep htask := hi.setCommon_step hsig hstep htask
  setPeer s addr csnPair cookiePair hi :=
    ⟨hi.setPeerWithAddress addr csnPair cookiePair, stage_setPeerWithAddress s addr csnPair cookiePair⟩
  source := validateNonceSource_state
  destination_ne_dropMsg nonce s := (validateNonceDestination_cases nonce s).1
  destination nonce _ hi := hi.validateNonceDestination nonce
  serverAuthImpl _ _ _ _ hi h := hi.handleServerAuthImpl h
  newInitiator _ _ _ _ h := (EStateM.of_triple handleNewInitiator_spec trivial h).elim
  newResponder _ _ _ _ hi h := hi.handleNewResponder h
  disconnected msg s _ _ hi h := by
    rw [EStateM.of_triple (handleDisconnected_spec msg s) rfl h]
    exact ⟨hi, rfl⟩
  peer _ _ _ _ hi hpeer h hno := hi.handlePeerMessage hpeer h hno

/-- Every state an initiator reaches satisfies the invariant. -/
theorem reachable_inv (hs : Reachable env s) : s.Inv :=
  (roleInv env).inv_of_reachable (fun _ => Inv.initial) hs

/-- Every call from a reachable state moves the stage forward. -/
theorem reachable_advances {bbox : ByteBox} (hs : Reachable env s) (h : OkStep env s bbox s') :
    s.common.stage.Advances s'.common.stage :=
  ((roleInv env).leads_okStep (reachable_inv env hs) h).2.advances

end InitiatorSignaling

/-! ## The responder -/

namespace ResponderSignaling

variable (env : Env)

/-- The invariant of a responder: that of its stage. -/
def Inv (s : ResponderSignaling) : Prop :=
  Stage.Inv .responder s.common.stage

variable {env} {s s' : ResponderSignaling} {actions : List HandleAction}

/-- The invariant reads only the stage. -/
lemma Inv.of_stage_eq (hi : s.Inv) (h : s'.common.stage = s.common.stage) : s'.Inv := by
  unfold Inv
  rw [h]
  exact hi

/-- `ResponderSignaling::new` makes a state of the invariant. -/
lemma Inv.initial (h : Initial env s) : s.Inv := by
  obtain ⟨permanentKeypair, initiatorPubkey, authToken, serverPublicPermanentKey, tasks,
    pingInterval, hnew⟩ := h
  simp only [new, Option.bind_eq_bind, Option.bind_eq_some_iff, Option.pure_def,
    Option.some.injEq] at hnew
  obtain ⟨server, hserver, initiator, -, rfl⟩ := hnew
  exact .fresh rfl (ServerContext.new_eq_some hserver) rfl

/-- The destination check keeps the state or assigns the responder address the nonce is sent
to. -/
lemma Inv.validateNonceDestination (hi : s.Inv) (nonce : Nonce) :
    (validateNonceDestination nonce s).state.Inv ∧
      Stage.Steps .responder s.common.stage (validateNonceDestination nonce s).state.common.stage := by
  rcases (validateNonceDestination_cases nonce s).2 with
    hsame | ⟨hunknown, hnew, hresponder, hassigned⟩
  · rw [hsame]
    exact ⟨hi, .refl⟩
  · rw [hassigned]
    have hfits : (ClientIdentity.responder nonce.destination.val).Fits .responder := by
      simpa [ClientIdentity.Fits, Address.isResponder] using hresponder
    have hstep : Stage.Step .responder s.common.stage _ := .assignIdentity hunknown hnew hfits
    exact ⟨hstep.inv hi, .single hstep⟩

/-- The peer handshake: `key` keeps the stage, and `auth` chooses the task and moves to the task
state. -/
lemma Inv.handlePeerMessage (hi : s.Inv) (hpeer : s.common.signalingState = .peerHandshake)
    {obox : OpenBox Message} (h : handlePeerMessage env obox s = .ok actions s') :
    s'.Inv ∧ Stage.Steps .responder s.common.stage s'.common.stage := by
  rcases EStateM.of_triple (handlePeerMessage_spec env obox s) rfl h with
    ⟨msg, -, hkey⟩ | ⟨msg, -, hauth⟩
  · have hstage := EStateM.of_triple (handleKey_spec env msg obox.nonce _) rfl hkey
    exact ⟨hi.of_stage_eq hstage, by rw [hstage]⟩
  · obtain ⟨chosen, -, rfl⟩ := EStateM.of_triple (handleAuth_spec env msg s) rfl hauth
    have hstep : Stage.Step .responder s.common.stage _ := .chooseTask chosen hpeer
    exact ⟨hstep.inv hi, .single hstep⟩

variable (env)

/-- The responder's part of the argument. -/
def roleInv : RoleInv ResponderSignaling env where
  I := Inv
  stage _ hi := hi
  frame _ _ hi hc := hi.of_stage_eq hc
  step _ _ hi _ hstep _ := hstep.inv hi
  setPeer s addr csnPair cookiePair hi := by
    have hstage := stage_setPeerWithAddress s addr csnPair cookiePair
    exact ⟨hi.of_stage_eq hstage, hstage⟩
  source := validateNonceSource_state
  destination_ne_dropMsg nonce s := (validateNonceDestination_cases nonce s).1
  destination nonce _ hi := hi.validateNonceDestination nonce
  serverAuthImpl msg s _ _ hi h := by
    have hstage := EStateM.of_triple (handleServerAuthImpl_spec env msg _) rfl h
    exact ⟨hi.of_stage_eq hstage, hstage⟩
  newInitiator s _ _ hi h := by
    have hstage := EStateM.of_triple (handleNewInitiator_spec env _) rfl h
    exact ⟨hi.of_stage_eq hstage, hstage⟩
  newResponder _ _ _ _ _ h := (EStateM.of_triple handleNewResponder_spec trivial h).elim
  disconnected msg s _ _ hi h := by
    rw [EStateM.of_triple (handleDisconnected_spec msg s) rfl h]
    exact ⟨hi, rfl⟩
  peer _ _ _ _ hi hpeer h _ := hi.handlePeerMessage hpeer h

/-- Every state a responder reaches satisfies the invariant. -/
theorem reachable_inv (hs : Reachable env s) : s.Inv :=
  (roleInv env).inv_of_reachable (fun _ => Inv.initial) hs

/-- Every call from a reachable state moves the stage forward. -/
theorem reachable_advances {bbox : ByteBox} (hs : Reachable env s) (h : OkStep env s bbox s') :
    s.common.stage.Advances s'.common.stage :=
  ((roleInv env).leads_okStep (reachable_inv env hs) h).2.advances

end ResponderSignaling

/-- The signaling state of both roles, over every run: the invariant of the role holds in every
reachable state, and every call moves the stage forward. -/
theorem signaling_invariant (env : Env) :
    (∀ s, InitiatorSignaling.Reachable env s → s.Inv) ∧
    (∀ s bbox s', InitiatorSignaling.Reachable env s → OkStep env s bbox s' →
      s.common.stage.Advances s'.common.stage) ∧
    (∀ s, ResponderSignaling.Reachable env s → s.Inv) ∧
    (∀ s bbox s', ResponderSignaling.Reachable env s → OkStep env s bbox s' →
      s.common.stage.Advances s'.common.stage) :=
  ⟨fun _ hs => InitiatorSignaling.reachable_inv env hs,
    fun _ _ _ hs h => InitiatorSignaling.reachable_advances env hs h,
    fun _ hs => ResponderSignaling.reachable_inv env hs,
    fun _ _ _ hs h => ResponderSignaling.reachable_advances env hs h⟩

end SaltyRtc
