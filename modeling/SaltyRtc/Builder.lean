import Mathlib
import SaltyRtc.Protocol.Invariants
import SaltyRtc.Protocol.Auth

/-!
# The client builder

Port of `SaltyClientBuilder` in `src/lib.rs`: it collects our permanent key pair, the tasks in the
order of our preference, the server key to pin and the ping interval, and makes an initiator or a
responder, with or without a trusted peer key. The only check is that of `Tasks::from_vec`, that
some task was added (`BuilderError::MissingTask`); a client is its signaling state here.

The builder does not check that the names of the tasks are distinct: `from_vec` takes the list as
it is (`Tasks::add_task`, which refuses a repeated name, is not used). A responder needs distinct
names, since `ResponderAuthBuilder::build` refuses an `auth` message that offers a name twice, and
`handle_key` builds that message before the initiator's context may move to `AuthSent`. So a
responder made from tasks of which two share a name is accepted by the builder but never gets to
the task state, whatever the server and the initiator send (`duplicate_task_names_never_task`).
The argument is an invariant of the responder's runs (`TasksInv`), an instance of the refinement
of `handle_message` (`RoleInv`): the tasks stay those the builder passed until the task state, and
the context in `AuthSent` and the task state each come after a successful build.
-/

namespace SaltyRtc

/-- `BuilderError`. -/
inductive BuilderError where
  | missingTask
  deriving DecidableEq

/-- `SaltyClientBuilder`. -/
structure SaltyClientBuilder where
  permanentKey : KeyPair
  tasks : List Task
  pingInterval : Option UInt64
  serverPublicPermanentKey : Option PublicKey

namespace SaltyClientBuilder

/-- `SaltyClientBuilder::new`. -/
def new (permanentKey : KeyPair) : SaltyClientBuilder := ⟨permanentKey, [], none, none⟩

/-- `SaltyClientBuilder::add_task`: the tasks added first have the highest priority. -/
def addTask (b : SaltyClientBuilder) (task : Task) : SaltyClientBuilder :=
  { b with tasks := b.tasks ++ [task] }

/-- `SaltyClientBuilder::with_server_key`. -/
def withServerKey (b : SaltyClientBuilder) (serverPublicPermanentKey : PublicKey) :
    SaltyClientBuilder :=
  { b with serverPublicPermanentKey := some serverPublicPermanentKey }

/-- `SaltyClientBuilder::with_ping_interval`. -/
def withPingInterval (b : SaltyClientBuilder) (interval : Option UInt64) : SaltyClientBuilder :=
  { b with pingInterval := interval }

variable (env : Env)

/-- What `initiator` and `initiator_trusted` share: the tasks, then `InitiatorSignaling::new`,
with the auth token it generates. -/
def makeInitiator (b : SaltyClientBuilder) (responderTrustedPubkey : Option PublicKey)
    (token : AuthToken) : Except BuilderError (Option InitiatorSignaling) := do
  let tasks ← (Tasks.fromVec b.tasks).mapError fun _ => .missingTask
  pure (InitiatorSignaling.new env b.permanentKey tasks responderTrustedPubkey
    b.serverPublicPermanentKey b.pingInterval token)

/-- `SaltyClientBuilder::initiator`. -/
def initiator (b : SaltyClientBuilder) (token : AuthToken) :
    Except BuilderError (Option InitiatorSignaling) :=
  b.makeInitiator env none token

/-- `SaltyClientBuilder::initiator_trusted`. -/
def initiatorTrusted (b : SaltyClientBuilder) (responderTrustedPubkey : PublicKey)
    (token : AuthToken) : Except BuilderError (Option InitiatorSignaling) :=
  b.makeInitiator env (some responderTrustedPubkey) token

/-- What `responder` and `responder_trusted` share: the tasks, then `ResponderSignaling::new`. -/
def makeResponder (b : SaltyClientBuilder) (initiatorPubkey : PublicKey)
    (authToken : Option AuthToken) : Except BuilderError (Option ResponderSignaling) := do
  let tasks ← (Tasks.fromVec b.tasks).mapError fun _ => .missingTask
  pure (ResponderSignaling.new env b.permanentKey initiatorPubkey authToken
    b.serverPublicPermanentKey tasks b.pingInterval)

/-- `SaltyClientBuilder::responder`. -/
def responder (b : SaltyClientBuilder) (initiatorPubkey : PublicKey) (authToken : AuthToken) :
    Except BuilderError (Option ResponderSignaling) :=
  b.makeResponder env initiatorPubkey (some authToken)

/-- `SaltyClientBuilder::responder_trusted`. -/
def responderTrusted (b : SaltyClientBuilder) (initiatorTrustedPubkey : PublicKey) :
    Except BuilderError (Option ResponderSignaling) :=
  b.makeResponder env initiatorTrustedPubkey none

/-- The builder refuses exactly a list of no tasks; otherwise the responder is `new` of the
tasks as they were added. -/
lemma makeResponder_eq_ok {b : SaltyClientBuilder} {initiatorPubkey : PublicKey}
    {authToken : Option AuthToken} (h : b.tasks ≠ []) :
    b.makeResponder env initiatorPubkey authToken =
      .ok (ResponderSignaling.new env b.permanentKey initiatorPubkey authToken
        b.serverPublicPermanentKey ⟨b.tasks, h⟩ b.pingInterval) := by
  simp [makeResponder, Tasks.fromVec, h, Except.mapError, bind, Except.bind, pure, Except.pure]

end SaltyClientBuilder

namespace ResponderSignaling

open Signaling

variable (env : Env)

/-- What a responder made with the tasks `t₀` keeps along its runs: the invariant of its stage;
our tasks are `t₀` up to the task state; and the initiator's context is in `AuthSent`, or the
responder in the task state, only if the names of `t₀` are distinct. -/
structure TasksInv (t₀ : Tasks) (s : ResponderSignaling) : Prop where
  inv : s.Inv
  tasks : s.common.signalingState ≠ .task → s.common.tasks = some t₀
  authSent : s.initiator.handshakeState = .authSent → (t₀.tasks.map Task.name).Nodup
  task : s.common.signalingState = .task → (t₀.tasks.map Task.name).Nodup

variable {env} {t₀ : Tasks} {s s' : ResponderSignaling}

/-- The invariant holds of a state of the same stage whose context of the initiator is in
`AuthSent` only if that of the first one is. -/
lemma TasksInv.of_stage_eq (hi : TasksInv t₀ s) (hstage : s'.common.stage = s.common.stage)
    (hauth : s'.initiator.handshakeState = .authSent → s.initiator.handshakeState = .authSent) :
    TasksInv t₀ s' := by
  have hsig : s'.common.signalingState = s.common.signalingState := by
    rw [← Common.stage_signalingState, hstage, Common.stage_signalingState]
  have htasks : s'.common.tasks = s.common.tasks := by
    rw [← Common.stage_tasks, hstage, Common.stage_tasks]
  refine ⟨hi.inv.of_stage_eq hstage, fun h => ?_, fun h => hi.authSent (hauth h),
    fun h => hi.task (hsig ▸ h)⟩
  rw [htasks]
  exact hi.tasks (hsig ▸ h)

/-- `ResponderSignaling::new` of the tasks `t₀` makes a state of the invariant. -/
lemma TasksInv.initial {permanentKeypair : KeyPair} {initiatorPubkey : PublicKey}
    {authToken : Option AuthToken} {serverPublicPermanentKey : Option PublicKey}
    {pingInterval : Option UInt64}
    (h : new env permanentKeypair initiatorPubkey authToken serverPublicPermanentKey t₀
      pingInterval = some s) : TasksInv t₀ s := by
  have hinv : s.Inv := Inv.initial ⟨_, _, _, _, _, _, h⟩
  simp only [new, Option.bind_eq_bind, Option.bind_eq_some_iff, Option.pure_def,
    Option.some.injEq] at h
  obtain ⟨server, -, initiator, hinitiator, rfl⟩ := h
  -- a fresh context of the initiator is in `New`
  have hnew : initiator.handshakeState = .new := by
    simp only [InitiatorContext.new, Option.map_eq_some_iff] at hinitiator
    obtain ⟨_, -, rfl⟩ := hinitiator
    rfl
  exact ⟨hinv, fun _ => rfl, fun h => by simp [hnew] at h, fun h => by simp at h⟩

/-- The peer handshake keeps the invariant: `key` reaches `AuthSent` only after a successful
build of our `auth`, and `auth` enters the task state only from `AuthSent`. -/
lemma TasksInv.handlePeerMessage (hi : TasksInv t₀ s)
    (hpeer : s.common.signalingState = .peerHandshake) {obox : OpenBox Message}
    {actions : List HandleAction} (h : handlePeerMessage env obox s = .ok actions s') :
    TasksInv t₀ s' ∧ Stage.Steps .responder s.common.stage s'.common.stage := by
  have htasks : s.common.tasks = some t₀ := hi.tasks (by simp [hpeer])
  rcases handlePeerMessage_eq_ok env h with ⟨msg, -, -, hkey⟩ | ⟨msg, -, hauth, hrun⟩
  · obtain ⟨tasks, auth, -, hours, hbuild, -, hcommon, -, -, hstate⟩ :=
      EStateM.of_triple (handleKey_auth_spec env msg obox.nonce s) rfl hkey
    obtain rfl : tasks = t₀ := Option.some.inj (hours.symm.trans htasks)
    have hnodup := (ResponderAuthBuilder.build_eq_ok hbuild).1
    have hstage : s'.common.stage = s.common.stage := by rw [hcommon]
    refine ⟨⟨hi.inv.of_stage_eq hstage, fun _ => by rw [hcommon]; exact htasks,
      fun _ => hnodup, fun h => hi.task (by rwa [hcommon] at h)⟩, by rw [hstage]⟩
  · obtain ⟨chosen, -, rfl⟩ := EStateM.of_triple (handleAuth_spec env msg s) rfl hrun
    have hstep : Stage.Step .responder s.common.stage _ := .chooseTask chosen hpeer
    refine ⟨⟨hstep.inv hi.inv, fun h => absurd rfl h, fun h => by simp at h,
      fun _ => hi.authSent hauth⟩, .single hstep⟩

/-- A change of phase of the server handshake keeps our tasks and the initiator's context. -/
lemma TasksInv.setCommon_step (hi : TasksInv t₀ s) {c : Common}
    (hstep : Stage.Step .responder s.common.stage c.stage) (htask : c.signalingState ≠ .task) :
    TasksInv t₀ { s with common := c } := by
  obtain ⟨hnot, htasks⟩ := hstep.tasks_eq htask
  exact ⟨hstep.inv hi.inv, fun _ => htasks.trans (hi.tasks hnot), hi.authSent,
    fun h => absurd h htask⟩

/-- The write-back of a peer's pairs touches the CSN and cookie pairs only. -/
lemma TasksInv.setPeerWithAddress (hi : TasksInv t₀ s) (addr : Address)
    (csnPair : CombinedSequencePair) (cookiePair : CookiePair) :
    TasksInv t₀ (ResponderSignaling.setPeerWithAddress s addr csnPair cookiePair) := by
  refine hi.of_stage_eq (stage_setPeerWithAddress s addr csnPair cookiePair) ?_
  unfold ResponderSignaling.setPeerWithAddress
  split <;> exact id

/-- The destination check keeps the state, or assigns our identity and nothing else. -/
lemma TasksInv.validateNonceDestination (hi : TasksInv t₀ s) (nonce : Nonce) :
    TasksInv t₀ (validateNonceDestination nonce s).state := by
  have hinv := (hi.inv.validateNonceDestination nonce).1
  rcases (validateNonceDestination_cases nonce s).2 with hsame | ⟨-, -, -, hassigned⟩
  · rw [hsame]
    exact hi
  · rw [hassigned] at hinv ⊢
    exact ⟨hinv, hi.tasks, hi.authSent, hi.task⟩

/-- `server-auth` keeps the stage, and leaves the initiator's context or opens it in
`KeySent`. -/
lemma TasksInv.handleServerAuthImpl (hi : TasksInv t₀ s) {msg : ServerAuth}
    {actions : List HandleAction} (h : handleServerAuthImpl env msg s = .ok actions s') :
    TasksInv t₀ s' ∧ s'.common.stage = s.common.stage := by
  have hstage := EStateM.of_triple (handleServerAuthImpl_spec env msg _) rfl h
  have hstate := EStateM.of_triple (handleServerAuthImpl_handshakeState_spec env msg s) rfl h
  refine ⟨hi.of_stage_eq hstage fun hauth => ?_, hstage⟩
  rcases hstate with hsame | hkey
  · rwa [← hsame]
  · cases hkey.symm.trans hauth

/-- `new-initiator` keeps the stage and opens a fresh context in `KeySent`. -/
lemma TasksInv.handleNewInitiator (hi : TasksInv t₀ s) {actions : List HandleAction}
    (h : handleNewInitiator env s = .ok actions s') :
    TasksInv t₀ s' ∧ s'.common.stage = s.common.stage := by
  have hstage := EStateM.of_triple (handleNewInitiator_spec env _) rfl h
  have hkey := EStateM.of_triple (handleNewInitiator_handshakeState_spec env) trivial h
  exact ⟨hi.of_stage_eq hstage fun hauth => (by cases hkey.symm.trans hauth), hstage⟩

/-- The responder refuses every `new-responder`. -/
lemma handleNewResponder_ne_ok {msg : NewResponder} {actions : List HandleAction}
    (h : Handlers.handleNewResponder env msg s = .ok actions s') : False :=
  EStateM.of_triple handleNewResponder_spec trivial h

variable (env)

/-- The invariant of the tasks `t₀`, as a part of the refinement of `handle_message`. -/
def tasksRoleInv (t₀ : Tasks) : RoleInv ResponderSignaling env where
  I := TasksInv t₀
  stage _ hi := hi.inv
  frame _ _ hi hc := hi.of_stage_eq hc id
  step _ _ hi _ hstep htask := hi.setCommon_step hstep htask
  setPeer s addr csnPair cookiePair hi :=
    ⟨hi.setPeerWithAddress addr csnPair cookiePair, stage_setPeerWithAddress s addr csnPair cookiePair⟩
  source := validateNonceSource_state
  destination_ne_dropMsg := (roleInv env).destination_ne_dropMsg
  destination nonce _ hi :=
    ⟨hi.validateNonceDestination nonce, (hi.inv.validateNonceDestination nonce).2⟩
  serverAuthImpl _ _ _ _ hi h := hi.handleServerAuthImpl h
  newInitiator _ _ _ hi h := hi.handleNewInitiator h
  newResponder _ _ _ _ _ h := (handleNewResponder_ne_ok h).elim
  disconnected msg s _ _ hi h := by
    rw [EStateM.of_triple (handleDisconnected_spec msg s) rfl h]
    exact ⟨hi, rfl⟩
  peer _ _ _ _ hi hpeer h _ := hi.handlePeerMessage hpeer h

end ResponderSignaling

/-- The builder makes a responder, with an auth token or trusting the initiator's key, from any
tasks of which two share a name; but no state that responder reaches by successful calls of
`handle_message`, whatever the server and the initiator send, is in the task state, or has the
initiator's context in `AuthSent`. -/
theorem duplicate_task_names_never_task (env : Env) (b : SaltyClientBuilder)
    (initiatorPubkey : PublicKey) (authToken : Option AuthToken)
    (hdup : ¬ (b.tasks.map Task.name).Nodup) :
    (∃ o, b.makeResponder env initiatorPubkey authToken = .ok o) ∧
    ∀ r₀, b.makeResponder env initiatorPubkey authToken = .ok (some r₀) →
      ∀ r, Reach.Reachable (OkStep env) (· = r₀) r →
        r.common.signalingState ≠ .task ∧ r.initiator.handshakeState ≠ .authSent := by
  -- repeated names need two tasks at least
  have hne : b.tasks ≠ [] := by
    rintro hnil
    simp [hnil] at hdup
  have hok : b.makeResponder env initiatorPubkey authToken = .ok _ :=
    SaltyClientBuilder.makeResponder_eq_ok env hne
  refine ⟨⟨_, hok⟩, fun r₀ hr₀ r hr => ?_⟩
  rw [hok] at hr₀
  have hinv := ResponderSignaling.TasksInv.initial (Except.ok.inj hr₀)
  have hi := ((ResponderSignaling.tasksRoleInv env _).leads_of_reachable hinv hr).1
  exact ⟨fun htask => hdup (hi.task htask), fun hauth => hdup (hi.authSent hauth)⟩

/-- A builder to which the concrete task was added twice. -/
def Toy.twiceBuilder : SaltyClientBuilder :=
  ((SaltyClientBuilder.new (Toy.keyPair 2)).addTask (Toy.task "v1.test")).addTask
    (Toy.task "v1.test")

/-- The concrete task added twice gives a responder that never reaches the task state. -/
theorem duplicate_task_names_twice :
    ¬ (Toy.twiceBuilder.tasks.map Task.name).Nodup ∧
      (∃ o, Toy.twiceBuilder.makeResponder (Toy.responderEnv fun _ => 1) (Toy.publicKey 1)
        none = .ok o) ∧
      ∀ r₀, Toy.twiceBuilder.makeResponder (Toy.responderEnv fun _ => 1) (Toy.publicKey 1)
          none = .ok (some r₀) →
        ∀ r, Reach.Reachable (OkStep (Toy.responderEnv fun _ => 1)) (· = r₀) r →
          r.common.signalingState ≠ .task ∧ r.initiator.handshakeState ≠ .authSent :=
  have hdup : ¬ (Toy.twiceBuilder.tasks.map Task.name).Nodup := by
    simp [Toy.twiceBuilder, SaltyClientBuilder.addTask, SaltyClientBuilder.new, Toy.task]
  ⟨hdup, duplicate_task_names_never_task (Toy.responderEnv fun _ => 1) Toy.twiceBuilder
    (Toy.publicKey 1) none hdup⟩

end SaltyRtc
