import Mathlib
import SaltyRtc.Protocol.Context

/-!
# The phases of a client

An abstract view of a client: its `Stage` keeps, of the common data, the signaling state, the
state of the server handshake and the server's session key, the client's identity, and the task
data. `Stage.Step role` lists the changes of phase the protocol makes: the assignment of an
identity, `server-hello`, `server-auth`, and the choice of a task at the end of the peer
handshake. Everything else a handler does (nonces, cookies, the peers' contexts) leaves the stage
as it is.

`Stage.Inv role` is what holds of every stage reached by such steps from that of a fresh client:
an identity, once assigned, fits the role; past the server handshake, that handshake is done; in
the task state a task is chosen. `Stage.Advances` says that the phases only move forward.
-/

namespace SaltyRtc

/-- The identities a role may be assigned: `0x01` for the initiator, an address from `0x02` for
a responder. -/
def ClientIdentity.Fits : Role → ClientIdentity → Prop
  | .initiator, .initiator => True
  | .responder, .responder a => 0x02 ≤ a
  | _, _ => False

@[simp] lemma ClientIdentity.not_fits_unknown (role : Role) : ¬ ClientIdentity.unknown.Fits role := by
  cases role <;> simp [Fits]

/-- The position of a signaling state along `ServerHandshake → PeerHandshake → Task`. -/
def SignalingState.rank : SignalingState → Nat
  | .serverHandshake => 0
  | .peerHandshake => 1
  | .task => 2

/-- The position of a server handshake state along `New → ClientInfoSent → Done`. -/
def ServerHandshakeState.rank : ServerHandshakeState → Nat
  | .new => 0
  | .clientInfoSent => 1
  | .done => 2

/-- The phase of a client, as its common data records it. -/
structure Stage where
  signalingState : SignalingState
  serverHandshakeState : ServerHandshakeState
  serverSessionKey : Option PublicKey
  identity : ClientIdentity
  tasks : Option Tasks
  task : Option Task
  taskSupportedTypes : Option (List String)

/-- The stage of the common data. -/
def Common.stage (c : Common) : Stage :=
  ⟨c.signalingState, c.server.handshakeState, c.server.sessionKey, c.identity, c.tasks, c.task,
    c.taskSupportedTypes⟩

namespace Common

variable (c : Common)

@[simp] lemma stage_signalingState : c.stage.signalingState = c.signalingState := rfl
@[simp] lemma stage_serverHandshakeState :
    c.stage.serverHandshakeState = c.server.handshakeState := rfl
@[simp] lemma stage_serverSessionKey : c.stage.serverSessionKey = c.server.sessionKey := rfl
@[simp] lemma stage_identity : c.stage.identity = c.identity := rfl
@[simp] lemma stage_tasks : c.stage.tasks = c.tasks := rfl
@[simp] lemma stage_task : c.stage.task = c.task := rfl
@[simp] lemma stage_taskSupportedTypes : c.stage.taskSupportedTypes = c.taskSupportedTypes := rfl

/-- The server's nonces, cookies and keys other than its session key are not part of the
stage. -/
@[simp] lemma stage_server_csnPair (p : CombinedSequencePair) :
    { c with server := { c.server with csnPair := p } }.stage = c.stage := rfl

@[simp] lemma stage_server_cookiePair (p : CookiePair) :
    { c with server := { c.server with cookiePair := p } }.stage = c.stage := rfl

@[simp] lemma stage_authProvider (a : Option AuthProvider) :
    { c with authProvider := a }.stage = c.stage := rfl

end Common

namespace Stage

/-- The changes of phase. -/
inductive Step (role : Role) : Stage → Stage → Prop
  /-- The first message addressed to us after `server-hello` assigns our identity. -/
  | assignIdentity {st : Stage} {id : ClientIdentity} :
      st.identity = .unknown → st.serverHandshakeState ≠ .new → id.Fits role →
      Step role st { st with identity := id }
  /-- `server-hello` brings the server's session key. -/
  | serverHello {st : Stage} (key : PublicKey) :
      st.serverHandshakeState = .new → st.serverSessionKey = none →
      Step role st { st with serverHandshakeState := .clientInfoSent, serverSessionKey := some key }
  /-- `server-auth` ends the server handshake and opens the peer handshake. -/
  | serverAuth {st : Stage} :
      st.serverHandshakeState = .clientInfoSent → st.identity ≠ .unknown →
      st.signalingState = .serverHandshake →
      Step role st { st with serverHandshakeState := .done, signalingState := .peerHandshake }
  /-- A successful `auth` fixes the task; the list of our tasks has been taken out. -/
  | chooseTask {st : Stage} (task : Task) :
      st.signalingState = .peerHandshake →
      Step role st { st with
        signalingState := .task, tasks := none, task := some task,
        taskSupportedTypes := some task.supportedTypes }

/-- Finitely many changes of phase. -/
abbrev Steps (role : Role) : Stage → Stage → Prop := Relation.ReflTransGen (Step role)

/-- What holds in every phase a client of a role reaches. -/
structure Inv (role : Role) (st : Stage) : Prop where
  /-- An identity is unknown or one the role may have. -/
  identity : st.identity = .unknown ∨ st.identity.Fits role
  /-- The server's session key is known from `server-hello` on. -/
  sessionKey : st.serverHandshakeState ≠ .new → st.serverSessionKey.isSome
  /-- Past the server handshake, it is done, with a session key and an identity. -/
  peer : st.signalingState ≠ .serverHandshake →
    st.serverHandshakeState = .done ∧ st.serverSessionKey.isSome ∧ st.identity.Fits role
  /-- In the task state the task is chosen and our list of tasks is gone. -/
  task : st.signalingState = .task →
    st.task.isSome ∧ st.tasks = none ∧ st.taskSupportedTypes.isSome

/-- A fresh client: in the server handshake, not started, with no identity. -/
lemma Inv.fresh {role : Role} {st : Stage} (hsig : st.signalingState = .serverHandshake)
    (hserver : st.serverHandshakeState = .new) (hid : st.identity = .unknown) : Inv role st where
  identity := .inl hid
  sessionKey h := absurd hserver h
  peer h := absurd hsig h
  task h := by simp [hsig] at h

/-- Before the server handshake is done the signaling state is still `ServerHandshake`. -/
lemma Inv.serverHandshake_of_ne_done {role : Role} {st : Stage} (hi : Inv role st)
    (h : st.serverHandshakeState ≠ .done) : st.signalingState = .serverHandshake := by
  by_contra hne
  exact h (hi.peer hne).1

/-- Every change of phase keeps the invariant. -/
lemma Step.inv {role : Role} {st st' : Stage} (hstep : Step role st st') (hi : Inv role st) :
    Inv role st' := by
  cases hstep with
  | assignIdentity _ _ hfits =>
    exact ⟨.inr hfits, hi.sessionKey, fun h => ⟨(hi.peer h).1, (hi.peer h).2.1, hfits⟩, hi.task⟩
  | serverHello key hnew _ =>
    -- before `server-hello` the signaling state is still `ServerHandshake`
    have hsig := hi.serverHandshake_of_ne_done (by simp [hnew])
    refine ⟨hi.identity, fun _ => rfl, fun h => absurd hsig h, fun h => ?_⟩
    simp [hsig] at h
  | serverAuth hinfo hid _ =>
    have hkey := hi.sessionKey (by simp [hinfo])
    refine ⟨hi.identity, fun _ => hkey, fun _ => ⟨rfl, hkey, hi.identity.resolve_left hid⟩,
      fun h => ?_⟩
    simp at h
  | chooseTask task hpeer =>
    have hpast := hi.peer (by simp [hpeer])
    exact ⟨hi.identity, hi.sessionKey, fun _ => hpast, fun _ => ⟨rfl, rfl, rfl⟩⟩

/-- Every run of changes of phase keeps the invariant. -/
lemma Steps.inv {role : Role} {st st' : Stage} (hsteps : Steps role st st') (hi : Inv role st) :
    Inv role st' := by
  induction hsteps with
  | refl => exact hi
  | tail _ hstep ih => exact hstep.inv ih

/-- The phases only move forward, and an assigned identity stays. -/
structure Advances (st st' : Stage) : Prop where
  signalingState : st.signalingState.rank ≤ st'.signalingState.rank
  serverHandshakeState : st.serverHandshakeState.rank ≤ st'.serverHandshakeState.rank
  identity : st.identity ≠ .unknown → st'.identity = st.identity

@[refl] lemma Advances.refl (st : Stage) : Advances st st := ⟨le_rfl, le_rfl, fun _ => rfl⟩

@[trans] lemma Advances.trans {st₁ st₂ st₃ : Stage} (h₁ : Advances st₁ st₂)
    (h₂ : Advances st₂ st₃) : Advances st₁ st₃ where
  signalingState := Nat.le_trans h₁.signalingState h₂.signalingState
  serverHandshakeState := Nat.le_trans h₁.serverHandshakeState h₂.serverHandshakeState
  identity h := by
    have h₂₁ := h₁.identity h
    rw [h₂.identity (h₂₁ ▸ h), h₂₁]

/-- Every change of phase moves forward. -/
lemma Step.advances {role : Role} {st st' : Stage} (hstep : Step role st st') :
    Advances st st' := by
  cases hstep with
  | assignIdentity hunknown _ _ => exact ⟨le_rfl, le_rfl, fun h => absurd hunknown h⟩
  | serverHello _ hnew _ => exact ⟨le_rfl, by simp [hnew, ServerHandshakeState.rank], fun _ => rfl⟩
  | serverAuth hinfo _ hsig =>
    exact ⟨by simp [hsig, SignalingState.rank], by simp [hinfo, ServerHandshakeState.rank],
      fun _ => rfl⟩
  | chooseTask _ hpeer => exact ⟨by simp [hpeer, SignalingState.rank], le_rfl, fun _ => rfl⟩

/-- Every run of changes of phase moves forward. -/
lemma Steps.advances {role : Role} {st st' : Stage} (hsteps : Steps role st st') :
    Advances st st' := by
  induction hsteps with
  | refl => exact Advances.refl _
  | tail _ hstep ih => exact ih.trans hstep.advances

/-! ### The tasks along a run

Only `chooseTask` touches the tasks, and it enters the task state, which no change of phase
leaves: before the task state the list of our tasks is the one we started with, and in it the
chosen task stays. -/

/-- A change of phase from the task state stays there and keeps the chosen task. -/
lemma Step.task_eq {role : Role} {st st' : Stage} (hstep : Step role st st')
    (ht : st.signalingState = .task) : st'.signalingState = .task ∧ st'.task = st.task := by
  cases hstep with
  | assignIdentity => exact ⟨ht, rfl⟩
  | serverHello => exact ⟨ht, rfl⟩
  | serverAuth _ _ hsig => simp [hsig] at ht
  | chooseTask _ hpeer => simp [hpeer] at ht

/-- A change of phase into a state other than the task state starts outside it and keeps our
tasks. -/
lemma Step.tasks_eq {role : Role} {st st' : Stage} (hstep : Step role st st')
    (ht : st'.signalingState ≠ .task) : st.signalingState ≠ .task ∧ st'.tasks = st.tasks := by
  cases hstep with
  | assignIdentity => exact ⟨ht, rfl⟩
  | serverHello => exact ⟨ht, rfl⟩
  | serverAuth _ _ hsig => exact ⟨by simp [hsig], rfl⟩
  | chooseTask => simp at ht

/-- Every run from the task state stays there and keeps the chosen task. -/
lemma Steps.task_eq {role : Role} {st st' : Stage} (hsteps : Steps role st st')
    (ht : st.signalingState = .task) : st'.signalingState = .task ∧ st'.task = st.task := by
  induction hsteps with
  | refl => exact ⟨ht, rfl⟩
  | tail _ hstep ih =>
    obtain ⟨ht₁, htask₁⟩ := ih
    obtain ⟨ht', htask'⟩ := hstep.task_eq ht₁
    exact ⟨ht', htask'.trans htask₁⟩

/-- Every run into a state other than the task state keeps our tasks. -/
lemma Steps.tasks_eq {role : Role} {st st' : Stage} (hsteps : Steps role st st')
    (ht : st'.signalingState ≠ .task) : st'.tasks = st.tasks := by
  induction hsteps with
  | refl => rfl
  | tail _ hstep ih =>
    obtain ⟨ht₁, htasks⟩ := hstep.tasks_eq ht
    exact htasks.trans (ih ht₁)

end Stage

/-! ## The contexts of the responders -/

/-- A responder context the initiator keeps in its list: it is in `New`, `TokenReceived` or
`KeySent`, it has the responder's permanent key exactly when past `New`, and the responder's
session key exactly in `KeySent`. -/
structure ResponderContext.Valid (r : ResponderContext) : Prop where
  handshakeState : r.handshakeState = .new ∨ r.handshakeState = .tokenReceived ∨
    r.handshakeState = .keySent
  permanentKey : r.permanentKey.isSome ↔ r.handshakeState ≠ .new
  sessionKey : r.sessionKey.isSome ↔ r.handshakeState = .keySent

namespace ResponderContext

variable {r : ResponderContext}

/-- A fresh context: nothing is known of the responder. -/
lemma Valid.of_new (hs : r.handshakeState = .new) (hp : r.permanentKey = none)
    (hk : r.sessionKey = none) : r.Valid :=
  ⟨.inl hs, by simp [hs, hp], by simp [hs, hk]⟩

/-- The responder's permanent key is known, from its `token` or because it is trusted. -/
lemma Valid.of_tokenReceived (hs : r.handshakeState = .tokenReceived)
    (hp : r.permanentKey.isSome) (hk : r.sessionKey = none) : r.Valid :=
  ⟨.inr (.inl hs), by simp [hs, hp], by simp [hs, hk]⟩

/-- Both keys of the responder are known and ours is sent. -/
lemma Valid.of_keySent (hs : r.handshakeState = .keySent) (hp : r.permanentKey.isSome)
    (hk : r.sessionKey.isSome) : r.Valid :=
  ⟨.inr (.inr hs), by simp [hs, hp], by simp [hs, hk]⟩

/-- Validity reads only the handshake state and the two keys. -/
lemma Valid.of_eq {r' : ResponderContext} (hv : r.Valid)
    (hs : r'.handshakeState = r.handshakeState) (hp : r'.permanentKey = r.permanentKey)
    (hk : r'.sessionKey = r.sessionKey) : r'.Valid := by
  obtain ⟨h1, h2, h3⟩ := hv
  exact ⟨hs ▸ h1, hp ▸ hs ▸ h2, hk ▸ hs ▸ h3⟩

/-- A context without the responder's permanent key is a fresh one. -/
lemma Valid.new_of_permanentKey (hv : r.Valid) (hp : r.permanentKey = none) :
    r.handshakeState = .new ∧ r.sessionKey = none := by
  have hs : r.handshakeState = .new := by
    by_contra hne
    simpa [hp] using hv.permanentKey.mpr hne
  refine ⟨hs, ?_⟩
  cases hk : r.sessionKey with
  | none => rfl
  | some k => simpa [hs, hk] using hv.sessionKey

/-- `ResponderContext::new` makes a fresh context. -/
lemma new_eq_some {d : Draw} {a : Address} {c : UInt32} (h : ResponderContext.new d a c = some r) :
    r.handshakeState = .new ∧ r.permanentKey = none ∧ r.sessionKey = none := by
  simp only [ResponderContext.new, Option.map_eq_some_iff] at h
  obtain ⟨_, -, rfl⟩ := h
  exact ⟨rfl, rfl, rfl⟩

end ResponderContext

end SaltyRtc
