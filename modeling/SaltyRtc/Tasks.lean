import SaltyRtc.Value

/-!
# Close codes and tasks

Port of `src/close_code.rs` and `src/tasks.rs`. A task is user code behind the `Task` trait; the
model keeps what the signaling reads of it (its name, its negotiation data and its supported
message types) and, as a record of the `init` call, the data it was initialised with. Whether
`init` succeeds is decided by the task, outside the repository: `Env.taskInit` in the signaling
model.
-/

namespace SaltyRtc

/-- Close codes used by SaltyRTC. -/
inductive CloseCode where
  | wsClosingNormal
  | wsGoingAway
  | wsProtocolError
  | pathFull
  | protocolError
  | internalError
  | handover
  | droppedByInitiator
  | initiatorCouldNotDecrypt
  | noSharedTask
  | invalidKey
  | timeout
  | other (code : UInt16)
  deriving DecidableEq, Repr

namespace CloseCode

/-- `CloseCode::as_number`. -/
def asNumber : CloseCode → UInt16
  | .wsClosingNormal => 1000
  | .wsGoingAway => 1001
  | .wsProtocolError => 1002
  | .pathFull => 3000
  | .protocolError => 3001
  | .internalError => 3002
  | .handover => 3003
  | .droppedByInitiator => 3004
  | .initiatorCouldNotDecrypt => 3005
  | .noSharedTask => 3006
  | .invalidKey => 3007
  | .timeout => 3008
  | .other code => code

/-- `CloseCode::from_number`. -/
def fromNumber (code : UInt16) : CloseCode :=
  if code = 1000 then .wsClosingNormal
  else if code = 1001 then .wsGoingAway
  else if code = 1002 then .wsProtocolError
  else if code = 3000 then .pathFull
  else if code = 3001 then .protocolError
  else if code = 3002 then .internalError
  else if code = 3003 then .handover
  else if code = 3004 then .droppedByInitiator
  else if code = 3005 then .initiatorCouldNotDecrypt
  else if code = 3006 then .noSharedTask
  else if code = 3007 then .invalidKey
  else if code = 3008 then .timeout
  else .other code

/-- One test of `from_number`: the code it names on a match stands for the number tested. -/
lemma asNumber_ite {code n : UInt16} {c r : CloseCode} (hc : c.asNumber = n)
    (hr : r.asNumber = code) : (if code = n then c else r).asNumber = code := by
  by_cases h : code = n
  · rw [if_pos h, hc, h]
  · rw [if_neg h, hr]

/-- Every number survives `from_number` then `as_number`. -/
@[simp] lemma asNumber_fromNumber (code : UInt16) : (fromNumber code).asNumber = code := by
  unfold fromNumber
  -- the twelve tests in turn; past them the number is kept in `other`
  repeat' refine asNumber_ite (by rfl) ?_
  rfl

end CloseCode

/-- A task as the signaling sees it. -/
structure Task where
  /-- `Task::name`. -/
  name : String
  /-- `Task::data`: the data sent for this task in the `auth` message. -/
  data : Option ValueMap
  /-- `Task::supported_types`. -/
  supportedTypes : List String
  /-- The data `Task::init` was called with, once it succeeded. -/
  initData : Option (Option ValueMap)
  deriving DecidableEq

/-- `Tasks`: a list of tasks that cannot be empty. -/
structure Tasks where
  tasks : List Task
  ne_nil : tasks ≠ []
  deriving DecidableEq

namespace Tasks

/-- `Tasks::from_vec`. -/
def fromVec (tasks : List Task) : Except String Tasks :=
  if h : tasks = [] then .error "Tasks vector may not be empty" else .ok ⟨tasks, h⟩

/-- `Tasks::choose_shared_task`: our first task whose name the peer proposed. -/
def chooseSharedTask (ts : Tasks) (proposed : List String) : Option Task :=
  ts.tasks.find? (fun t => proposed.any (· == t.name))

/-! ## The task chosen -/

/-- The test `choose_shared_task` applies to each of our tasks: the peer proposed its name. -/
lemma any_beq_iff_mem (proposed : List String) (name : String) :
    proposed.any (· == name) = true ↔ name ∈ proposed := by
  simp

variable {ts : Tasks} {proposed : List String} {t : Task}

/-- A task is chosen exactly when it is the first of ours, in our order, whose name the peer
proposed. -/
lemma chooseSharedTask_eq_some_iff :
    ts.chooseSharedTask proposed = some t ↔
      t.name ∈ proposed ∧ ∃ pre post, ts.tasks = pre ++ t :: post ∧ ∀ u ∈ pre, u.name ∉ proposed := by
  rw [chooseSharedTask, List.find?_eq_some_iff_append, any_beq_iff_mem]
  simp only [Bool.not_eq_true', Bool.eq_false_iff, ne_eq, any_beq_iff_mem]

/-- No task is chosen exactly when the peer proposed none of our names. -/
lemma chooseSharedTask_eq_none_iff :
    ts.chooseSharedTask proposed = none ↔ ∀ u ∈ ts.tasks, u.name ∉ proposed := by
  simp only [chooseSharedTask, List.find?_eq_none, any_beq_iff_mem]

/-- Our preference wins: with `dummy.1` before `dummy.2` in our list, the proposal
`["dummy.2", "dummy.1"]` gets `dummy.1`. -/
example :
    (⟨[⟨"dummy.1", none, [], none⟩, ⟨"dummy.2", none, [], none⟩], by simp⟩ : Tasks).chooseSharedTask
      ["dummy.2", "dummy.1"] = some ⟨"dummy.1", none, [], none⟩ := rfl

/-- The task choice: a task is chosen exactly when the peer proposed the name of one of ours, and
it is then the first of ours, in our order, whose name the peer proposed, whatever the order,
repetitions or unknown names of the proposal; none is chosen exactly when the peer proposed none
of our names. -/
theorem choose_shared_task_first :
    ∀ (T : Tasks) (P : List String),
      ((∃ t, T.chooseSharedTask P = some t) ↔ ∃ t ∈ T.tasks, t.name ∈ P) ∧
      (∀ t, T.chooseSharedTask P = some t ↔
        t.name ∈ P ∧ ∃ pre post, T.tasks = pre ++ t :: post ∧ ∀ u ∈ pre, u.name ∉ P) ∧
      (T.chooseSharedTask P = none ↔ ∀ t ∈ T.tasks, t.name ∉ P) := by
  intro T P
  refine ⟨?_, fun t => chooseSharedTask_eq_some_iff, chooseSharedTask_eq_none_iff⟩
  -- a task is found exactly when the search does not come back empty
  rw [← Option.isSome_iff_exists, Option.isSome_iff_ne_none, Ne, chooseSharedTask_eq_none_iff]
  simp only [not_forall, not_not, exists_prop]

end Tasks

/-- A message handed between the task and the signaling. -/
inductive TaskMessage where
  /-- An arbitrary map with a `type` key. -/
  | value (map : ValueMap)
  /-- An application message. -/
  | application (data : Value)
  /-- A close message. -/
  | close (code : CloseCode)
  deriving DecidableEq

end SaltyRtc
