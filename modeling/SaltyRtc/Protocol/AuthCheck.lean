import Mathlib
import SaltyRtc.Protocol.Auth
import SaltyRtc.Protocol.Runs

/-!
# The initiator's checks on the tasks of an `auth` message

`handle_auth` of `InitiatorSignaling` (`src/protocol/mod.rs`) checks the `task`, `tasks` and
`data` fields of a responder's `auth` message before it chooses a task: no `task`, a non-empty
`tasks`, as many `data` entries as tasks, and an entry for every task. `checkAuthTasks` is that
block of the source; `handleAuth_of_checkAuthTasks_error` shows that `handleAuth` fails with its
error.

The size test stands for "the data keys are the task names" only when the names are distinct.
The responder's builder lets through exactly the lists of distinct names, so what it builds
passes the checks.
-/

namespace SaltyRtc

namespace InitiatorSignaling

/-- The checks `handle_auth` makes on the `task`, `tasks` and `data` fields of an `auth` message,
in the order of the source; on success the proposed tasks. -/
def checkAuthTasks (msg : Auth) : Except SignalingError (List String) := do
  if msg.task.isSome then
    throw (.invalidMessage "We're an initiator, but the `task` field in the auth message is set")
  let proposedTasks ← match msg.tasks with
    | none => throw (.invalidMessage "The `tasks` field in the auth message is not set")
    | some [] => throw (.invalidMessage "The `tasks` field in the auth message is empty")
    | some tasks => pure tasks
  if msg.data.entries.length ≠ proposedTasks.length then
    throw (.invalidMessage
      "The `tasks` and `data` fields in the auth message have a different number of entries")
  if let some task := missingTaskData proposedTasks msg.data then
    throw (.invalidMessage ("The task \"" ++ task ++
      "\" in the auth message does not have a corresponding data entry"))
  return proposedTasks

lemma missingTaskData_eq_none {ts : List String} {data : AuthData} :
    missingTaskData ts data = none ↔ ∀ t ∈ ts, t ∈ data := by
  simp [missingTaskData, AList.lookup_eq_none]

/-- With no `task` and a non-empty `tasks`, the checks left are the size and the entries. -/
lemma checkAuthTasks_cons_eq_ok {c : Cookie} {data : AuthData} {t : String} {ts' ts : List String} :
    checkAuthTasks ⟨c, some (t :: ts'), none, data⟩ = .ok ts ↔
      t :: ts' = ts ∧ data.entries.length = ts.length ∧ ∀ x ∈ ts, x ∈ data := by
  simp only [checkAuthTasks, Option.isSome_none, Bool.false_eq_true, if_false, Except.pure_eq_ok,
    Except.ok_bind, Except.throw_eq_error, Except.error_bind]
  split_ifs with hlen
  · simp only [false_iff]
    rintro ⟨rfl, hlen', -⟩
    exact hlen hlen'
  · split
    next task hm =>
      -- the first task without an entry
      simp only [reduceCtorEq, false_iff]
      rintro ⟨rfl, -, hall⟩
      simp [missingTaskData_eq_none.2 hall] at hm
    next hm =>
      have hall : ∀ x ∈ t :: ts', x ∈ data :=
        missingTaskData_eq_none.1 (Option.eq_none_iff_forall_ne_some.2 hm)
      rw [Except.ok.injEq]
      constructor
      · rintro rfl
        exact ⟨rfl, not_not.1 hlen, hall⟩
      · rintro ⟨h, -⟩
        exact h

/-- The checks pass, with the proposed tasks, exactly for a message without `task` whose `tasks`
is a non-empty list with as many `data` entries, each task having one. -/
lemma checkAuthTasks_eq_ok {msg : Auth} {ts : List String} :
    checkAuthTasks msg = .ok ts ↔
      msg.task = none ∧ msg.tasks = some ts ∧ ts ≠ [] ∧ msg.data.entries.length = ts.length ∧
        ∀ t ∈ ts, t ∈ msg.data := by
  obtain ⟨c, tasks, task, data⟩ := msg
  rcases task with _ | task
  · rcases tasks with _ | _ | ⟨t, ts'⟩
    · simp [checkAuthTasks, Except.throw_eq_error]
    · simp only [checkAuthTasks, Option.isSome_none, Bool.false_eq_true, if_false,
        Except.throw_eq_error, Except.error_bind, reduceCtorEq, false_iff]
      rintro ⟨-, ⟨⟩, hne, -⟩
      exact hne rfl
    · rw [checkAuthTasks_cons_eq_ok]
      constructor
      · rintro ⟨rfl, hlen, hall⟩
        exact ⟨rfl, rfl, List.cons_ne_nil _ _, hlen, hall⟩
      · rintro ⟨-, ⟨⟩, -, hlen, hall⟩
        exact ⟨rfl, hlen, hall⟩
  · simp [checkAuthTasks, Except.throw_eq_error]

/-- For distinct names the size test and the entry of each task say together that the keys of
`data` are the task names. -/
lemma checkAuthTasks_isOk_iff_of_nodup {msg : Auth} {ts : List String} (htask : msg.task = none)
    (htasks : msg.tasks = some ts) (hnd : ts.Nodup) :
    (∃ ts', checkAuthTasks msg = .ok ts') ↔ ts ≠ [] ∧ ∀ name, name ∈ msg.data ↔ name ∈ ts := by
  simp only [checkAuthTasks_eq_ok, htask, htasks, Option.some.injEq, true_and]
  constructor
  · rintro ⟨ts', rfl, hne, hlen, hall⟩
    exact ⟨hne, (AList.mem_iff_of_length_eq hnd).mp ⟨hlen, hall⟩⟩
  · rintro ⟨hne, hmem⟩
    obtain ⟨hlen, hall⟩ := (AList.mem_iff_of_length_eq hnd).mpr hmem
    exact ⟨ts, rfl, hne, hlen, hall⟩

/-- What the responder's builder makes passes the checks, with the names of its tasks. -/
lemma checkAuthTasks_build {c : Cookie} {tasks : Tasks} {auth : Auth}
    (h : ResponderAuthBuilder.build c tasks = .ok auth) :
    checkAuthTasks auth = .ok (tasks.tasks.map Task.name) := by
  obtain ⟨hnd, htasks, -⟩ := ResponderAuthBuilder.build_eq_ok h
  have hne : tasks.tasks.map Task.name ≠ [] := by
    simpa using tasks.ne_nil
  have hmem := ResponderAuthBuilder.mem_data_of_build_eq_ok h
  obtain ⟨hlen, hall⟩ := (AList.mem_iff_of_length_eq hnd).mpr hmem
  exact checkAuthTasks_eq_ok.mpr
    ⟨ResponderAuthBuilder.task_of_build_eq_ok h, htasks, hne, hlen, hall⟩

/-! ## The checks inside `handle_auth` -/

variable (env : Env)

/-- Once the responder is found and the repeated cookie is ours, `handle_auth` fails with the
error of the first check on the tasks that fails, the responder already removed. -/
lemma handleAuth_of_checkAuthTasks_error {msg : Auth} {src : Address} {s : InitiatorSignaling}
    {r : ResponderContext} {e : SignalingError} (hr : s.responders.lookup src = some r)
    (hc : Signaling.validateRepeatedCookie msg.yourCookie r.cookiePair.ours r.toPeer.identity =
      .ok ())
    (he : checkAuthTasks msg = .error e) :
    handleAuth env msg src s = .error (.err e) { s with responders := s.responders.erase src } := by
  obtain ⟨c, tasks, task, data⟩ := msg
  simp only [handleAuth, EStateM.bind_apply, EStateM.get_apply, hr, EStateM.set_apply, liftResult,
    hc, EStateM.pure_apply]
  -- the same cases as `checkAuthTasks`, each ending in the same error
  rcases task with _ | task
  · rcases tasks with _ | _ | ⟨t, ts'⟩
    · simp only [checkAuthTasks, Option.isSome_none, Bool.false_eq_true, if_false,
        Except.throw_eq_error, Except.error_bind, Except.error.injEq] at he
      subst he
      simp
    · simp only [checkAuthTasks, Option.isSome_none, Bool.false_eq_true, if_false,
        Except.throw_eq_error, Except.error_bind, Except.error.injEq] at he
      subst he
      simp
    · simp only [checkAuthTasks, Option.isSome_none, Bool.false_eq_true, if_false,
        Except.pure_eq_ok, Except.ok_bind, Except.throw_eq_error, Except.error_bind] at he
      simp only [Option.isSome_none, Bool.false_eq_true, if_false, EStateM.bind_apply,
        EStateM.pure_apply]
      split_ifs at he ⊢ with hlen
      · cases he
        simp
      · split at he
        next task hm =>
          cases he
          simp [hm]
        next => cases he
  · simp only [checkAuthTasks, Option.isSome_some, if_true, Except.throw_eq_error,
      Except.error_bind, Except.error.injEq] at he
    subst he
    simp

/-- A successful `handle_auth` passed the checks on the tasks. -/
lemma checkAuthTasks_of_handleAuth {msg : Auth} {src : Address} {s s' : InitiatorSignaling}
    {actions : List HandleAction} (h : handleAuth env msg src s = .ok actions s') :
    ∃ ts, checkAuthTasks msg = .ok ts := by
  cases hr : s.responders.lookup src with
  | none => simp [handleAuth, hr] at h
  | some r =>
    cases hc : Signaling.validateRepeatedCookie msg.yourCookie r.cookiePair.ours
        r.toPeer.identity with
    | error e => simp [handleAuth, hr, hc, liftResult] at h
    | ok u =>
      cases hk : checkAuthTasks msg with
      | ok ts => exact ⟨ts, rfl⟩
      | error e =>
        rw [handleAuth_of_checkAuthTasks_error env hr hc hk] at h
        cases h

/-- The initiator's checks on the tasks of `auth`, and the responder's builder. The checks pass
exactly for a non-empty `tasks` with as many `data` entries, each task having one, and
`handle_auth` fails with the check's error otherwise; for distinct names this is "the keys of
`data` are the task names". The builder fails exactly on an empty list or a repeated name, and
what it builds passes the checks. -/
theorem auth_tasks_validation :
    (∀ (msg : Auth) (ts : List String), checkAuthTasks msg = .ok ts ↔
      msg.task = none ∧ msg.tasks = some ts ∧ ts ≠ [] ∧ msg.data.entries.length = ts.length ∧
        ∀ t ∈ ts, t ∈ msg.data) ∧
    (∀ (msg : Auth) (ts : List String), msg.task = none → msg.tasks = some ts → ts.Nodup →
      ((∃ ts', checkAuthTasks msg = .ok ts') ↔ ts ≠ [] ∧ ∀ name, name ∈ msg.data ↔ name ∈ ts)) ∧
    (∀ (env : Env) (msg : Auth) (src : Address) (s : InitiatorSignaling) (r : ResponderContext)
      (e : SignalingError), s.responders.lookup src = some r →
      Signaling.validateRepeatedCookie msg.yourCookie r.cookiePair.ours r.toPeer.identity = .ok () →
      checkAuthTasks msg = .error e →
      handleAuth env msg src s = .error (.err e) { s with responders := s.responders.erase src }) ∧
    (∀ (env : Env) (msg : Auth) (src : Address) (s s' : InitiatorSignaling)
      (actions : List HandleAction), handleAuth env msg src s = .ok actions s' →
      ∃ ts, checkAuthTasks msg = .ok ts) ∧
    (∀ (c : Cookie) (tasks : Tasks), (tasks.tasks.map Task.name).Nodup →
      ∃ auth, ResponderAuthBuilder.build c tasks = .ok auth ∧
        checkAuthTasks auth = .ok (tasks.tasks.map Task.name)) ∧
    (∀ (c : Cookie) (tasks : Tasks), (∃ e, ResponderAuthBuilder.build c tasks = .error e) ↔
      tasks.tasks.map Task.name = [] ∨ ¬ (tasks.tasks.map Task.name).Nodup) := by
  refine ⟨fun _ _ => checkAuthTasks_eq_ok, fun _ _ => checkAuthTasks_isOk_iff_of_nodup,
    fun env _ _ _ _ _ hr hc he => handleAuth_of_checkAuthTasks_error env hr hc he,
    fun env _ _ _ _ _ h => checkAuthTasks_of_handleAuth env h, ?_,
    fun _ _ => ResponderAuthBuilder.build_eq_error_iff⟩
  intro c tasks hnd
  -- with distinct names the build cannot fail
  cases hb : ResponderAuthBuilder.build c tasks with
  | ok auth => exact ⟨auth, rfl, checkAuthTasks_build hb⟩
  | error e =>
    obtain hnil | hdup := ResponderAuthBuilder.build_eq_error_iff.mp ⟨e, hb⟩
    · exact absurd hnil (by simpa using tasks.ne_nil)
    · exact absurd hnd hdup

/-- A repeated name lets through a `data` entry for a task that was not proposed: two entries
for the two copies of `v1`, one of them for `v2`. -/
theorem auth_tasks_repeated_name :
    let msg : Auth :=
      ⟨Toy.cookie 1, some ["v1", "v1"], none, ((∅ : AuthData).insert "v1" none).insert "v2" none⟩
    checkAuthTasks msg = .ok ["v1", "v1"] ∧ "v2" ∈ msg.data ∧ "v2" ∉ ["v1", "v1"] := by
  intro msg
  -- no `task`, two names, two entries, and an entry for `v1`
  have hchecks : checkAuthTasks msg = .ok ["v1", "v1"] :=
    (auth_tasks_validation.1 msg _).mpr ⟨rfl, rfl, by simp, by decide, by decide⟩
  exact ⟨hchecks, by decide, by decide⟩

end InitiatorSignaling

end SaltyRtc
