import Mathlib
import SaltyRtc.Lib.AList
import SaltyRtc.Protocol.Messages

/-!
# The `auth` messages

What the two builders of `src/protocol/messages.rs` put in an `auth` message. The responder's
builder offers every task by name, with a map from each name to the task's data; its duplicate
check (sort a copy, remove adjacent repeats, compare the lengths) lets through exactly the lists
of distinct names, so every name of the map gives back the data of its task.
-/

namespace SaltyRtc

namespace ResponderAuthBuilder

/-- Once sorted, equal names stand next to each other, so removing adjacent repeats removes
every repeat. -/
lemma destutter_mergeSort (names : List String) :
    (names.mergeSort fun a b => decide (a ≤ b)).destutter (· ≠ ·) =
      (names.mergeSort fun a b => decide (a ≤ b)).dedup := by
  have htrans : ∀ a b c : String, decide (a ≤ b) = true → decide (b ≤ c) = true →
      decide (a ≤ c) = true := by
    intro a b c hab hbc
    simp only [decide_eq_true_eq] at *
    exact le_trans hab hbc
  have htotal : ∀ a b : String, (decide (a ≤ b) || decide (b ≤ a)) = true := by
    intro a b
    simpa using le_total a b
  have hsorted : (names.mergeSort fun a b => decide (a ≤ b)).Pairwise (· ≤ ·) := by
    simpa using List.pairwise_mergeSort htrans htotal names
  exact hsorted.destutter_eq_dedup

/-- The duplicate check finds exactly the repeated names. -/
lemma hasDuplicates_eq_false_iff {names : List String} :
    hasDuplicates names = false ↔ names.Nodup := by
  have hperm := List.mergeSort_perm names (fun a b => decide (a ≤ b))
  rw [hasDuplicates, bne_eq_false_iff_eq, destutter_mergeSort, ← hperm.length_eq,
    ← hperm.nodup_iff]
  constructor
  · intro hlen
    exact List.dedup_eq_self.mp ((List.dedup_sublist _).eq_of_length hlen)
  · intro hnd
    rw [hnd.dedup]

lemma nodup_of_hasDuplicates {names : List String} (h : hasDuplicates names = false) :
    names.Nodup :=
  hasDuplicates_eq_false_iff.mp h

/-- A successful build offers the names of our tasks, which are distinct, and maps each name to
the data of the task of that name. -/
lemma build_eq_ok {yourCookie : Cookie} {tasks : Tasks} {auth : Auth}
    (h : build yourCookie tasks = .ok auth) :
    (tasks.tasks.map Task.name).Nodup ∧ auth.tasks = some (tasks.tasks.map Task.name) ∧
      ∀ name, auth.data.lookup name = (tasks.tasks.find? fun t => t.name = name).map Task.data := by
  unfold build at h
  dsimp only at h
  split_ifs at h with hempty hdup
  cases h
  have hnodup : (tasks.tasks.map Task.name).Nodup := nodup_of_hasDuplicates (by simpa using hdup)
  exact ⟨hnodup, rfl, fun name => AList.lookup_foldl_insert_map Task.name Task.data name _ hnodup⟩

/-- A built message chooses no task. -/
lemma task_of_build_eq_ok {yourCookie : Cookie} {tasks : Tasks} {auth : Auth}
    (h : build yourCookie tasks = .ok auth) : auth.task = none := by
  unfold build at h
  dsimp only at h
  split_ifs at h
  cases h
  rfl

/-- The keys of the data of a built message are the names of our tasks. -/
lemma mem_data_of_build_eq_ok {yourCookie : Cookie} {tasks : Tasks} {auth : Auth}
    (h : build yourCookie tasks = .ok auth) (name : String) :
    name ∈ auth.data ↔ name ∈ tasks.tasks.map Task.name := by
  obtain ⟨-, -, hdata⟩ := build_eq_ok h
  rw [← AList.lookup_isSome, hdata name, Option.isSome_map, List.find?_isSome, List.mem_map]
  simp

/-- The build fails exactly for an empty list of names or one with a repeated name. -/
lemma build_eq_error_iff {yourCookie : Cookie} {tasks : Tasks} :
    (∃ e, build yourCookie tasks = .error e) ↔
      tasks.tasks.map Task.name = [] ∨ ¬ (tasks.tasks.map Task.name).Nodup := by
  unfold build
  dsimp only
  split_ifs with hempty hdup
  · exact iff_of_true ⟨_, rfl⟩ (.inl (List.isEmpty_iff.mp hempty))
  · refine iff_of_true ⟨_, rfl⟩ (.inr fun hnd => ?_)
    rw [hasDuplicates_eq_false_iff.mpr hnd] at hdup
    cases hdup
  · refine iff_of_false (by simp) ?_
    rintro (hnil | hdup')
    · exact hempty (List.isEmpty_iff.mpr hnil)
    · exact hdup' (nodup_of_hasDuplicates (by simpa using hdup))

end ResponderAuthBuilder

end SaltyRtc
