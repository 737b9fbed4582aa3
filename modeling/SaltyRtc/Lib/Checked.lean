import Mathlib

/-!
# Checked addition on fixed-width integers

Models of `u16::checked_add` and `u32::checked_add`: the sum when it fits the width, nothing
otherwise. Each comes with its characterisation on `toNat`, which is the only form later proofs
use.
-/

namespace UInt16

/-- `u16::checked_add`. -/
def checkedAdd (a b : UInt16) : Option UInt16 :=
  if a.toNat + b.toNat < UInt16.size then some (a + b) else none

/-- A checked sum exists iff it fits, and is then the sum of the naturals. -/
lemma checkedAdd_eq_some {a b c : UInt16} :
    a.checkedAdd b = some c ↔ a.toNat + b.toNat < UInt16.size ∧ c.toNat = a.toNat + b.toNat := by
  unfold checkedAdd
  split
  · rename_i h
    constructor
    · rintro ⟨⟩
      refine ⟨h, ?_⟩
      rw [UInt16.toNat_add, Nat.mod_eq_of_lt (by simpa using h)]
    · rintro ⟨-, hc⟩
      congr 1
      apply UInt16.toNat_inj.mp
      rw [hc, UInt16.toNat_add, Nat.mod_eq_of_lt (by simpa using h)]
  · rename_i h
    simp only [reduceCtorEq, false_iff, not_and]
    intro h'
    exact absurd h' h

/-- A checked sum is missing iff the naturals overflow the width. -/
lemma checkedAdd_eq_none {a b : UInt16} :
    a.checkedAdd b = none ↔ UInt16.size ≤ a.toNat + b.toNat := by
  unfold checkedAdd
  split <;> simp_all

end UInt16

namespace UInt32

/-- `u32::checked_add`. -/
def checkedAdd (a b : UInt32) : Option UInt32 :=
  if a.toNat + b.toNat < UInt32.size then some (a + b) else none

/-- A checked sum exists iff it fits, and is then the sum of the naturals. -/
lemma checkedAdd_eq_some {a b c : UInt32} :
    a.checkedAdd b = some c ↔ a.toNat + b.toNat < UInt32.size ∧ c.toNat = a.toNat + b.toNat := by
  unfold checkedAdd
  split
  · rename_i h
    constructor
    · rintro ⟨⟩
      refine ⟨h, ?_⟩
      rw [UInt32.toNat_add, Nat.mod_eq_of_lt (by simpa using h)]
    · rintro ⟨-, hc⟩
      congr 1
      apply UInt32.toNat_inj.mp
      rw [hc, UInt32.toNat_add, Nat.mod_eq_of_lt (by simpa using h)]
  · rename_i h
    simp only [reduceCtorEq, false_iff, not_and]
    intro h'
    exact absurd h' h

/-- A checked sum is missing iff the naturals overflow the width. -/
lemma checkedAdd_eq_none {a b : UInt32} :
    a.checkedAdd b = none ↔ UInt32.size ≤ a.toNat + b.toNat := by
  unfold checkedAdd
  split <;> simp_all

end UInt32
