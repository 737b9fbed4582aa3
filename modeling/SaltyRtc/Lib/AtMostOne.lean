import Mathlib

/-!
# At most one element of a list

`List.AtMostOne p l`: no two positions of `l` both hold an element with `p`. It is stated with
`List.Pairwise`, so that `p` need not be decidable, and is built up the way a list of outputs is:
a list none of whose elements has `p`, one element between two such lists, and the concatenation of
two lists of which one has no such element.
-/

namespace List

variable {α : Type} {p : α → Prop} {l l₁ l₂ : List α}

/-- At most one element of the list has `p`. -/
def AtMostOne (p : α → Prop) (l : List α) : Prop :=
  l.Pairwise fun a b => ¬ (p a ∧ p b)

namespace AtMostOne

lemma of_forall_not (h : ∀ a ∈ l, ¬ p a) : AtMostOne p l :=
  List.Pairwise.imp_of_mem (fun ha _ _ hab => h _ ha hab.1)
    (List.pairwise_of_forall fun _ _ => trivial)

/-- A concatenation of two such lists, one of which has no element with `p`. -/
lemma append (h₁ : AtMostOne p l₁) (h₂ : AtMostOne p l₂)
    (h : (∀ a ∈ l₁, ¬ p a) ∨ ∀ b ∈ l₂, ¬ p b) : AtMostOne p (l₁ ++ l₂) := by
  refine List.pairwise_append.mpr ⟨h₁, h₂, fun a ha b hb hab => ?_⟩
  rcases h with h | h
  · exact h a ha hab.1
  · exact h b hb hab.2

/-- One element between two lists with no element with `p`. -/
lemma of_single {pre post : List α} (x : α) (h : ∀ a ∈ pre ++ post, ¬ p a) :
    AtMostOne p (pre ++ x :: post) := by
  have hpre : ∀ a ∈ pre, ¬ p a := fun a ha => h a (List.mem_append_left _ ha)
  have hpost : ∀ b ∈ post, ¬ p b := fun b hb => h b (List.mem_append_right _ hb)
  have hxpost : AtMostOne p (x :: post) :=
    List.pairwise_cons.mpr ⟨fun b hb hxb => hpost b hb hxb.2, of_forall_not hpost⟩
  exact append (of_forall_not hpre) hxpost (.inl hpre)

end AtMostOne

end List
