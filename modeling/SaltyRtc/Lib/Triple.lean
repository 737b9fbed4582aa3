import Mathlib

/-!
# Hoare triples over computations that may fail

Specifications of `EStateM` computations are `Std.Do` triples whose postcondition ignores a
failure (`⇓?`): they speak of the runs that return, and the `mvcgen` tactic proves them from the
specifications of the functions called. This file adds what that calculus lacks for our use:
reading a triple back as a fact about one successful run, and, for the two list loops `List.mapM`
and `List.filterMapM`, the invariant rules and the rules for what the loops return.
-/

open Std.Do

namespace EStateM

set_option mvcgen.warning false

variable {ε σ α β : Type}

/-- A triple tells what a successful run from a state satisfying its precondition ends in. -/
theorem of_triple {P : σ → Prop} {Q : α → σ → Prop} {x : EStateM ε σ α}
    (h : ⦃fun s => ⌜P s⌝⦄ x ⦃⇓? a s => ⌜Q a s⌝⦄) {s : σ} {a : α} {s' : σ} (hs : P s)
    (hx : x s = .ok a s') : Q a s' := by
  have hwp := h s hs
  simp only [wp, PredTrans.apply, EStateM.run, hx] at hwp
  exact hwp

/-- Conversely, what every successful run from one state ends in is a triple. -/
theorem triple_of_run {Q : α → σ → Prop} {x : EStateM ε σ α} {s₀ : σ}
    (h : ∀ a s', x s₀ = .ok a s' → Q a s') : ⦃fun s => ⌜s = s₀⌝⦄ x ⦃⇓? a s => ⌜Q a s⌝⦄ := by
  intro s hs
  subst hs
  simp only [wp, PredTrans.apply, EStateM.run]
  cases hx : x s with
  | ok a s' => exact h a s' hx
  | error e s' => trivial

/-- A triple from every start state allowed by a precondition is a triple for it. -/
theorem triple_of_forall {P : σ → Prop} {Q : α → σ → Prop} {x : EStateM ε σ α}
    (h : ∀ s₀, P s₀ → ⦃fun s => ⌜s = s₀⌝⦄ x ⦃⇓? a s => ⌜Q a s⌝⦄) :
    ⦃fun s => ⌜P s⌝⦄ x ⦃⇓? a s => ⌜Q a s⌝⦄ :=
  fun s hs => h s hs s rfl

/-- The triple that records a computation's own run from a given state: it lets `mvcgen` step
over a call whose code it cannot see. -/
theorem triple_run (x : EStateM ε σ α) (s₀ : σ) :
    ⦃fun s => ⌜s = s₀⌝⦄ x ⦃⇓? a s => ⌜x s₀ = .ok a s⌝⦄ :=
  triple_of_run fun _ _ h => h

/-- The same with the failures: a triple that records both outcomes of a run. -/
theorem triple_run_result (x : EStateM ε σ α) (s₀ : σ) :
    ⦃fun s => ⌜s = s₀⌝⦄ x ⦃post⟨fun a s => ⌜x s₀ = .ok a s⌝, fun e s => ⌜x s₀ = .error e s⌝⟩⦄ := by
  intro s hs
  subst hs
  simp only [wp, PredTrans.apply, EStateM.run]
  cases x s <;> simp

/-- The loop rule of `List.mapM`: what every call keeps, the loop keeps. -/
theorem mapM_inv (I : σ → Prop) (f : α → EStateM ε σ β) (l : List α)
    (hf : ∀ a ∈ l, ⦃fun s => ⌜I s⌝⦄ f a ⦃⇓? _ s => ⌜I s⌝⦄) :
    ⦃fun s => ⌜I s⌝⦄ l.mapM f ⦃⇓? _ s => ⌜I s⌝⦄ := by
  induction l with
  | nil => mvcgen
  | cons a l ih =>
    have ha := hf a (by simp)
    have hl := ih fun b hb => hf b (by simp [hb])
    simp only [List.mapM_cons]
    mvcgen [ha, hl]

/-- The loop rule of `List.filterMapM`: what every call keeps, the loop keeps. -/
theorem filterMapM_inv (I : σ → Prop) (f : α → EStateM ε σ (Option β)) (l : List α)
    (hf : ∀ a ∈ l, ⦃fun s => ⌜I s⌝⦄ f a ⦃⇓? _ s => ⌜I s⌝⦄) :
    ⦃fun s => ⌜I s⌝⦄ l.filterMapM f ⦃⇓? _ s => ⌜I s⌝⦄ := by
  induction l with
  | nil => mvcgen
  | cons a l ih =>
    have ha := hf a (by simp)
    have hl := ih fun b hb => hf b (by simp [hb])
    simp only [List.filterMapM_cons]
    mvcgen [ha, hl]

/-- The result rule of `List.mapM`: if every call returns a value with `P`, every value of the
list the loop returns has `P`. -/
theorem mapM_forall (P : β → Prop) (f : α → EStateM ε σ β) (l : List α)
    (hf : ∀ a ∈ l, ⦃fun _ => ⌜True⌝⦄ f a ⦃⇓? b _ => ⌜P b⌝⦄) :
    ⦃fun _ => ⌜True⌝⦄ l.mapM f ⦃⇓? bs _ => ⌜∀ b ∈ bs, P b⌝⦄ := by
  induction l with
  | nil =>
    simp only [List.mapM_nil]
    mvcgen
    simp
  | cons a l ih =>
    have ha := hf a (by simp)
    have hl := ih fun b hb => hf b (by simp [hb])
    simp only [List.mapM_cons]
    mvcgen [ha, hl]
    -- the head from the first call, the tail from the loop
    rename_i b _ hb bs _ hbs
    simp only [List.mem_cons, forall_eq_or_imp]
    exact ⟨hb, hbs⟩

/-- The result rule of `List.filterMapM`: if every call returns `none` or a value with `P`, every
value of the list the loop returns has `P`. -/
theorem filterMapM_forall (P : β → Prop) (f : α → EStateM ε σ (Option β)) (l : List α)
    (hf : ∀ a ∈ l, ⦃fun _ => ⌜True⌝⦄ f a ⦃⇓? o _ => ⌜∀ b ∈ o, P b⌝⦄) :
    ⦃fun _ => ⌜True⌝⦄ l.filterMapM f ⦃⇓? bs _ => ⌜∀ b ∈ bs, P b⌝⦄ := by
  induction l with
  | nil =>
    simp only [List.filterMapM_nil]
    mvcgen
    simp
  | cons a l ih =>
    have ha := hf a (by simp)
    have hl := ih fun b hb => hf b (by simp [hb])
    simp only [List.filterMapM_cons]
    mvcgen [ha, hl]
    -- a value the first call keeps, the tail from the loop
    rename_i b _ _ hb bs _ hbs
    simp only [List.mem_cons, forall_eq_or_imp]
    exact ⟨hb b rfl, hbs⟩

end EStateM
