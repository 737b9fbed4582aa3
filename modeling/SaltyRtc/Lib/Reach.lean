import Mathlib

/-!
# Reachable states of a transition relation

`Reachable step init` is the set of states a system reaches from one of its initial states by
finitely many steps, each labelled by the input that caused it. An invariant is proved of every
reachable state by the rule `Reachable.inv`: it holds initially and every step keeps it.
-/

namespace Reach

variable {σ ι : Type} {step : σ → ι → σ → Prop} {init : σ → Prop}

/-- The states reachable from `init` by steps of `step`. -/
inductive Reachable (step : σ → ι → σ → Prop) (init : σ → Prop) : σ → Prop where
  | init {s} : init s → Reachable step init s
  | step {s s' : σ} (i : ι) : Reachable step init s → step s i s' → Reachable step init s'

/-- The invariant rule: what holds initially and is kept by every step from a reachable state
holds in every reachable state. -/
lemma Reachable.inv {P : σ → Prop} (h0 : ∀ s, init s → P s)
    (h1 : ∀ s i s', Reachable step init s → P s → step s i s' → P s')
    {s : σ} (hs : Reachable step init s) : P s := by
  induction hs with
  | init h => exact h0 _ h
  | step i hs st ih => exact h1 _ i _ hs ih st

end Reach
