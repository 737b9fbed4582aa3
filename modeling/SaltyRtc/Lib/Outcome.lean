import Mathlib

/-!
# Computations that mutate state in place and may fail

A method taking `&mut self` and returning a `Result` is modelled in `EStateM (Fault ε) σ`: the
state threads through every call, a returned error keeps the mutations done before it (as in the
source, where nothing is rolled back), and a panic is a second way out that no caller catches.

The lemmas below are the inversion rules later proofs use to peel a successful run of a `do`
block apart one bind at a time, without unfolding the monad; for the pure decoders, in `Except`,
the two rules that run a bind on a returned value or an error.
-/

/-- How a call of the source ends abnormally: it returns an error value, or it panics. -/
inductive Fault (ε : Type) where
  | err (e : ε)
  | panic (msg : String)
  deriving DecidableEq, Repr

/-- The same fault with its error value converted, as a `From` impl does for `?` or `into()`. -/
def Fault.map {ε ε' : Type} (f : ε → ε') : Fault ε → Fault ε'
  | .err e => .err (f e)
  | .panic m => .panic m

/-- Results compare part by part, so that a run on a fixed input can be checked by `decide`. -/
instance EStateM.Result.instDecidableEq {ε σ α : Type} [DecidableEq ε] [DecidableEq σ]
    [DecidableEq α] : DecidableEq (EStateM.Result ε σ α)
  | .ok a s, .ok b t => decidable_of_iff (a = b ∧ s = t) (by simp)
  | .error e s, .error f t => decidable_of_iff (e = f ∧ s = t) (by simp)
  | .ok _ _, .error _ _ => isFalse (by simp)
  | .error _ _, .ok _ _ => isFalse (by simp)

namespace EStateM

variable {ε σ α β : Type}

/-- A bind succeeds iff its first computation does and the continuation then does. -/
lemma bind_eq_ok {x : EStateM ε σ α} {f : α → EStateM ε σ β} {s s' : σ} {b : β} :
    (x >>= f) s = .ok b s' ↔ ∃ a s₁, x s = .ok a s₁ ∧ f a s₁ = .ok b s' := by
  show EStateM.bind x f s = _ ↔ _
  unfold EStateM.bind
  cases h : x s with
  | ok a s₁ => simp
  | error e s₁ => simp

/-- A bind runs its continuation on the state its first computation ends in. -/
@[simp] lemma bind_apply (x : EStateM ε σ α) (f : α → EStateM ε σ β) (s : σ) :
    (x >>= f) s = match x s with
      | .ok a s' => f a s'
      | .error e s' => .error e s' := rfl

@[simp] lemma pure_apply (a : α) (s : σ) : (pure a : EStateM ε σ α) s = .ok a s := rfl

@[simp] lemma throw_apply (e : ε) (s : σ) : (throw e : EStateM ε σ α) s = .error e s := rfl

@[simp] lemma get_apply (s : σ) : (get : EStateM ε σ σ) s = .ok s s := rfl

@[simp] lemma set_apply (s s' : σ) : (set s' : EStateM ε σ PUnit) s = .ok ⟨⟩ s' := rfl

@[simp] lemma modify_apply (f : σ → σ) (s : σ) :
    (modify f : EStateM ε σ PUnit) s = .ok ⟨⟩ (f s) := rfl

@[simp] lemma modifyGet_apply (f : σ → α × σ) (s : σ) :
    (modifyGet f : EStateM ε σ α) s = .ok (f s).1 (f s).2 := rfl

/-- Mapping a result over a computation keeps its final state. -/
@[simp] lemma map_apply (g : α → β) (x : EStateM ε σ α) (s : σ) :
    (g <$> x) s = match x s with
      | .ok a s' => .ok (g a) s'
      | .error e s' => .error e s' := by
  show EStateM.map g x s = _
  unfold EStateM.map
  cases x s <;> rfl

end EStateM

namespace EStateM.Result

variable {ε σ α : Type}

/-- The state a computation ends in, whether it returned or failed. -/
def state : EStateM.Result ε σ α → σ
  | .ok _ s => s
  | .error _ s => s

@[simp] lemma state_ok (a : α) (s : σ) : (EStateM.Result.ok a s : EStateM.Result ε σ α).state = s :=
  rfl

@[simp] lemma state_error (e : ε) (s : σ) :
    (EStateM.Result.error e s : EStateM.Result ε σ α).state = s := rfl

/-- The error a computation failed with, if it failed. -/
def error? : EStateM.Result ε σ α → Option ε
  | .ok _ _ => none
  | .error e _ => some e

/-- The value a computation returned, if it returned. -/
def ok? : EStateM.Result ε σ α → Option α
  | .ok a _ => some a
  | .error _ _ => none

lemma eq_error_of_error? {r : EStateM.Result ε σ α} {e : ε} (h : r.error? = some e) :
    r = .error e r.state := by
  cases r with
  | ok a s => cases h
  | error e' s => cases h; rfl

lemma eq_ok_of_ok? {r : EStateM.Result ε σ α} {a : α} (h : r.ok? = some a) :
    r = .ok a r.state := by
  cases r with
  | ok a' s => cases h; rfl
  | error e s => cases h

end EStateM.Result

namespace Except

variable {ε α β : Type}

@[simp] lemma ok_bind (a : α) (f : α → Except ε β) : (Except.ok a >>= f) = f a := rfl

@[simp] lemma error_bind (e : ε) (f : α → Except ε β) : (Except.error e >>= f) = .error e := rfl

lemma throw_eq_error (e : ε) : (throw e : Except ε α) = .error e := rfl

lemma pure_eq_ok (a : α) : (pure a : Except ε α) = .ok a := rfl

end Except
