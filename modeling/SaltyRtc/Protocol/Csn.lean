import SaltyRtc.Lib.Checked
import SaltyRtc.Errors

/-!
# Combined sequence numbers

Port of `src/protocol/csn.rs`: the 48-bit combined sequence number (CSN) of a nonce, made of a
16-bit overflow number and a 32-bit sequence number. `CombinedSequence` is the outgoing counter a
client keeps per peer; `CombinedSequenceSnapshot` is the immutable value carried in a nonce.

Snapshots are ordered by their combined number (`impl Ord`), while their equality is the derived,
field-wise one. `increment` carries from the sequence into the overflow number and fails, leaving
the counter unchanged, when the overflow number would overflow.
-/

namespace SaltyRtc

/-- The outgoing combined sequence of a client towards one peer. -/
structure CombinedSequence where
  overflow : UInt16
  sequence : UInt32
  deriving DecidableEq, Repr

/-- An immutable snapshot of a `CombinedSequence`, as carried in a nonce. -/
structure CombinedSequenceSnapshot where
  overflow : UInt16
  sequence : UInt32
  deriving DecidableEq, Repr

namespace CombinedSequence

/-- `CombinedSequence::random`: overflow number 0 and a random sequence number (the four random
bytes, read big-endian, give every `u32`). -/
def random (sequence : UInt32) : CombinedSequence := ⟨0, sequence⟩

/-- `combined_sequence_number`: `(overflow << 32) + sequence` as a `u64`. -/
def combinedSequenceNumber (c : CombinedSequence) : UInt64 :=
  (c.overflow.toUInt64 <<< 32) + c.sequence.toUInt64

/-- `From<&CombinedSequence> for CombinedSequenceSnapshot`. -/
def snapshot (c : CombinedSequence) : CombinedSequenceSnapshot := ⟨c.overflow, c.sequence⟩

/-- `CombinedSequence::increment`: the next value and its snapshot, or `CsnOverflow` (the counter
is then left as it was). -/
def increment (c : CombinedSequence) :
    Except SignalingError (CombinedSequenceSnapshot × CombinedSequence) :=
  let next : Option CombinedSequence :=
    match c.sequence.checkedAdd 1 with
    | some incremented => some ⟨c.overflow, incremented⟩
    | none =>
      match c.overflow.checkedAdd 1 with
      | some incremented => some ⟨incremented, 0⟩
      | none => none
  match next with
  | some next => .ok (next.snapshot, next)
  | none => .error .csnOverflow

end CombinedSequence

namespace CombinedSequenceSnapshot

/-- `combined_sequence_number`: `(overflow << 32) + sequence` as a `u64`. -/
def combinedSequenceNumber (c : CombinedSequenceSnapshot) : UInt64 :=
  (c.overflow.toUInt64 <<< 32) + c.sequence.toUInt64

/-- `impl Ord for CombinedSequenceSnapshot`: comparison of the combined numbers. -/
instance : LT CombinedSequenceSnapshot := ⟨fun a b => a.combinedSequenceNumber < b.combinedSequenceNumber⟩

instance (a b : CombinedSequenceSnapshot) : Decidable (a < b) :=
  inferInstanceAs (Decidable (a.combinedSequenceNumber < b.combinedSequenceNumber))

end CombinedSequenceSnapshot

/-- Our outgoing sequence towards a peer, and the last one received from it. -/
structure CombinedSequencePair where
  ours : CombinedSequence
  theirs : Option CombinedSequenceSnapshot
  deriving DecidableEq, Repr

/-- `CombinedSequencePair::new`, from the random sequence number drawn for it. -/
def CombinedSequencePair.new (sequence : UInt32) : CombinedSequencePair :=
  ⟨CombinedSequence.random sequence, none⟩

/-! ## The combined number as a natural -/

/-- The combined number is `overflow * 2^32 + sequence`, with no wrap-around. -/
@[simp] lemma CombinedSequence.toNat_combinedSequenceNumber (c : CombinedSequence) :
    c.combinedSequenceNumber.toNat = c.overflow.toNat * 2 ^ 32 + c.sequence.toNat := by
  have ho := c.overflow.toNat_lt
  have hs := c.sequence.toNat_lt
  simp [combinedSequenceNumber, UInt64.toNat_add, UInt64.toNat_shiftLeft, Nat.shiftLeft_eq]
  omega

/-- The combined number is `overflow * 2^32 + sequence`, with no wrap-around. -/
@[simp] lemma CombinedSequenceSnapshot.toNat_combinedSequenceNumber (c : CombinedSequenceSnapshot) :
    c.combinedSequenceNumber.toNat = c.overflow.toNat * 2 ^ 32 + c.sequence.toNat := by
  have ho := c.overflow.toNat_lt
  have hs := c.sequence.toNat_lt
  simp [combinedSequenceNumber, UInt64.toNat_add, UInt64.toNat_shiftLeft, Nat.shiftLeft_eq]
  omega

@[simp] lemma CombinedSequence.combinedSequenceNumber_snapshot (c : CombinedSequence) :
    c.snapshot.combinedSequenceNumber = c.combinedSequenceNumber := rfl

/-- Snapshots are equal iff their combined numbers are: the derived equality and the order of
`impl Ord` agree. -/
lemma CombinedSequenceSnapshot.eq_iff_combinedSequenceNumber {a b : CombinedSequenceSnapshot} :
    a = b ↔ a.combinedSequenceNumber.toNat = b.combinedSequenceNumber.toNat := by
  constructor
  · rintro rfl
    rfl
  · intro h
    rw [toNat_combinedSequenceNumber, toNat_combinedSequenceNumber] at h
    have hsa := a.sequence.toNat_lt
    have hsb := b.sequence.toNat_lt
    have ho : a.overflow.toNat = b.overflow.toNat := by omega
    have hs : a.sequence.toNat = b.sequence.toNat := by omega
    cases a
    cases b
    simp only [mk.injEq]
    exact ⟨UInt16.toNat_inj.mp ho, UInt32.toNat_inj.mp hs⟩

lemma CombinedSequenceSnapshot.lt_iff {a b : CombinedSequenceSnapshot} :
    a < b ↔ a.combinedSequenceNumber.toNat < b.combinedSequenceNumber.toNat :=
  UInt64.lt_iff_toNat_lt

@[simp] lemma CombinedSequenceSnapshot.lt_irrefl (a : CombinedSequenceSnapshot) : ¬ a < a := by
  rw [lt_iff]
  omega

lemma CombinedSequenceSnapshot.lt_asymm {a b : CombinedSequenceSnapshot} (h : a < b) : ¬ b < a := by
  rw [lt_iff] at h ⊢
  omega

/-- Two snapshots compare one way or the other, as `impl Ord` says. -/
lemma CombinedSequenceSnapshot.lt_trichotomy (a b : CombinedSequenceSnapshot) :
    a < b ∨ a = b ∨ b < a := by
  rw [lt_iff, lt_iff, eq_iff_combinedSequenceNumber]
  omega

/-! ## Incrementing -/

namespace CombinedSequence

/-- A counter is determined by the values of its two parts. -/
lemma eq_mk_of_toNat {c : CombinedSequence} {o : UInt16} {q : UInt32} (ho : c.overflow.toNat = o.toNat)
    (hq : c.sequence.toNat = q.toNat) : c = ⟨o, q⟩ := by
  cases c
  simp only [mk.injEq]
  exact ⟨UInt16.toNat_inj.mp ho, UInt32.toNat_inj.mp hq⟩

/-- `increment` succeeds exactly below the largest 48-bit value, and then adds one to the
combined number and returns the snapshot of the new counter. -/
lemma increment_eq_ok {c c' : CombinedSequence} {snap : CombinedSequenceSnapshot} :
    c.increment = .ok (snap, c') ↔
      c.combinedSequenceNumber.toNat + 1 < 2 ^ 48 ∧
        c'.combinedSequenceNumber.toNat = c.combinedSequenceNumber.toNat + 1 ∧
        snap = c'.snapshot := by
  have ho := c.overflow.toNat_lt
  have hs := c.sequence.toNat_lt
  have ho' := c'.overflow.toNat_lt
  have hs' := c'.sequence.toNat_lt
  simp only [toNat_combinedSequenceNumber]
  unfold increment
  cases hseq : c.sequence.checkedAdd 1 with
  | some inc =>
    -- no carry: the sequence number steps by one
    obtain ⟨hlt, hinc⟩ := UInt32.checkedAdd_eq_some.mp hseq
    simp only [UInt32.toNat_one, UInt32.size] at hlt hinc
    simp only [Except.ok.injEq, Prod.mk.injEq]
    constructor
    · rintro ⟨rfl, rfl⟩
      simp only [hinc]
      exact ⟨by omega, by omega, by simp⟩
    · rintro ⟨-, hc', rfl⟩
      have hs'' : c'.sequence.toNat = inc.toNat := by omega
      have ho'' : c'.overflow.toNat = c.overflow.toNat := by omega
      rw [eq_mk_of_toNat ho'' hs'']
      exact ⟨rfl, rfl⟩
  | none =>
    -- the sequence number is at its maximum: carry into the overflow number
    have hmax := UInt32.checkedAdd_eq_none.mp hseq
    simp only [UInt32.toNat_one, UInt32.size] at hmax
    cases hov : c.overflow.checkedAdd 1 with
    | some inc =>
      obtain ⟨hlt, hinc⟩ := UInt16.checkedAdd_eq_some.mp hov
      simp only [UInt16.toNat_one, UInt16.size] at hlt hinc
      simp only [Except.ok.injEq, Prod.mk.injEq]
      constructor
      · rintro ⟨rfl, rfl⟩
        simp only [hinc, UInt32.toNat_zero]
        exact ⟨by omega, by omega, by simp⟩
      · rintro ⟨-, hc', rfl⟩
        have hs'' : c'.sequence.toNat = (0 : UInt32).toNat := by
          rw [UInt32.toNat_zero]
          omega
        have ho'' : c'.overflow.toNat = inc.toNat := by omega
        rw [eq_mk_of_toNat ho'' hs'']
        exact ⟨rfl, rfl⟩
    | none =>
      have hmax' := UInt16.checkedAdd_eq_none.mp hov
      simp only [UInt16.toNat_one, UInt16.size] at hmax'
      simp only [reduceCtorEq, false_iff, not_and]
      omega

/-- `increment` fails exactly at the largest 48-bit value. -/
lemma increment_eq_error {c : CombinedSequence} {e : SignalingError} :
    c.increment = .error e ↔ e = .csnOverflow ∧ c.combinedSequenceNumber.toNat + 1 = 2 ^ 48 := by
  have ho := c.overflow.toNat_lt
  have hs := c.sequence.toNat_lt
  simp only [toNat_combinedSequenceNumber]
  unfold increment
  cases hseq : c.sequence.checkedAdd 1 with
  | some inc =>
    obtain ⟨hlt, -⟩ := UInt32.checkedAdd_eq_some.mp hseq
    simp only [UInt32.toNat_one, UInt32.size] at hlt
    simp only [reduceCtorEq, false_iff, not_and]
    omega
  | none =>
    have hmax := UInt32.checkedAdd_eq_none.mp hseq
    simp only [UInt32.toNat_one, UInt32.size] at hmax
    cases hov : c.overflow.checkedAdd 1 with
    | some inc =>
      obtain ⟨hlt, -⟩ := UInt16.checkedAdd_eq_some.mp hov
      simp only [UInt16.toNat_one] at hlt
      simp only [reduceCtorEq, false_iff, not_and]
      simp only [UInt16.size] at hlt
      omega
    | none =>
      have hmax' := UInt16.checkedAdd_eq_none.mp hov
      simp only [UInt16.toNat_one, UInt16.size] at hmax'
      simp only [Except.error.injEq]
      constructor
      · rintro rfl
        exact ⟨rfl, by omega⟩
      · rintro ⟨rfl, -⟩
        rfl

/-- A counter below its last value can be incremented. -/
lemma increment_isOk {c : CombinedSequence}
    (h : c.combinedSequenceNumber.toNat + 1 < 2 ^ 48) : ∃ csn ours, c.increment = .ok (csn, ours) := by
  cases hinc : c.increment with
  | error e =>
    have := (increment_eq_error.mp hinc).2
    omega
  | ok r => exact ⟨r.1, r.2, rfl⟩

/-- The combined number of a counter has 48 bits. -/
lemma combinedSequenceNumber_lt (c : CombinedSequence) : c.combinedSequenceNumber.toNat < 2 ^ 48 := by
  have ho := c.overflow.toNat_lt
  have hs := c.sequence.toNat_lt
  rw [toNat_combinedSequenceNumber]
  omega

end CombinedSequence

namespace CombinedSequenceSnapshot

/-- The order of `impl Ord` is the lexicographic order of `(overflow, sequence)`. -/
lemma lt_iff_lex {a b : CombinedSequenceSnapshot} :
    a < b ↔ a.overflow < b.overflow ∨ a.overflow = b.overflow ∧ a.sequence < b.sequence := by
  have hsa := a.sequence.toNat_lt
  have hsb := b.sequence.toNat_lt
  rw [lt_iff, toNat_combinedSequenceNumber, toNat_combinedSequenceNumber, UInt16.lt_iff_toNat_lt,
    UInt32.lt_iff_toNat_lt, ← UInt16.toNat_inj]
  omega

/-- Snapshots with the same combined number are equal field by field. -/
lemma combinedSequenceNumber_inj {a b : CombinedSequenceSnapshot} :
    a.combinedSequenceNumber = b.combinedSequenceNumber ↔ a.overflow = b.overflow ∧ a.sequence = b.sequence := by
  rw [← UInt64.toNat_inj, ← eq_iff_combinedSequenceNumber]
  constructor
  · rintro rfl
    exact ⟨rfl, rfl⟩
  · obtain ⟨o, q⟩ := a
    obtain ⟨o', q'⟩ := b
    rintro ⟨rfl, rfl⟩
    rfl

end CombinedSequenceSnapshot

/-- CSN arithmetic: the combined number of a counter is `overflow * 2^32 + sequence`, below
`2^48`; `increment` succeeds exactly below the largest value, and then the new counter, and the
snapshot returned, hold the next combined number; it fails only with `CsnOverflow`, at the largest
value, where no new counter replaces the old one; snapshots compare as their pairs
`(overflow, sequence)` do lexicographically, and have the same combined number exactly when the
pairs are equal, which is the derived equality. -/
theorem csn_arithmetic :
    (∀ c : CombinedSequence,
      c.combinedSequenceNumber.toNat = c.overflow.toNat * 2 ^ 32 + c.sequence.toNat ∧
        c.combinedSequenceNumber.toNat < 2 ^ 48) ∧
    (∀ c : CombinedSequence,
      (∃ snap c', c.increment = .ok (snap, c')) ↔ c.combinedSequenceNumber.toNat < 2 ^ 48 - 1) ∧
    (∀ (c c' : CombinedSequence) snap, c.increment = .ok (snap, c') →
      snap.combinedSequenceNumber.toNat = c.combinedSequenceNumber.toNat + 1 ∧
        c'.combinedSequenceNumber.toNat = c.combinedSequenceNumber.toNat + 1 ∧ snap = c'.snapshot) ∧
    (∀ (c : CombinedSequence) e, c.increment = .error e →
      e = .csnOverflow ∧ c.combinedSequenceNumber.toNat = 2 ^ 48 - 1) ∧
    (∀ a b : CombinedSequenceSnapshot,
      (a < b ↔ a.overflow < b.overflow ∨ a.overflow = b.overflow ∧ a.sequence < b.sequence) ∧
      (a.combinedSequenceNumber = b.combinedSequenceNumber ↔
        a.overflow = b.overflow ∧ a.sequence = b.sequence) ∧
      (a = b ↔ a.overflow = b.overflow ∧ a.sequence = b.sequence)) := by
  refine ⟨fun c => ⟨c.toNat_combinedSequenceNumber, c.combinedSequenceNumber_lt⟩, ?_, ?_, ?_, ?_⟩
  · intro c
    constructor
    · rintro ⟨snap, c', h⟩
      have := (CombinedSequence.increment_eq_ok.mp h).1
      omega
    · intro h
      exact CombinedSequence.increment_isOk (by omega)
  · intro c c' snap h
    obtain ⟨-, hc', rfl⟩ := CombinedSequence.increment_eq_ok.mp h
    exact ⟨hc', hc', rfl⟩
  · intro c e h
    obtain ⟨rfl, hmax⟩ := CombinedSequence.increment_eq_error.mp h
    exact ⟨rfl, by omega⟩
  · intro a b
    refine ⟨CombinedSequenceSnapshot.lt_iff_lex, CombinedSequenceSnapshot.combinedSequenceNumber_inj, ?_⟩
    rw [← CombinedSequenceSnapshot.combinedSequenceNumber_inj, ← UInt64.toNat_inj]
    exact CombinedSequenceSnapshot.eq_iff_combinedSequenceNumber

end SaltyRtc
