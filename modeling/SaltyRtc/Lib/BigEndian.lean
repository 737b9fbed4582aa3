import Mathlib

/-!
# Big-endian byte layout

The `byteorder::BigEndian` operations on `u16` and `u32`: `writeU16`/`writeU32` give the bytes a
value occupies (most significant first) and `readU16`/`readU32` read them back from the front of a
buffer, failing where the source panics on a buffer that is too short.

Both directions are stated through `toNat`, so that the round trips below reduce to `omega` on
division and remainder by powers of 256.
-/

namespace BigEndian

/-- The two bytes of a `u16`, most significant first (`BigEndian::write_u16`). -/
def writeU16 (n : UInt16) : List UInt8 :=
  [UInt8.ofNat (n.toNat / 256), UInt8.ofNat n.toNat]

/-- The four bytes of a `u32`, most significant first (`BigEndian::write_u32`). -/
def writeU32 (n : UInt32) : List UInt8 :=
  [UInt8.ofNat (n.toNat / 2 ^ 24), UInt8.ofNat (n.toNat / 2 ^ 16),
    UInt8.ofNat (n.toNat / 2 ^ 8), UInt8.ofNat n.toNat]

/-- `BigEndian::read_u16`: the first two bytes of a buffer; `none` where the source panics. -/
def readU16 : List UInt8 → Option UInt16
  | b0 :: b1 :: _ => some (UInt16.ofNat (b0.toNat * 256 + b1.toNat))
  | _ => none

/-- `BigEndian::read_u32`: the first four bytes of a buffer; `none` where the source panics. -/
def readU32 : List UInt8 → Option UInt32
  | b0 :: b1 :: b2 :: b3 :: _ =>
    some (UInt32.ofNat (b0.toNat * 2 ^ 24 + b1.toNat * 2 ^ 16 + b2.toNat * 2 ^ 8 + b3.toNat))
  | _ => none

@[simp] lemma length_writeU16 (n : UInt16) : (writeU16 n).length = 2 := rfl

@[simp] lemma length_writeU32 (n : UInt32) : (writeU32 n).length = 4 := rfl

/-- Reading back what was written gives the value, whatever follows it. -/
@[simp] lemma readU16_writeU16 (n : UInt16) (rest : List UInt8) :
    readU16 (writeU16 n ++ rest) = some n := by
  have hn := n.toNat_lt
  simp only [writeU16, List.cons_append, List.nil_append, readU16, Option.some.injEq]
  apply UInt16.toNat_inj.mp
  simp only [UInt16.toNat_ofNat', UInt8.toNat_ofNat']
  omega

/-- Reading back what was written gives the value, whatever follows it. -/
@[simp] lemma readU32_writeU32 (n : UInt32) (rest : List UInt8) :
    readU32 (writeU32 n ++ rest) = some n := by
  have hn := n.toNat_lt
  simp only [writeU32, List.cons_append, List.nil_append, readU32, Option.some.injEq]
  apply UInt32.toNat_inj.mp
  simp only [UInt32.toNat_ofNat', UInt8.toNat_ofNat']
  omega

@[simp] lemma readU16_writeU16' (n : UInt16) : readU16 (writeU16 n) = some n := by
  simpa using readU16_writeU16 n []

@[simp] lemma readU32_writeU32' (n : UInt32) : readU32 (writeU32 n) = some n := by
  simpa using readU32_writeU32 n []

/-- Two bytes are the layout of the value read from them. -/
lemma writeU16_readU16 (b0 b1 : UInt8) (rest : List UInt8) :
    (readU16 (b0 :: b1 :: rest)).map writeU16 = some [b0, b1] := by
  have h0 := b0.toNat_lt
  have h1 := b1.toNat_lt
  simp only [readU16, Option.map_some, writeU16, Option.some.injEq, List.cons.injEq, and_true]
  constructor <;> apply UInt8.toNat_inj.mp <;> simp only [UInt16.toNat_ofNat', UInt8.toNat_ofNat'] <;>
    omega

/-- Four bytes are the layout of the value read from them. -/
lemma writeU32_readU32 (b0 b1 b2 b3 : UInt8) (rest : List UInt8) :
    (readU32 (b0 :: b1 :: b2 :: b3 :: rest)).map writeU32 = some [b0, b1, b2, b3] := by
  have h0 := b0.toNat_lt
  have h1 := b1.toNat_lt
  have h2 := b2.toNat_lt
  have h3 := b3.toNat_lt
  simp only [readU32, Option.map_some, writeU32, Option.some.injEq, List.cons.injEq, and_true]
  refine ⟨?_, ?_, ?_, ?_⟩ <;> apply UInt8.toNat_inj.mp <;>
    simp only [UInt32.toNat_ofNat', UInt8.toNat_ofNat'] <;> omega

end BigEndian
