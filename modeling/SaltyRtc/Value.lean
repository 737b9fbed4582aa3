import Mathlib

/-!
# MessagePack values

A model of `rmpv::Value`, the dynamically typed MessagePack value in which task messages and
task data travel. Floats are kept as their IEEE bit patterns, so that equality is the equality of
what is on the wire. A string is either valid UTF-8 or the raw bytes of an invalid one, as in
`rmpv::Utf8String`.

`DecidableEq` is written by hand: the derive handler does not accept the nested `List (Value ×
Value)` of maps.
-/

namespace SaltyRtc

/-- `rmpv::Utf8String`: a string that may hold invalid UTF-8. -/
inductive Utf8String where
  | valid (s : String)
  | invalid (bytes : List UInt8)
  deriving DecidableEq, Repr

/-- `rmpv::Value`. -/
inductive Value where
  | nil
  | boolean (b : Bool)
  /-- A MessagePack integer, in the range of `i64` or `u64`. -/
  | integer (i : Int)
  | f32 (bits : UInt32)
  | f64 (bits : UInt64)
  | string (s : Utf8String)
  | binary (bytes : List UInt8)
  | array (items : List Value)
  | map (entries : List (Value × Value))
  | ext (tag : Int8) (bytes : List UInt8)
  deriving Repr

namespace Value

mutual

/-- Decidable equality of values. -/
def decEq : (a b : Value) → Decidable (a = b)
  | .nil, .nil => isTrue rfl
  | .boolean x, .boolean y =>
    if h : x = y then isTrue (h ▸ rfl) else isFalse (fun e => by cases e; exact h rfl)
  | .integer x, .integer y =>
    if h : x = y then isTrue (h ▸ rfl) else isFalse (fun e => by cases e; exact h rfl)
  | .f32 x, .f32 y =>
    if h : x = y then isTrue (h ▸ rfl) else isFalse (fun e => by cases e; exact h rfl)
  | .f64 x, .f64 y =>
    if h : x = y then isTrue (h ▸ rfl) else isFalse (fun e => by cases e; exact h rfl)
  | .string x, .string y =>
    if h : x = y then isTrue (h ▸ rfl) else isFalse (fun e => by cases e; exact h rfl)
  | .binary x, .binary y =>
    if h : x = y then isTrue (h ▸ rfl) else isFalse (fun e => by cases e; exact h rfl)
  | .array xs, .array ys =>
    match decEqList xs ys with
    | isTrue h => isTrue (h ▸ rfl)
    | isFalse h => isFalse (fun e => by cases e; exact h rfl)
  | .map xs, .map ys =>
    match decEqPairs xs ys with
    | isTrue h => isTrue (h ▸ rfl)
    | isFalse h => isFalse (fun e => by cases e; exact h rfl)
  | .ext t x, .ext u y =>
    if h : t = u ∧ x = y then isTrue (h.1 ▸ h.2 ▸ rfl)
    else isFalse (fun e => by cases e; exact h ⟨rfl, rfl⟩)
  | .nil, .boolean _ | .nil, .integer _ | .nil, .f32 _ | .nil, .f64 _ | .nil, .string _
  | .nil, .binary _ | .nil, .array _ | .nil, .map _ | .nil, .ext _ _
  | .boolean _, .nil | .boolean _, .integer _ | .boolean _, .f32 _ | .boolean _, .f64 _
  | .boolean _, .string _ | .boolean _, .binary _ | .boolean _, .array _ | .boolean _, .map _
  | .boolean _, .ext _ _
  | .integer _, .nil | .integer _, .boolean _ | .integer _, .f32 _ | .integer _, .f64 _
  | .integer _, .string _ | .integer _, .binary _ | .integer _, .array _ | .integer _, .map _
  | .integer _, .ext _ _
  | .f32 _, .nil | .f32 _, .boolean _ | .f32 _, .integer _ | .f32 _, .f64 _ | .f32 _, .string _
  | .f32 _, .binary _ | .f32 _, .array _ | .f32 _, .map _ | .f32 _, .ext _ _
  | .f64 _, .nil | .f64 _, .boolean _ | .f64 _, .integer _ | .f64 _, .f32 _ | .f64 _, .string _
  | .f64 _, .binary _ | .f64 _, .array _ | .f64 _, .map _ | .f64 _, .ext _ _
  | .string _, .nil | .string _, .boolean _ | .string _, .integer _ | .string _, .f32 _
  | .string _, .f64 _ | .string _, .binary _ | .string _, .array _ | .string _, .map _
  | .string _, .ext _ _
  | .binary _, .nil | .binary _, .boolean _ | .binary _, .integer _ | .binary _, .f32 _
  | .binary _, .f64 _ | .binary _, .string _ | .binary _, .array _ | .binary _, .map _
  | .binary _, .ext _ _
  | .array _, .nil | .array _, .boolean _ | .array _, .integer _ | .array _, .f32 _
  | .array _, .f64 _ | .array _, .string _ | .array _, .binary _ | .array _, .map _
  | .array _, .ext _ _
  | .map _, .nil | .map _, .boolean _ | .map _, .integer _ | .map _, .f32 _ | .map _, .f64 _
  | .map _, .string _ | .map _, .binary _ | .map _, .array _ | .map _, .ext _ _
  | .ext _ _, .nil | .ext _ _, .boolean _ | .ext _ _, .integer _ | .ext _ _, .f32 _
  | .ext _ _, .f64 _ | .ext _ _, .string _ | .ext _ _, .binary _ | .ext _ _, .array _
  | .ext _ _, .map _ => isFalse (fun e => by cases e)

/-- Decidable equality of lists of values. -/
def decEqList : (a b : List Value) → Decidable (a = b)
  | [], [] => isTrue rfl
  | x :: xs, y :: ys =>
    match decEq x y, decEqList xs ys with
    | isTrue h1, isTrue h2 => isTrue (h1 ▸ h2 ▸ rfl)
    | isFalse h1, _ => isFalse (fun e => by cases e; exact h1 rfl)
    | _, isFalse h2 => isFalse (fun e => by cases e; exact h2 rfl)
  | [], _ :: _ | _ :: _, [] => isFalse (fun e => by cases e)

/-- Decidable equality of lists of key-value pairs. -/
def decEqPairs : (a b : List (Value × Value)) → Decidable (a = b)
  | [], [] => isTrue rfl
  | (k, v) :: xs, (k', v') :: ys =>
    match decEq k k', decEq v v', decEqPairs xs ys with
    | isTrue h1, isTrue h2, isTrue h3 => isTrue (h1 ▸ h2 ▸ h3 ▸ rfl)
    | isFalse h1, _, _ => isFalse (fun e => by cases e; exact h1 rfl)
    | _, isFalse h2, _ => isFalse (fun e => by cases e; exact h2 rfl)
    | _, _, isFalse h3 => isFalse (fun e => by cases e; exact h3 rfl)
  | [], _ :: _ | _ :: _, [] => isFalse (fun e => by cases e)

end

instance : DecidableEq Value := decEq

/-- `Value::as_str`: the string, if this is a valid UTF-8 string. -/
def asStr : Value → Option String
  | .string (.valid s) => some s
  | _ => none

/-- `Value::as_u64`: the integer, if it is non-negative and fits a `u64`. -/
def asU64 : Value → Option UInt64
  | .integer i => if 0 ≤ i ∧ i < 2 ^ 64 then some (UInt64.ofNat i.toNat) else none
  | _ => none

/-- `Value::from(String)`. -/
def ofString (s : String) : Value := .string (.valid s)

@[simp] lemma asStr_ofString (s : String) : (ofString s).asStr = some s := rfl

end Value

/-- A `HashMap<String, Value>`, as task data and task messages carry it. The order of the entries
stands for the unspecified iteration order of the map. -/
abbrev ValueMap := AList (fun _ : String => Value)

end SaltyRtc
