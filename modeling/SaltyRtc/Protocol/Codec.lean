import Mathlib
import SaltyRtc.Lib.AList
import SaltyRtc.Boxes

/-!
# The message codec

`Message::to_msgpack` and `Message::from_msgpack` (`src/protocol/messages.rs`) go through serde:
the derived `Serialize` and `Deserialize` of the messages, with the attributes of the source
(`#[serde(tag = "type")]`, the `rename` of each variant, `skip_serializing_if` on the optional
fields), and the hand-written impls of `Cookie` (`src/protocol/cookie.rs`), `Address`
(`src/protocol/types.rs`), `SendErrorId` (`src/protocol/send_error.rs`) and `SignedKeys`
(`src/crypto_types.rs`). The serde data model is taken to be the MessagePack value `Value` that
`rmp_serde` writes: bytes as binary, integers as integers, a `None` as nil (or left out, where
skipped), structs and `HashMap`s as maps with string keys.

`Message.serialize` writes the internally tagged map: the `type` entry first, then the fields of
the variant's struct in their order of declaration. `Message.deserialize` reads it back the way
serde's derive does: the `type` entry, which must come once, picks the variant; the other entries
are the struct's fields, named by their string keys; an entry that names no field is ignored, a
missing `Option` field is `None`, a missing field of another type and a repeated field are
errors. A decoded `HashMap` keeps its keys in the order they first came (the iteration order of a
`HashMap` is not specified), and a repeated key its last value.

What stands for code outside the repository: `rmp_serde` itself (`Rmp`, assumed to read back the
value it wrote), the serde impl of `rust_sodium`'s `PublicKey` (`KeySerde`, assumed to read back
the key it wrote), and the task data values of an `auth` message, which pass through unchanged.
Last, the codec built on them meets the assumption the task agreement makes, that it reads back
each message (the task channel's assumption is met in its own module).
-/

namespace SaltyRtc

/-! ## Writing -/

namespace Serde

/-- A struct field as `to_vec_named` writes it: its name, and its value. -/
def field (name : String) (v : Value) : Value × Value := (.ofString name, v)

/-- A field with `skip_serializing_if = "Option::is_none"`: left out when it is `None`. -/
def optionalField {α : Type} (name : String) (f : α → Value) : Option α → List (Value × Value)
  | none => []
  | some a => [field name (f a)]

/-- A `HashMap<String, _>`: a map with string keys, in the iteration order of the map. -/
def mapValue {β : Type} (f : β → Value) (m : AList fun _ : String => β) : Value :=
  .map (m.entries.map fun e => (.ofString e.1, f e.2))

/-- A `Vec`. -/
def seqValue {α : Type} (f : α → Value) (l : List α) : Value := .array (l.map f)

end Serde

/-- `impl Serialize for Cookie`: its 16 bytes. -/
def Cookie.serialize (c : Cookie) : Value := .binary c.bytes

/-- `impl Serialize for Address`: a `u8`. -/
def Address.serialize (a : Address) : Value := .integer a.val.toNat

/-- `impl Serialize for SendErrorId`: the 8 bytes of `as_bytes`. -/
def SendErrorId.serialize (id : SendErrorId) : Value := .binary id.asBytes

/-- `impl Serialize for SignedKeys`: its 80 bytes. -/
def SignedKeys.serialize (sk : SignedKeys) : Value := .binary sk.bytes

/-- The serde impl of `rust_sodium`'s `PublicKey`, which stands outside the repository: the value
a key is written as, and the key read back from a value. -/
structure KeySerde where
  serialize : PublicKey → Value
  deserialize : Value → Except String PublicKey

/-- What the codec assumes of that impl: a key is read back from what it is written as, which is
not nil (a nil `your_key` is read as a missing one). -/
structure KeySerde.RoundTrips (ks : KeySerde) : Prop where
  deserialize_serialize : ∀ k, ks.deserialize (ks.serialize k) = .ok k
  serialize_ne_nil : ∀ k, ks.serialize k ≠ .nil

/-- The task data of an `auth` message: `None` is nil, a map a map of values. -/
def AuthData.serialize (data : AuthData) : Value :=
  Serde.mapValue (fun d => match d with
    | none => .nil
    | some m => Serde.mapValue id m) data

open Serde in
/-- The fields of the struct of a message, in their order of declaration. -/
def Message.fields (ks : KeySerde) : Message → List (Value × Value)
  | .clientHello msg => [field "key" (ks.serialize msg.key)]
  | .serverHello msg => [field "key" (ks.serialize msg.key)]
  | .clientAuth msg =>
    [field "your_cookie" msg.yourCookie.serialize,
      field "subprotocols" (seqValue Value.ofString msg.subprotocols),
      field "ping_interval" (.integer msg.pingInterval.toNat)] ++
      optionalField "your_key" ks.serialize msg.yourKey
  | .serverAuth msg =>
    [field "your_cookie" msg.yourCookie.serialize] ++
      optionalField "signed_keys" SignedKeys.serialize msg.signedKeys ++
      optionalField "responders" (seqValue Address.serialize) msg.responders ++
      optionalField "initiator_connected" Value.boolean msg.initiatorConnected
  | .newInitiator => []
  | .newResponder msg => [field "id" msg.id.serialize]
  | .dropResponder msg =>
    [field "id" msg.id.serialize] ++ optionalField "reason" (fun r => .integer r.toNat) msg.reason
  | .sendError msg => [field "id" msg.id.serialize]
  | .disconnected msg => [field "id" msg.id.serialize]
  | .token msg => [field "key" (ks.serialize msg.key)]
  | .key msg => [field "key" (ks.serialize msg.key)]
  | .auth msg =>
    [field "your_cookie" msg.yourCookie.serialize] ++
      optionalField "tasks" (seqValue Value.ofString) msg.tasks ++
      optionalField "task" Value.ofString msg.task ++
      [field "data" msg.data.serialize]
  | .close msg => [field "reason" (.integer msg.reason.toNat)]

/-- The `#[serde(rename)]` of each variant, which the derive writes as the `type` entry. -/
def Message.serdeName : Message → String
  | .clientHello _ => "client-hello"
  | .serverHello _ => "server-hello"
  | .clientAuth _ => "client-auth"
  | .serverAuth _ => "server-auth"
  | .newInitiator => "new-initiator"
  | .newResponder _ => "new-responder"
  | .dropResponder _ => "drop-responder"
  | .sendError _ => "send-error"
  | .disconnected _ => "disconnected"
  | .token _ => "token"
  | .key _ => "key"
  | .auth _ => "auth"
  | .close _ => "close"

/-- The derived `Serialize` of the internally tagged `Message`: the tag, then the fields. -/
def Message.serialize (ks : KeySerde) (m : Message) : Value :=
  .map (Serde.field "type" (.ofString m.serdeName) :: m.fields ks)

/-! ## Reading -/

namespace Serde

/-- The value of the field `name` in the entries of a struct's map, if it is there; a field that
comes twice is an error. -/
def field? (name : String) : List (Value × Value) → Except String (Option Value)
  | [] => .ok none
  | (k, v) :: es =>
    if k = .ofString name then
      match field? name es with
      | .ok none => .ok (some v)
      | .ok (some _) => .error ("duplicate field " ++ name)
      | .error e => .error e
    else field? name es

/-- A field the struct cannot do without. -/
def required {α : Type} (es : List (Value × Value)) (name : String) (f : Value → Except String α) :
    Except String α := do
  match ← field? name es with
  | some v => f v
  | none => throw ("missing field " ++ name)

/-- An `Option` field: left out, or nil, it is `None`. -/
def optional {α : Type} (es : List (Value × Value)) (name : String) (f : Value → Except String α) :
    Except String (Option α) := do
  match ← field? name es with
  | none => return none
  | some .nil => return none
  | some v => some <$> f v

/-- A byte array of a fixed length `n`, read by `visit_bytes`. -/
def fixedBytes (n : Nat) (expecting : String) : Value → Except String {b : List UInt8 // b.length = n}
  | .binary b =>
    if h : b.length = n then .ok ⟨b, h⟩
    else .error ("invalid length " ++ toString b.length ++ ", expected " ++ expecting)
  | _ => .error ("invalid type, expected " ++ expecting)

/-- An unsigned integer below `bound`, as serde's primitive impls and `visit_u8` take it. -/
def integerBelow (bound : Nat) (expecting : String) : Value → Except String Nat
  | .integer i =>
    if 0 ≤ i ∧ i < bound then .ok i.toNat
    else .error ("invalid value: integer " ++ toString i ++ ", expected " ++ expecting)
  | _ => .error ("invalid type, expected " ++ expecting)

/-- A `String`. -/
def string : Value → Except String String
  | .string (.valid s) => .ok s
  | _ => .error "invalid type, expected a string"

/-- A `bool`. -/
def bool : Value → Except String Bool
  | .boolean b => .ok b
  | _ => .error "invalid type, expected a boolean"

/-- A `Vec`, every element read by `f`. -/
def seq {α : Type} (f : Value → Except String α) : Value → Except String (List α)
  | .array vs => vs.mapM f
  | _ => .error "invalid type, expected a sequence"

/-- The entries of a map read into a `HashMap<String, _>`, added to `m`: every key must be a
string; a repeated key keeps its last value. -/
def mapEntries {β : Type} (f : Value → Except String β) :
    List (Value × Value) → (AList fun _ : String => β) → Except String (AList fun _ : String => β)
  | [], m => .ok m
  | (k, v) :: es, m =>
    match k with
    | .string (.valid key) => do
      let b ← f v
      mapEntries f es (m.push key b)
    | _ => .error "invalid type, expected a string key"

/-- A `HashMap<String, _>`. -/
def map {β : Type} (f : Value → Except String β) : Value → Except String (AList fun _ : String => β)
  | .map es => mapEntries f es ∅
  | _ => .error "invalid type, expected a map"

end Serde

/-- `CookieVisitor`: 16 bytes. -/
def Cookie.deserialize (v : Value) : Except String Cookie := do
  let b ← Serde.fixedBytes 16 "16 bytes of binary data" v
  return ⟨b.1, b.2⟩

/-- `AddressVisitor`: a `u8`. -/
def Address.deserialize (v : Value) : Except String Address := do
  let n ← Serde.integerBelow 256 "an address byte" v
  return ⟨UInt8.ofNat n⟩

/-- `SignedKeysVisitor`: 80 bytes. -/
def SignedKeys.deserialize (v : Value) : Except String SignedKeys := do
  let b ← Serde.fixedBytes 80 "80 bytes of binary data" v
  return ⟨b.1, b.2⟩

/-- `SendErrorIdVisitor::visit_bytes`: the length, then `from_slice`, whose error becomes an
invalid value. `from_slice` does not panic on 8 bytes (`fromSlice_of_length`), so its panic
branch is not reached. -/
def SendErrorId.visitBytes (v : List UInt8) : Except String SendErrorId :=
  if v.length ≠ 8 then
    .error ("invalid length " ++ toString v.length ++ ", expected 8 bytes of binary data")
  else
    match SendErrorId.fromSlice v with
    | .ok id => .ok id
    | .error (.err e) => .error ("invalid value: " ++ e.display ++ ", expected 8 bytes of binary data")
    | .error (.panic m) => .error m

/-- `deserialize_bytes` with `SendErrorIdVisitor`. -/
def SendErrorId.deserialize : Value → Except String SendErrorId
  | .binary b => SendErrorId.visitBytes b
  | _ => .error "invalid type, expected 8 bytes of binary data"

/-- The task data of an `auth` message: nil is `None`, a map is a map of values. -/
def AuthData.deserialize : Value → Except String AuthData :=
  Serde.map fun v => match v with
    | .nil => .ok none
    | v => some <$> Serde.map .ok v

open Serde in
/-- The derived `Deserialize` of the struct of each variant, from the entries of the map other
than the tag. -/
def Message.deserializeFields (ks : KeySerde) (name : String) (es : List (Value × Value)) :
    Except String Message :=
  match name with
  | "client-hello" => do
    return .clientHello ⟨← required es "key" ks.deserialize⟩
  | "server-hello" => do
    return .serverHello ⟨← required es "key" ks.deserialize⟩
  | "client-auth" => do
    return .clientAuth ⟨← required es "your_cookie" Cookie.deserialize,
      ← required es "subprotocols" (seq string),
      UInt32.ofNat (← required es "ping_interval" (integerBelow (2 ^ 32) "u32")),
      ← optional es "your_key" ks.deserialize⟩
  | "server-auth" => do
    return .serverAuth ⟨← required es "your_cookie" Cookie.deserialize,
      ← optional es "signed_keys" SignedKeys.deserialize,
      ← optional es "responders" (seq Address.deserialize),
      ← optional es "initiator_connected" bool⟩
  -- a unit struct: serde reads it from an empty map only
  | "new-initiator" =>
    if es.isEmpty then .ok .newInitiator else .error "invalid type: map, expected unit struct"
  | "new-responder" => do
    return .newResponder ⟨← required es "id" Address.deserialize⟩
  | "drop-responder" => do
    return .dropResponder ⟨← required es "id" Address.deserialize,
      (← optional es "reason" (integerBelow (2 ^ 16) "u16")).map UInt16.ofNat⟩
  | "send-error" => do
    return .sendError ⟨← required es "id" SendErrorId.deserialize⟩
  | "disconnected" => do
    return .disconnected ⟨← required es "id" Address.deserialize⟩
  | "token" => do
    return .token ⟨← required es "key" ks.deserialize⟩
  | "key" => do
    return .key ⟨← required es "key" ks.deserialize⟩
  | "auth" => do
    return .auth ⟨← required es "your_cookie" Cookie.deserialize,
      ← optional es "tasks" (seq string),
      ← optional es "task" string,
      ← required es "data" AuthData.deserialize⟩
  | "close" => do
    return .close ⟨UInt16.ofNat (← required es "reason" (integerBelow (2 ^ 16) "u16"))⟩
  | name => .error ("unknown variant " ++ name)

/-- The derived `Deserialize` of the internally tagged `Message`: a map whose `type` entry, a
string, names the variant. -/
def Message.deserialize (ks : KeySerde) : Value → Except String Message
  | .map es => do
    match ← Serde.field? "type" es with
    | some (.string (.valid name)) =>
      Message.deserializeFields ks name (es.filter fun e => e.1 ≠ .ofString "type")
    | some _ => throw "invalid type, expected a variant name"
    | none => throw "missing field type"
  | _ => .error "invalid type, expected internally tagged enum Message"

/-! ## Reading back what was written -/

namespace Serde

variable {α : Type} {es : List (Value × Value)} {name : String}

@[simp] lemma ofString_inj {a b : String} : Value.ofString a = Value.ofString b ↔ a = b := by
  simp [Value.ofString]

/-- The fields of a struct whose names differ from `name` leave it to the rest. -/
lemma field?_cons_ne {k v : Value} (h : k ≠ .ofString name) :
    field? name ((k, v) :: es) = field? name es := by
  simp [field?, h]

/-- A field that comes once is found. -/
lemma field?_field {v : Value} (h : field? name es = .ok none) :
    field? name (field name v :: es) = .ok (some v) := by
  simp [field?, field, h]

/-- A field that was not written is absent. -/
lemma field?_eq_none (h : Value.ofString name ∉ es.map Prod.fst) : field? name es = .ok none := by
  induction es with
  | nil => rfl
  | cons e es ih =>
    rw [List.map_cons, List.mem_cons, not_or] at h
    rw [field?_cons_ne (Ne.symm h.1)]
    exact ih h.2

/-- In the entries of a struct, whose keys are distinct, a field is found with its value. -/
lemma field?_of_mem {v : Value} (hnd : (es.map Prod.fst).Nodup) (h : field name v ∈ es) :
    field? name es = .ok (some v) := by
  induction es with
  | nil => cases h
  | cons e es ih =>
    obtain ⟨k, w⟩ := e
    rw [List.map_cons, List.nodup_cons] at hnd
    rcases List.mem_cons.1 h with he | he
    · -- the field itself: its key comes nowhere else
      obtain ⟨rfl, rfl⟩ := Prod.mk.inj he
      exact field?_field (field?_eq_none hnd.1)
    · have hk : k ≠ .ofString name := fun hk => hnd.1 (List.mem_map.2 ⟨_, he, hk.symm⟩)
      rw [field?_cons_ne hk]
      exact ih hnd.2 he

/-- An optional field is found when it was written, and is absent when it was not. -/
lemma field?_of_optionalField {g : α → Value} {o : Option α} (hnd : (es.map Prod.fst).Nodup)
    (hsub : ∀ a, o = some a → field name (g a) ∈ es)
    (hout : o = none → Value.ofString name ∉ es.map Prod.fst) :
    field? name es = .ok (o.map g) := by
  rcases o with _ | a
  · exact field?_eq_none (hout rfl)
  · exact field?_of_mem hnd (hsub a rfl)

@[simp] lemma mem_optionalField {g : α → Value} {o : Option α} {e : Value × Value} :
    e ∈ optionalField name g o ↔ ∃ a ∈ o, field name (g a) = e := by
  rcases o with _ | a <;> simp [optionalField, eq_comm]

@[simp] lemma map_fst_optionalField {g : α → Value} {o : Option α} :
    (optionalField name g o).map Prod.fst = (o.map fun _ => Value.ofString name).toList := by
  rcases o with _ | a <;> rfl

lemma required_of_field? {f : Value → Except String α} {v : Value}
    (h : field? name es = .ok (some v)) : required es name f = f v := by
  simp only [required, h, Except.ok_bind]

/-- A struct of one field. -/
lemma required_single {f : Value → Except String α} {v : Value} :
    required [field name v] name f = f v :=
  required_of_field? (field?_field rfl)

/-- An `Option` field read back: `None` when absent, and the value otherwise, which is not nil. -/
lemma optional_of_field? {f : Value → Except String α} {g : α → Value} (o : Option α)
    (hfg : ∀ a ∈ o, f (g a) = .ok a) (hg : ∀ a, g a ≠ .nil) (h : field? name es = .ok (o.map g)) :
    Serde.optional es name f = .ok o := by
  rcases o with _ | a
  · simp only [Serde.optional, h, Option.map_none, Except.ok_bind]
    rfl
  · simp only [Serde.optional, h, Option.map_some, Except.ok_bind]
    split <;> rename_i hv
    · cases hv
    · exact absurd (Option.some.inj hv) (hg a)
    · rw [← Option.some.inj hv, hfg a rfl]
      rfl

/-- A sequence of values read back element by element. -/
lemma seq_seqValue {f : Value → Except String α} {g : α → Value}
    (hfg : ∀ a, f (g a) = .ok a) (l : List α) : seq f (seqValue g l) = .ok l := by
  induction l with
  | nil => rfl
  | cons a l ih =>
    simp only [seq, seqValue, List.map_cons, List.mapM_cons, hfg] at ih ⊢
    rw [ih]
    rfl

@[simp] lemma string_ofString (s : String) : string (.ofString s) = .ok s := rfl

lemma integerBelow_natCast {bound n : Nat} {expecting : String} (h : n < bound) :
    integerBelow bound expecting (.integer n) = .ok n := by
  simp [integerBelow, h]

/-- The entries of a map, read back into a `HashMap`, are pushed one after the other. -/
lemma mapEntries_map {β : Type} {f : Value → Except String β} {g : β → Value}
    (hfg : ∀ b, f (g b) = .ok b) :
    ∀ (l : List (Σ _ : String, β)) (m : AList fun _ : String => β),
      mapEntries f (l.map fun e => (.ofString e.1, g e.2)) m =
        .ok (l.foldl (fun t e => t.push e.1 e.2) m)
  | [], _ => rfl
  | ⟨k, b⟩ :: l, m => by
    simp only [List.map_cons, mapEntries, Value.ofString, hfg, List.foldl_cons, Except.ok_bind]
    exact mapEntries_map hfg l _

/-- A `HashMap` read back is the map written. -/
lemma map_mapValue {β : Type} {f : Value → Except String β} {g : β → Value}
    (hfg : ∀ b, f (g b) = .ok b) (m : AList fun _ : String => β) : map f (mapValue g m) = .ok m := by
  rw [mapValue, map, mapEntries_map hfg, AList.foldl_push_entries]

end Serde

/-! The leaf types, read back from what their `Serialize` writes. -/

lemma Cookie.deserialize_serialize (c : Cookie) : Cookie.deserialize c.serialize = .ok c := by
  simp [Cookie.deserialize, Cookie.serialize, Serde.fixedBytes, c.length_eq]

lemma SignedKeys.deserialize_serialize (sk : SignedKeys) :
    SignedKeys.deserialize sk.serialize = .ok sk := by
  simp [SignedKeys.deserialize, SignedKeys.serialize, Serde.fixedBytes, sk.length_eq]

lemma Address.deserialize_serialize (a : Address) : Address.deserialize a.serialize = .ok a := by
  have := a.val.toNat_lt
  simp [Address.deserialize, Address.serialize, Serde.integerBelow, this]

lemma SendErrorId.deserialize_serialize (id : SendErrorId) :
    SendErrorId.deserialize id.serialize = .ok id := by
  simp [SendErrorId.deserialize, SendErrorId.serialize, SendErrorId.visitBytes,
    SendErrorId.fromSlice_asBytes]

/-- `visit_bytes` reads every 8-byte slice, as the id it is the byte form of. -/
lemma SendErrorId.visitBytes_of_length {b : List UInt8} (hb : b.length = 8) :
    ∃ id, SendErrorId.visitBytes b = .ok id ∧ id.asBytes = b := by
  obtain ⟨id, hid, hbytes⟩ := SendErrorId.fromSlice_of_length hb
  exact ⟨id, by simp [SendErrorId.visitBytes, hb, hid], hbytes⟩

/-- Bytes 16 to 24 of a nonce are the byte form of the id made of its addresses and CSN. -/
lemma Nonce.sendErrorId_bytes (n : Nonce) :
    (n.intoBytes.drop 16).take 8 = (SendErrorId.mk n.source n.destination n.csn).asBytes := by
  have hc := n.cookie.length_eq
  rw [Nonce.intoBytes, List.append_assoc, List.append_assoc, List.drop_left' hc,
    List.take_of_length_le (by simp)]
  simp [SendErrorId.asBytes]

theorem send_error_id_codec :
    (∀ id : SendErrorId, SendErrorId.fromSlice id.asBytes = .ok id) ∧
    (∀ b : List UInt8, b.length = 8 → ∃ id, SendErrorId.fromSlice b = .ok id ∧ id.asBytes = b) ∧
    (∀ b : List UInt8, (∃ e, SendErrorId.fromSlice b = .error (.err e)) ↔ b.length ≠ 8) ∧
    (∀ b : List UInt8, (∃ e, SendErrorId.visitBytes b = .error e) ↔ b.length ≠ 8) ∧
    (∀ n : Nonce, SendErrorId.fromSlice ((n.intoBytes.drop 16).take 8) =
      .ok ⟨n.source, n.destination, n.csn⟩) := by
  refine ⟨SendErrorId.fromSlice_asBytes, fun b hb => SendErrorId.fromSlice_of_length hb,
    fun b => ⟨?_, fun hb => ⟨_, SendErrorId.fromSlice_of_length_ne hb⟩⟩,
    fun b => ⟨?_, fun hb => ⟨_, if_pos hb⟩⟩, fun n => ?_⟩
  · -- an 8-byte slice parses, so an error means another length
    rintro ⟨e, he⟩ hb
    obtain ⟨id, hid, -⟩ := SendErrorId.fromSlice_of_length hb
    rw [hid] at he
    cases he
  · rintro ⟨e, he⟩ hb
    obtain ⟨id, hid, -⟩ := SendErrorId.visitBytes_of_length hb
    rw [hid] at he
    cases he
  · rw [Nonce.sendErrorId_bytes]
    exact SendErrorId.fromSlice_asBytes _

lemma AuthData.deserialize_serialize (data : AuthData) :
    AuthData.deserialize data.serialize = .ok data := by
  refine Serde.map_mapValue (fun d => ?_) data
  rcases d with _ | m
  · rfl
  · -- a map of values is read back by the identity on values
    have hm := Serde.map_mapValue (f := Except.ok) (g := id) (fun _ => rfl) m
    simp only [Serde.mapValue, id] at hm
    simp [Serde.mapValue, hm]

namespace Message

open Serde

variable (ks : KeySerde)

/-- No field of a message is named `type`. -/
lemma type_notMem_fields (m : Message) : Value.ofString "type" ∉ (m.fields ks).map Prod.fst := by
  cases m <;> simp [fields, field]

/-- The fields of a message have distinct names. -/
lemma fields_keys_nodup (m : Message) : ((m.fields ks).map Prod.fst).Nodup := by
  -- the optional fields, present or not, are split so that the names are a list of literals
  cases m
  case clientAuth msg =>
    rcases msg with ⟨-, -, -, _ | _⟩ <;> simp [fields, field, optionalField]
  case serverAuth msg =>
    rcases msg with ⟨-, _ | _, _ | _, _ | _⟩ <;> simp [fields, field, optionalField]
  case dropResponder msg =>
    rcases msg with ⟨-, _ | _⟩ <;> simp [fields, field, optionalField]
  case auth msg =>
    rcases msg with ⟨-, _ | _, _ | _, -⟩ <;> simp [fields, field, optionalField]
  all_goals simp [fields, field]

/-- The derived `Deserialize` of each variant's struct reads back the fields written for it. Each
field is found by its name among the distinct names written (`field?_of_mem`), an optional field
also when it was left out (`field?_of_optionalField`), and its value is read back by its leaf
type's lemma. -/
lemma deserializeFields_fields {ks : KeySerde} (hks : ks.RoundTrips) (m : Message) :
    deserializeFields ks m.serdeName (m.fields ks) = .ok m := by
  have hnd := fields_keys_nodup ks m
  cases m
  case clientAuth msg =>
    obtain ⟨c, sub, p, k⟩ := msg
    have hc : field? "your_cookie" _ = .ok (some c.serialize) := field?_of_mem hnd (by simp [fields])
    have hs : field? "subprotocols" _ = .ok (some (seqValue .ofString sub)) :=
      field?_of_mem hnd (by simp [fields])
    have hp : field? "ping_interval" _ = .ok (some (.integer p.toNat)) :=
      field?_of_mem hnd (by simp [fields])
    have hk : field? "your_key" _ = .ok (k.map ks.serialize) :=
      field?_of_optionalField hnd (by rintro a rfl; simp [fields]) (by rintro rfl; simp [fields, field])
    simp only [serdeName, deserializeFields, required_of_field? hc, required_of_field? hs,
      required_of_field? hp, Cookie.deserialize_serialize, seq_seqValue string_ofString,
      integerBelow_natCast p.toNat_lt, UInt32.ofNat_toNat, Except.ok_bind,
      optional_of_field? k (fun a _ => hks.deserialize_serialize a) hks.serialize_ne_nil hk]
    rfl
  case serverAuth msg =>
    obtain ⟨c, sk, rs, ic⟩ := msg
    have hc : field? "your_cookie" _ = .ok (some c.serialize) := field?_of_mem hnd (by simp [fields])
    have hsk : field? "signed_keys" _ = .ok (sk.map SignedKeys.serialize) :=
      field?_of_optionalField hnd (by rintro a rfl; simp [fields]) (by rintro rfl; simp [fields, field])
    have hrs : field? "responders" _ = .ok (rs.map (seqValue Address.serialize)) :=
      field?_of_optionalField hnd (by rintro a rfl; simp [fields]) (by rintro rfl; simp [fields, field])
    have hic : field? "initiator_connected" _ = .ok (ic.map Value.boolean) :=
      field?_of_optionalField hnd (by rintro a rfl; simp [fields]) (by rintro rfl; simp [fields, field])
    simp only [serdeName, deserializeFields, required_of_field? hc, Cookie.deserialize_serialize,
      Except.ok_bind,
      optional_of_field? sk (fun a _ => SignedKeys.deserialize_serialize a)
        (fun _ => by simp [SignedKeys.serialize]) hsk,
      optional_of_field? rs (fun a _ => seq_seqValue Address.deserialize_serialize a)
        (fun _ => by simp [seqValue]) hrs,
      optional_of_field? (f := Serde.bool) ic (fun _ _ => rfl) (fun _ => by simp) hic]
    rfl
  case dropResponder msg =>
    obtain ⟨a, r⟩ := msg
    have ha : field? "id" _ = .ok (some a.serialize) := field?_of_mem hnd (by simp [fields])
    -- the reason is read as a `u16` number, then made a close code
    have hr : field? "reason" ((dropResponder ⟨a, r⟩).fields ks) =
        .ok ((r.map UInt16.toNat).map fun n : Nat => Value.integer n) := by
      rw [Option.map_map]
      exact field?_of_optionalField hnd (by rintro a rfl; simp [fields])
        (by rintro rfl; simp [fields, field])
    have hn : ∀ n ∈ r.map UInt16.toNat, integerBelow (2 ^ 16) "u16" (.integer n) = .ok n := by
      intro n hn
      obtain ⟨x, -, rfl⟩ := Option.mem_map.1 hn
      exact integerBelow_natCast x.toNat_lt
    simp only [serdeName, deserializeFields, required_of_field? ha, Address.deserialize_serialize,
      Except.ok_bind, optional_of_field? _ hn (fun _ => by simp) hr, Option.map_map,
      Function.comp_def, UInt16.ofNat_toNat, Option.map_id']
    rfl
  case auth msg =>
    obtain ⟨c, ts, t, d⟩ := msg
    have hc : field? "your_cookie" _ = .ok (some c.serialize) := field?_of_mem hnd (by simp [fields])
    have hts : field? "tasks" _ = .ok (ts.map (seqValue Value.ofString)) :=
      field?_of_optionalField hnd (by rintro a rfl; simp [fields]) (by rintro rfl; simp [fields, field])
    have ht : field? "task" _ = .ok (t.map Value.ofString) :=
      field?_of_optionalField hnd (by rintro a rfl; simp [fields]) (by rintro rfl; simp [fields, field])
    have hd : field? "data" _ = .ok (some d.serialize) := field?_of_mem hnd (by simp [fields])
    simp only [serdeName, deserializeFields, required_of_field? hc, Cookie.deserialize_serialize,
      Except.ok_bind,
      optional_of_field? ts (fun a _ => seq_seqValue string_ofString a)
        (fun _ => by simp [seqValue]) hts,
      optional_of_field? t (fun a _ => string_ofString a) (fun _ => by simp [Value.ofString]) ht,
      required_of_field? hd, AuthData.deserialize_serialize]
    rfl
  case close msg =>
    simp only [serdeName, deserializeFields, fields, required_single,
      integerBelow_natCast msg.reason.toNat_lt, UInt16.ofNat_toNat, Except.ok_bind]
    rfl
  case newInitiator => rfl
  -- the structs of one field
  all_goals
    simp only [serdeName, deserializeFields, fields, required_single, Except.ok_bind,
      hks.deserialize_serialize, Address.deserialize_serialize,
      SendErrorId.deserialize_serialize]
    rfl

lemma serdeName_eq_getType (m : Message) : m.serdeName = m.getType := by
  cases m <;> rfl

/-- The `type` entry of a serialized message, which comes once, is its variant's name. -/
lemma field?_type_serialize (m : Message) :
    field? "type" (field "type" (.ofString m.serdeName) :: m.fields ks) =
      .ok (some (.ofString m.serdeName)) :=
  field?_field (field?_eq_none (m.type_notMem_fields ks))

/-- The derived `Deserialize` of `Message` reads back what its derived `Serialize` writes. -/
lemma deserialize_serialize {ks : KeySerde} (hks : ks.RoundTrips) (m : Message) :
    Message.deserialize ks (m.serialize ks) = .ok m := by
  have hfilter : (field "type" (.ofString m.serdeName) :: m.fields ks).filter
      (fun e => e.1 ≠ .ofString "type") = m.fields ks := by
    rw [List.filter_cons_of_neg (by simp [field]), List.filter_eq_self]
    intro e he
    have hne : e.1 ≠ .ofString "type" := fun h =>
      m.type_notMem_fields ks (List.mem_map.2 ⟨e, he, h⟩)
    simpa using hne
  simp only [Message.deserialize, serialize]
  rw [hfilter, field?_type_serialize, Except.ok_bind]
  exact deserializeFields_fields hks m

end Message

/-! ## The codec over `rmp_serde` -/

/-- The serde stack below the codec, which stands outside the repository: `rmp_serde`, with the
bytes `to_vec_named` writes for a value of serde's data model and the value `from_slice` reads
from bytes (for an internally tagged enum, the buffered content that the derive then reads), and
the serde impl of `rust_sodium`'s `PublicKey`. -/
structure Rmp where
  encode : Value → List UInt8
  decode : List UInt8 → Except String Value
  keys : KeySerde

/-- The codec of the repository over `rmp_serde`: `Message::to_msgpack` writes the serialized
message, `Message::from_msgpack` reads a value and deserializes it. -/
def Msgpack.ofRmp (rmp : Rmp) : Msgpack where
  encodeMessage m := rmp.encode (m.serialize rmp.keys)
  decodeMessage b := rmp.decode b >>= Message.deserialize rmp.keys
  encodeValue := rmp.encode
  decodeValue := rmp.decode

/-- Where `rmp_serde` reads back the value it wrote for a message, and the keys' impl reads back
every key, the codec reads back the message: the assumption `OpenBox.decrypt_encrypt` and the
task agreement make. -/
lemma Msgpack.ofRmp_readsMessage {rmp : Rmp} {m : Message} (hkeys : rmp.keys.RoundTrips)
    (hrmp : rmp.decode (rmp.encode (m.serialize rmp.keys)) = .ok (m.serialize rmp.keys)) :
    (Msgpack.ofRmp rmp).ReadsMessage m := by
  show rmp.decode (rmp.encode (m.serialize rmp.keys)) >>= Message.deserialize rmp.keys = .ok m
  rw [hrmp, Except.ok_bind, Message.deserialize_serialize hkeys]

theorem message_codec_round_trip (rmp : Rmp) (m : Message) (hkeys : rmp.keys.RoundTrips)
    (hrmp : rmp.decode (rmp.encode (m.serialize rmp.keys)) = .ok (m.serialize rmp.keys)) :
    Message.fromMsgpack (Msgpack.ofRmp rmp) ((Msgpack.ofRmp rmp).encodeMessage m) = .ok m ∧
      ∃ es, m.serialize rmp.keys = .map es ∧
        Serde.field? "type" es = .ok (some (.ofString m.getType)) := by
  have hread := Msgpack.ofRmp_readsMessage hkeys hrmp
  unfold Msgpack.ReadsMessage at hread
  refine ⟨by simp only [Message.fromMsgpack, hread], _, rfl, ?_⟩
  rw [← Message.serdeName_eq_getType]
  exact Message.field?_type_serialize rmp.keys m

namespace Toy

/-- A serde impl of public keys as `rust_sodium` writes them: the 32 bytes as binary data, read
back only at that length. -/
def keySerde : KeySerde where
  serialize k := .binary k.bytes
  deserialize v := do
    let b ← Serde.fixedBytes 32 "32 bytes of binary data" v
    return ⟨b.1, b.2⟩

lemma keySerde_roundTrips : keySerde.RoundTrips where
  deserialize_serialize k := by simp [keySerde, Serde.fixedBytes, k.length_eq]
  serialize_ne_nil _ := by simp [keySerde]

end Toy

theorem message_codec_round_trip_close :
    let rmp : Rmp := ⟨fun _ => [], fun _ => .ok ((Message.close ⟨3001⟩).serialize Toy.keySerde),
      Toy.keySerde⟩
    rmp.keys.RoundTrips ∧
      rmp.decode (rmp.encode ((Message.close ⟨3001⟩).serialize rmp.keys)) =
        .ok ((Message.close ⟨3001⟩).serialize rmp.keys) ∧
      Message.fromMsgpack (Msgpack.ofRmp rmp) ((Msgpack.ofRmp rmp).encodeMessage (.close ⟨3001⟩)) =
        .ok (.close ⟨3001⟩) :=
  ⟨Toy.keySerde_roundTrips, rfl,
    (message_codec_round_trip ⟨fun _ => [], fun _ => .ok ((Message.close ⟨3001⟩).serialize Toy.keySerde),
      Toy.keySerde⟩ (.close ⟨3001⟩) Toy.keySerde_roundTrips rfl).1⟩

end SaltyRtc
