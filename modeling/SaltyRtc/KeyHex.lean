import Mathlib
import SaltyRtc.Crypto
import SaltyRtc.Errors

/-!
# Keys as hexadecimal text

Port of `public_key_from_hex_str`, `private_key_from_hex_str`, `KeyPair::public_key_hex` and
`KeyPair::private_key_hex` in `src/crypto_types.rs`. This is how a user hands the library a
trusted peer's public key, and how a client stores its own key pair and restores it later. A key
is written as `HEXLOWER` of the `data_encoding` crate writes its 32 bytes, and read with
`HEXLOWER_PERMISSIVE` then `from_slice`, which takes exactly 32 bytes. The two readers differ only
in the key type and in the name their messages give it (`keyFromHexStr`).

The crate is not part of the repository: its codec is a parameter (`HexCodec`), and what the
crate documents of it are hypotheses (`HexCodec.Lawful`). Under them, both texts of a key pair read
back as its keys, also in upper case, and a text is read as a key only if it has 64 digits
(`key_hex_round_trip`).
-/

namespace SaltyRtc

/-- The base-16 codec of the `data_encoding` crate: `HEXLOWER.encode`, and
`HEXLOWER_PERMISSIVE.decode` on the bytes of a text, whose error the callers discard. -/
structure HexCodec where
  encode : List UInt8 → String
  decode : String → Option (List UInt8)

/-- What the crate documents of its codec: the permissive reader reads back what the writer wrote,
also after the digits are put in upper case, and reads two digits a byte. -/
structure HexCodec.Lawful (hex : HexCodec) : Prop where
  decode_encode : ∀ bytes, hex.decode (hex.encode bytes) = some bytes
  decode_toUpper_encode : ∀ bytes, hex.decode ((hex.encode bytes).map Char.toUpper) = some bytes
  length_of_decode : ∀ text bytes, hex.decode text = some bytes → text.length = 2 * bytes.length

/-- `box_::PublicKey::from_slice`: exactly 32 bytes. -/
def PublicKey.fromSlice (bytes : List UInt8) : Option PublicKey :=
  if h : bytes.length = 32 then some ⟨bytes, h⟩ else none

/-- `box_::SecretKey::from_slice`: exactly 32 bytes. -/
def PrivateKey.fromSlice (bytes : List UInt8) : Option PrivateKey :=
  if h : bytes.length = 32 then some ⟨bytes, h⟩ else none

/-- The reading of a key from hex text that both `*_key_from_hex_str` share: the text is decoded,
then cut into a key by `fromSlice`; each failure has its message, which names the key. -/
def keyFromHexStr {κ : Type} (hex : HexCodec) (name : String) (fromSlice : List UInt8 → Option κ)
    (hexStr : String) : Except SaltyError κ :=
  match hex.decode hexStr with
  | none => .error (.decode ("Could not decode " ++ name ++ " hex string"))
  | some bytes =>
    match fromSlice bytes with
    | none => .error (.decode ("Invalid " ++ name ++ " hex string"))
    | some key => .ok key

variable (hex : HexCodec)

/-- `public_key_from_hex_str`. -/
def publicKeyFromHexStr (hexStr : String) : Except SaltyError PublicKey :=
  keyFromHexStr hex "public key" PublicKey.fromSlice hexStr

/-- `private_key_from_hex_str`. -/
def privateKeyFromHexStr (hexStr : String) : Except SaltyError PrivateKey :=
  keyFromHexStr hex "private key" PrivateKey.fromSlice hexStr

/-- `KeyPair::public_key_hex`. -/
def KeyPair.publicKeyHex (kp : KeyPair) : String :=
  hex.encode kp.publicKey.bytes

/-- `KeyPair::private_key_hex`. -/
def KeyPair.privateKeyHex (kp : KeyPair) : String :=
  hex.encode kp.privateKey.bytes

@[simp] lemma PublicKey.fromSlice_bytes (k : PublicKey) : PublicKey.fromSlice k.bytes = some k := by
  simp [PublicKey.fromSlice, k.length_eq]

@[simp] lemma PrivateKey.fromSlice_bytes (k : PrivateKey) :
    PrivateKey.fromSlice k.bytes = some k := by
  simp [PrivateKey.fromSlice, k.length_eq]

lemma PublicKey.length_of_fromSlice {bytes : List UInt8} {k : PublicKey}
    (h : PublicKey.fromSlice bytes = some k) : bytes.length = 32 := by
  unfold PublicKey.fromSlice at h
  split at h
  · assumption
  · cases h

lemma PrivateKey.length_of_fromSlice {bytes : List UInt8} {k : PrivateKey}
    (h : PrivateKey.fromSlice bytes = some k) : bytes.length = 32 := by
  unfold PrivateKey.fromSlice at h
  split at h
  · assumption
  · cases h

section Read

variable {κ : Type} {hex : HexCodec} (name : String) {fromSlice : List UInt8 → Option κ}

/-- A key is read from a text exactly when the text decodes to bytes that `fromSlice` takes. -/
lemma keyFromHexStr_eq_ok {hexStr : String} {key : κ} :
    keyFromHexStr hex name fromSlice hexStr = .ok key ↔
      ∃ bytes, hex.decode hexStr = some bytes ∧ fromSlice bytes = some key := by
  unfold keyFromHexStr
  cases hdec : hex.decode hexStr with
  | none => simp
  | some bytes =>
    cases hslice : fromSlice bytes <;> simp [hslice]

variable (hlawful : hex.Lawful)
include hlawful

/-- The text of some bytes, in lower or upper case, reads as the key those bytes make. -/
lemma keyFromHexStr_encode {bytes : List UInt8} {key : κ} (h : fromSlice bytes = some key) :
    keyFromHexStr hex name fromSlice (hex.encode bytes) = .ok key ∧
      keyFromHexStr hex name fromSlice ((hex.encode bytes).map Char.toUpper) = .ok key :=
  ⟨(keyFromHexStr_eq_ok name).mpr ⟨bytes, hlawful.decode_encode bytes, h⟩,
    (keyFromHexStr_eq_ok name).mpr ⟨bytes, hlawful.decode_toUpper_encode bytes, h⟩⟩

/-- A text read as a key of `n` bytes has `2 * n` digits. -/
lemma length_of_keyFromHexStr {hexStr : String} {key : κ} {n : Nat}
    (hn : ∀ bytes key, fromSlice bytes = some key → bytes.length = n)
    (h : keyFromHexStr hex name fromSlice hexStr = .ok key) : hexStr.length = 2 * n := by
  obtain ⟨bytes, hdec, hslice⟩ := (keyFromHexStr_eq_ok name).mp h
  rw [hlawful.length_of_decode hexStr bytes hdec, hn bytes key hslice]

end Read

/-- With a codec that keeps the crate's documented laws, the hex texts of a key pair, as
`public_key_hex` and `private_key_hex` write them, read back as its keys, also in upper case; and
any text read as a public or a private key has 64 digits. -/
theorem key_hex_round_trip {hex : HexCodec} (hlawful : hex.Lawful) (kp : KeyPair) :
    publicKeyFromHexStr hex (kp.publicKeyHex hex) = .ok kp.publicKey ∧
      publicKeyFromHexStr hex ((kp.publicKeyHex hex).map Char.toUpper) = .ok kp.publicKey ∧
      privateKeyFromHexStr hex (kp.privateKeyHex hex) = .ok kp.privateKey ∧
      privateKeyFromHexStr hex ((kp.privateKeyHex hex).map Char.toUpper) = .ok kp.privateKey ∧
      (∀ (hexStr : String) (k : PublicKey), publicKeyFromHexStr hex hexStr = .ok k →
        hexStr.length = 64) ∧
      (∀ (hexStr : String) (k : PrivateKey), privateKeyFromHexStr hex hexStr = .ok k →
        hexStr.length = 64) := by
  obtain ⟨hpub, hpubUpper⟩ :=
    keyFromHexStr_encode "public key" hlawful (PublicKey.fromSlice_bytes kp.publicKey)
  obtain ⟨hpriv, hprivUpper⟩ :=
    keyFromHexStr_encode "private key" hlawful (PrivateKey.fromSlice_bytes kp.privateKey)
  exact ⟨hpub, hpubUpper, hpriv, hprivUpper,
    fun _ _ h => length_of_keyFromHexStr "public key" hlawful
      (fun _ _ => PublicKey.length_of_fromSlice) h,
    fun _ _ h => length_of_keyFromHexStr "private key" hlawful
      (fun _ _ => PrivateKey.length_of_fromSlice) h⟩

end SaltyRtc
