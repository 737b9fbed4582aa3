import SaltyRtc.Protocol.Messages

/-!
# Boxes

Port of `src/boxes.rs`. A `ByteBox` is what travels on the wire: a nonce followed by the
(usually encrypted) message bytes. An `OpenBox` is a decoded message with its nonce.

The MessagePack codec is outside the repository (`rmp_serde` with serde's derived
implementations for `Message`, and `rmpv` for `Value`); `Msgpack` gathers the four functions the
code calls.
-/

namespace SaltyRtc

/-- The MessagePack codec used by the code. -/
structure Msgpack where
  /-- `Message::to_msgpack`. -/
  encodeMessage : Message → List UInt8
  /-- `rmp_serde::from_slice::<Message>`; an error carries the decoder's text. -/
  decodeMessage : List UInt8 → Except String Message
  /-- `rmp_serde::to_vec_named` on a `Value`. -/
  encodeValue : Value → List UInt8
  /-- `rmp_serde::from_slice::<Value>`; an error carries the decoder's text. -/
  decodeValue : List UInt8 → Except String Value

/-- `Message::from_msgpack`: a decoder error becomes `SignalingError::Decode`. -/
def Message.fromMsgpack (mp : Msgpack) (bytes : List UInt8) : Except SignalingError Message :=
  match mp.decodeMessage bytes with
  | .ok m => .ok m
  | .error e => .error (.decode ("Could not decode msgpack data: " ++ e))

/-- A byte box: message bytes and a nonce. -/
structure ByteBox where
  bytes : List UInt8
  nonce : Nonce
  deriving DecidableEq

namespace ByteBox

/-- `ByteBox::from_slice`: the first 24 bytes are the nonce, the rest the message. -/
def fromSlice (bytes : List UInt8) : Except (Fault SignalingError) ByteBox :=
  if bytes.length ≤ 24 then .error (.err (.decode "Message is too short"))
  else
    match Nonce.fromBytes (bytes.take 24) with
    | .ok nonce => .ok ⟨bytes.drop 24, nonce⟩
    | .error (.err e) => .error (.err (.decode ("Cannot decode nonce: " ++ e.display)))
    | .error (.panic m) => .error (.panic m)

/-- `ByteBox::into_bytes`: the nonce bytes followed by the message bytes. -/
def intoBytes (bb : ByteBox) : List UInt8 := bb.nonce.intoBytes ++ bb.bytes

end ByteBox

/-- An open box: an unencrypted message and its nonce. -/
structure OpenBox (α : Type) where
  message : α
  nonce : Nonce
  deriving DecidableEq

namespace OpenBox

variable (na : Sodium) (mp : Msgpack)

/-- `OpenBox::<Message>::encode`: without encryption (only for `client-hello`). -/
def encode (ob : OpenBox Message) : ByteBox := ⟨mp.encodeMessage ob.message, ob.nonce⟩

/-- `OpenBox::<Message>::encrypt`: a box for `otherKey` under the nonce of the open box. -/
def encrypt (ob : OpenBox Message) (kp : KeyPair) (otherKey : PublicKey) : ByteBox :=
  ⟨kp.encrypt na (mp.encodeMessage ob.message) ob.nonce otherKey, ob.nonce⟩

/-- `OpenBox::<Message>::encrypt_token`: a secret box under the auth token. -/
def encryptToken (ob : OpenBox Message) (token : AuthToken) : ByteBox :=
  ⟨token.encrypt na (mp.encodeMessage ob.message) ob.nonce, ob.nonce⟩

/-- `OpenBox::<Message>::decode`. -/
def decode (bb : ByteBox) : Except SignalingError (OpenBox Message) :=
  match Message.fromMsgpack mp bb.bytes with
  | .ok m => .ok ⟨m, bb.nonce⟩
  | .error e => .error (.decode ("Cannot decode message payload: " ++ e.display))

/-- `OpenBox::<Message>::decrypt`. -/
def decrypt (bb : ByteBox) (kp : KeyPair) (otherKey : PublicKey) :
    Except SignalingError (OpenBox Message) :=
  match kp.decrypt na bb.bytes bb.nonce otherKey with
  | .error e => .error (.decode ("Cannot decrypt message payload: " ++ e.display))
  | .ok decrypted =>
    match Message.fromMsgpack mp decrypted with
    | .ok m => .ok ⟨m, bb.nonce⟩
    | .error e => .error (.decode ("Cannot decode message payload: " ++ e.display))

/-- `OpenBox::<Message>::decrypt_token`. -/
def decryptToken (bb : ByteBox) (token : AuthToken) : Except SignalingError (OpenBox Message) :=
  match token.decrypt na bb.bytes bb.nonce with
  | .error e => .error (.decode ("Cannot decode message payload: " ++ e.display))
  | .ok decrypted =>
    match Message.fromMsgpack mp decrypted with
    | .ok m => .ok ⟨m, bb.nonce⟩
    | .error e => .error (.decode ("Cannot decode message payload: " ++ e.display))

/-- `OpenBox::<Value>::encrypt`. Serializing a value cannot fail, so the `expect` never fires. -/
def encryptValue (ob : OpenBox Value) (kp : KeyPair) (otherKey : PublicKey) : ByteBox :=
  ⟨kp.encrypt na (mp.encodeValue ob.message) ob.nonce otherKey, ob.nonce⟩

/-- `OpenBox::<Value>::decrypt`. -/
def decryptValue (bb : ByteBox) (kp : KeyPair) (otherKey : PublicKey) :
    Except SignalingError (OpenBox Value) :=
  match kp.decrypt na bb.bytes bb.nonce otherKey with
  | .error e => .error (.decode ("Cannot decrypt message payload: " ++ e.display))
  | .ok decrypted =>
    match mp.decodeValue decrypted with
    | .ok v => .ok ⟨v, bb.nonce⟩
    | .error e => .error (.decode ("Cannot decode message payload: " ++ e))

end OpenBox

end SaltyRtc

namespace SaltyRtc

/-! ## Framing -/

namespace ByteBox

/-- The first 24 bytes of a frame are the nonce bytes. -/
lemma take_intoBytes (bb : ByteBox) : bb.intoBytes.take 24 = bb.nonce.intoBytes :=
  List.take_left' (by simp)

/-- What follows the first 24 bytes of a frame is the message. -/
lemma drop_intoBytes (bb : ByteBox) : bb.intoBytes.drop 24 = bb.bytes :=
  List.drop_left' (by simp)

/-- A frame with a non-empty message parses back to its box. -/
lemma fromSlice_intoBytes {bb : ByteBox} (h : bb.bytes ≠ []) : fromSlice bb.intoBytes = .ok bb := by
  have hlen : ¬ bb.intoBytes.length ≤ 24 := by
    have : bb.bytes.length ≠ 0 := fun e => h (List.length_eq_zero_iff.mp e)
    simp only [intoBytes, List.length_append, Nonce.length_intoBytes]
    omega
  unfold fromSlice
  rw [if_neg hlen, take_intoBytes, Nonce.fromBytes_intoBytes, drop_intoBytes]

/-- A byte string longer than a nonce parses, and the box it parses to frames back to it. -/
lemma fromSlice_of_lt {s : List UInt8} (h : 24 < s.length) :
    ∃ bb, fromSlice s = .ok bb ∧ bb.intoBytes = s ∧ bb.nonce.intoBytes = s.take 24 ∧
      bb.bytes = s.drop 24 := by
  have h24 : (s.take 24).length = 24 := by simp; omega
  obtain ⟨n, hn, hbytes⟩ := Nonce.fromBytes_of_length h24
  refine ⟨⟨s.drop 24, n⟩, ?_, ?_, hbytes, rfl⟩
  · unfold fromSlice
    rw [if_neg (by omega), hn]
  · simp [intoBytes, hbytes]

/-- A byte string no longer than a nonce is refused with a decoding error. -/
lemma fromSlice_of_le {s : List UInt8} (h : s.length ≤ 24) :
    fromSlice s = .error (.err (.decode "Message is too short")) := by
  simp [fromSlice, h]

/-- Only a byte string longer than a nonce parses. -/
lemma lt_length_of_fromSlice_eq_ok {s : List UInt8} {bb : ByteBox} (h : fromSlice s = .ok bb) :
    24 < s.length := by
  by_contra hle
  rw [fromSlice_of_le (by omega)] at h
  cases h

/-- A parsed box has the first 24 bytes of the frame as its nonce bytes, and the rest as its
message. -/
lemma fromSlice_eq_ok {s : List UInt8} {bb : ByteBox} (h : fromSlice s = .ok bb) :
    bb.nonce.intoBytes = s.take 24 ∧ bb.bytes = s.drop 24 := by
  obtain ⟨bb', hbb', -, hn, hb⟩ := fromSlice_of_lt (lt_length_of_fromSlice_eq_ok h)
  rw [h] at hbb'
  cases hbb'
  exact ⟨hn, hb⟩

end ByteBox

/-- `Message::from_msgpack` returns what the decoder returns. -/
lemma Message.fromMsgpack_eq_ok {mp : Msgpack} {bytes : List UInt8} {m : Message} :
    Message.fromMsgpack mp bytes = .ok m ↔ mp.decodeMessage bytes = .ok m := by
  unfold Message.fromMsgpack
  cases mp.decodeMessage bytes <;> simp

/-! ## Sealing under the framed nonce -/

namespace OpenBox

variable {na : Sodium} {mp : Msgpack}

/-- The frame of a box for a peer: the nonce bytes, then the box sealed under them. -/
lemma encrypt_frame (ob : OpenBox Message) (kp : KeyPair) (k : PublicKey) :
    (ob.encrypt na mp kp k).intoBytes.take 24 = ob.nonce.intoBytes ∧
      (ob.encrypt na mp kp k).intoBytes.drop 24 =
        na.boxSeal (mp.encodeMessage ob.message) ((ob.encrypt na mp kp k).intoBytes.take 24) k
          kp.privateKey := by
  rw [ByteBox.take_intoBytes, ByteBox.drop_intoBytes]
  exact ⟨rfl, rfl⟩

/-- The frame of a box sealed with the auth token. -/
lemma encryptToken_frame (ob : OpenBox Message) (t : AuthToken) :
    (ob.encryptToken na mp t).intoBytes.take 24 = ob.nonce.intoBytes ∧
      (ob.encryptToken na mp t).intoBytes.drop 24 =
        na.secretboxSeal (mp.encodeMessage ob.message) ((ob.encryptToken na mp t).intoBytes.take 24)
          t.key := by
  rw [ByteBox.take_intoBytes, ByteBox.drop_intoBytes]
  exact ⟨rfl, rfl⟩

/-- The frame of a box of a task's value. -/
lemma encryptValue_frame (ob : OpenBox Value) (kp : KeyPair) (k : PublicKey) :
    (ob.encryptValue na mp kp k).intoBytes.take 24 = ob.nonce.intoBytes ∧
      (ob.encryptValue na mp kp k).intoBytes.drop 24 =
        na.boxSeal (mp.encodeValue ob.message) ((ob.encryptValue na mp kp k).intoBytes.take 24) k
          kp.privateKey := by
  rw [ByteBox.take_intoBytes, ByteBox.drop_intoBytes]
  exact ⟨rfl, rfl⟩

/-! ## Opening under the framed nonce -/

variable {bb : ByteBox}

/-- `decrypt` opens the message bytes under the nonce bytes of the box, then decodes them; the
open box keeps the nonce. -/
lemma decrypt_eq_ok {kp : KeyPair} {k : PublicKey} {ob : OpenBox Message} :
    decrypt na mp bb kp k = .ok ob ↔ ob.nonce = bb.nonce ∧
      ∃ plain, na.boxOpen bb.bytes bb.nonce.intoBytes k kp.privateKey = some plain ∧
        mp.decodeMessage plain = .ok ob.message := by
  unfold decrypt KeyPair.decrypt
  cases hopen : na.boxOpen bb.bytes bb.nonce.intoBytes k kp.privateKey with
  | none => simp
  | some plain =>
    simp only [Option.some.injEq, exists_eq_left', ← Message.fromMsgpack_eq_ok]
    cases Message.fromMsgpack mp plain with
    | error e => simp
    | ok m =>
      obtain ⟨m', n'⟩ := ob
      simp only [Except.ok.injEq, OpenBox.mk.injEq]
      constructor
      · rintro ⟨rfl, rfl⟩
        exact ⟨rfl, rfl⟩
      · rintro ⟨rfl, rfl⟩
        exact ⟨rfl, rfl⟩

/-- `decrypt_token` opens the message bytes with the token under the nonce bytes of the box. -/
lemma decryptToken_eq_ok {t : AuthToken} {ob : OpenBox Message} :
    decryptToken na mp bb t = .ok ob ↔ ob.nonce = bb.nonce ∧
      ∃ plain, na.secretboxOpen bb.bytes bb.nonce.intoBytes t.key = some plain ∧
        mp.decodeMessage plain = .ok ob.message := by
  unfold decryptToken AuthToken.decrypt
  cases hopen : na.secretboxOpen bb.bytes bb.nonce.intoBytes t.key with
  | none => simp
  | some plain =>
    simp only [Option.some.injEq, exists_eq_left', ← Message.fromMsgpack_eq_ok]
    cases Message.fromMsgpack mp plain with
    | error e => simp
    | ok m =>
      obtain ⟨m', n'⟩ := ob
      simp only [Except.ok.injEq, OpenBox.mk.injEq]
      constructor
      · rintro ⟨rfl, rfl⟩
        exact ⟨rfl, rfl⟩
      · rintro ⟨rfl, rfl⟩
        exact ⟨rfl, rfl⟩

/-- `decrypt` of a task's value opens the message bytes under the nonce bytes of the box. -/
lemma decryptValue_eq_ok {kp : KeyPair} {k : PublicKey} {ob : OpenBox Value} :
    decryptValue na mp bb kp k = .ok ob ↔ ob.nonce = bb.nonce ∧
      ∃ plain, na.boxOpen bb.bytes bb.nonce.intoBytes k kp.privateKey = some plain ∧
        mp.decodeValue plain = .ok ob.message := by
  unfold decryptValue KeyPair.decrypt
  cases hopen : na.boxOpen bb.bytes bb.nonce.intoBytes k kp.privateKey with
  | none => simp
  | some plain =>
    simp only [Option.some.injEq, exists_eq_left']
    cases mp.decodeValue plain with
    | error e => simp
    | ok v =>
      obtain ⟨v', n'⟩ := ob
      simp only [Except.ok.injEq, OpenBox.mk.injEq]
      constructor
      · rintro ⟨rfl, rfl⟩
        exact ⟨rfl, rfl⟩
      · rintro ⟨rfl, rfl⟩
        exact ⟨rfl, rfl⟩

/-- An opened box keeps the nonce it came with. -/
lemma decrypt_nonce {kp : KeyPair} {k : PublicKey} {ob : OpenBox Message}
    (h : decrypt na mp bb kp k = .ok ob) : ob.nonce = bb.nonce :=
  (decrypt_eq_ok.mp h).1

/-- A box opened with the auth token keeps the nonce it came with. -/
lemma decryptToken_nonce {t : AuthToken} {ob : OpenBox Message}
    (h : decryptToken na mp bb t = .ok ob) : ob.nonce = bb.nonce :=
  (decryptToken_eq_ok.mp h).1

end OpenBox

/-- The codec reads the message `m` back from its encoding. -/
def Msgpack.ReadsMessage (mp : Msgpack) (m : Message) : Prop :=
  mp.decodeMessage (mp.encodeMessage m) = .ok m

/-- A message that the genuine key pair `a` seals for the genuine key pair `b` opens, with `b`
and `a`'s public key, to the message and nonce sealed, if the codec reads the message back. -/
lemma OpenBox.decrypt_encrypt {na : Sodium} {mp : Msgpack} {pub : PrivateKey → PublicKey}
    (hna : na.Ideal pub) {a b : KeyPair} (ha : a.Genuine pub) (hb : b.Genuine pub)
    {ob : OpenBox Message} (hmp : mp.ReadsMessage ob.message) :
    OpenBox.decrypt na mp (ob.encrypt na mp a b.publicKey) b a.publicKey = .ok ob := by
  unfold Msgpack.ReadsMessage at hmp
  simp only [OpenBox.decrypt, OpenBox.encrypt, KeyPair.decrypt_encrypt hna ha hb,
    Message.fromMsgpack, hmp]

/-- A message sealed with the auth token opens with it, if the codec reads the message back. -/
lemma OpenBox.decryptToken_encryptToken {na : Sodium} {mp : Msgpack} (hna : na.IdealSecretbox)
    (t : AuthToken) {ob : OpenBox Message} (hmp : mp.ReadsMessage ob.message) :
    OpenBox.decryptToken na mp (ob.encryptToken na mp t) t = .ok ob := by
  unfold Msgpack.ReadsMessage at hmp
  simp only [OpenBox.decryptToken, OpenBox.encryptToken, AuthToken.decrypt_encrypt hna,
    Message.fromMsgpack, hmp]

/-- Wire framing round trip. Nonces and their 24 bytes convert both ways, and a slice is refused
(without a panic) exactly when it is not 24 bytes long; byte boxes and their frames convert both
ways, and a frame is accepted exactly when it is longer than a nonce, its first 24 bytes being the
nonce. Every box is sealed under the first 24 bytes of its frame, which are the bytes of its
nonce, and every box parsed from a frame is opened under the first 24 bytes of that frame; so a
message sealed for a peer, or with the auth token, and framed, parses and opens back to itself. -/
theorem ByteBox.framing_round_trip (na : Sodium) (mp : Msgpack) :
    (∀ n : Nonce, Nonce.fromBytes n.intoBytes = .ok n) ∧
    (∀ b : List UInt8, b.length = 24 → ∃ n, Nonce.fromBytes b = .ok n ∧ n.intoBytes = b) ∧
    (∀ b : List UInt8, (∃ e, Nonce.fromBytes b = .error (.err e)) ↔ b.length ≠ 24) ∧
    (∀ (b : List UInt8) (msg : String), Nonce.fromBytes b ≠ .error (.panic msg)) ∧
    (∀ bb : ByteBox, bb.bytes ≠ [] → ByteBox.fromSlice bb.intoBytes = .ok bb) ∧
    (∀ s : List UInt8,
      (∃ bb, ByteBox.fromSlice s = .ok bb ∧ bb.intoBytes = s) ↔ 24 < s.length) ∧
    (∀ s : List UInt8, s.length ≤ 24 → ∃ e, ByteBox.fromSlice s = .error (.err e)) ∧
    (∀ (s : List UInt8) (bb : ByteBox), ByteBox.fromSlice s = .ok bb →
      bb.nonce.intoBytes = s.take 24 ∧ bb.bytes = s.drop 24) ∧
    (∀ (ob : OpenBox Message) (kp : KeyPair) (k : PublicKey),
      (ob.encrypt na mp kp k).intoBytes.take 24 = ob.nonce.intoBytes ∧
      (ob.encrypt na mp kp k).intoBytes.drop 24 =
        na.boxSeal (mp.encodeMessage ob.message) ((ob.encrypt na mp kp k).intoBytes.take 24) k
          kp.privateKey) ∧
    (∀ (ob : OpenBox Message) (t : AuthToken),
      (ob.encryptToken na mp t).intoBytes.take 24 = ob.nonce.intoBytes ∧
      (ob.encryptToken na mp t).intoBytes.drop 24 =
        na.secretboxSeal (mp.encodeMessage ob.message)
          ((ob.encryptToken na mp t).intoBytes.take 24) t.key) ∧
    (∀ (ob : OpenBox Value) (kp : KeyPair) (k : PublicKey),
      (ob.encryptValue na mp kp k).intoBytes.take 24 = ob.nonce.intoBytes ∧
      (ob.encryptValue na mp kp k).intoBytes.drop 24 =
        na.boxSeal (mp.encodeValue ob.message) ((ob.encryptValue na mp kp k).intoBytes.take 24) k
          kp.privateKey) ∧
    (∀ (s : List UInt8) (bb : ByteBox), ByteBox.fromSlice s = .ok bb →
      ∀ (kp : KeyPair) (k : PublicKey) (ob : OpenBox Message),
        OpenBox.decrypt na mp bb kp k = .ok ob ↔ ob.nonce = bb.nonce ∧
          ∃ plain, na.boxOpen (s.drop 24) (s.take 24) k kp.privateKey = some plain ∧
            mp.decodeMessage plain = .ok ob.message) ∧
    (∀ (s : List UInt8) (bb : ByteBox), ByteBox.fromSlice s = .ok bb →
      ∀ (t : AuthToken) (ob : OpenBox Message),
        OpenBox.decryptToken na mp bb t = .ok ob ↔ ob.nonce = bb.nonce ∧
          ∃ plain, na.secretboxOpen (s.drop 24) (s.take 24) t.key = some plain ∧
            mp.decodeMessage plain = .ok ob.message) ∧
    (∀ (s : List UInt8) (bb : ByteBox), ByteBox.fromSlice s = .ok bb →
      ∀ (kp : KeyPair) (k : PublicKey) (ob : OpenBox Value),
        OpenBox.decryptValue na mp bb kp k = .ok ob ↔ ob.nonce = bb.nonce ∧
          ∃ plain, na.boxOpen (s.drop 24) (s.take 24) k kp.privateKey = some plain ∧
            mp.decodeValue plain = .ok ob.message) ∧
    (∀ (pub : PrivateKey → PublicKey), na.Ideal pub → ∀ a b : KeyPair, a.Genuine pub →
      b.Genuine pub → ∀ ob : OpenBox Message, mp.ReadsMessage ob.message →
        ∃ bb, ByteBox.fromSlice (ob.encrypt na mp a b.publicKey).intoBytes = .ok bb ∧
          OpenBox.decrypt na mp bb b a.publicKey = .ok ob) ∧
    (na.IdealSecretbox → ∀ (t : AuthToken) (ob : OpenBox Message), mp.ReadsMessage ob.message →
      ∃ bb, ByteBox.fromSlice (ob.encryptToken na mp t).intoBytes = .ok bb ∧
        OpenBox.decryptToken na mp bb t = .ok ob) := by
  refine ⟨Nonce.fromBytes_intoBytes, fun b hb => Nonce.fromBytes_of_length hb, ?_,
    Nonce.fromBytes_ne_panic, fun bb hb => ByteBox.fromSlice_intoBytes hb, ?_, ?_,
    fun _ _ hbb => ByteBox.fromSlice_eq_ok hbb, OpenBox.encrypt_frame, OpenBox.encryptToken_frame,
    OpenBox.encryptValue_frame, ?_, ?_, ?_, ?_, ?_⟩
  · intro b
    constructor
    · rintro ⟨e, he⟩ hb
      obtain ⟨n, hn, -⟩ := Nonce.fromBytes_of_length hb
      rw [hn] at he
      cases he
    · intro hb
      exact ⟨_, Nonce.fromBytes_of_length_ne hb⟩
  · intro s
    constructor
    · rintro ⟨bb, hbb, -⟩
      exact ByteBox.lt_length_of_fromSlice_eq_ok hbb
    · intro h
      obtain ⟨bb, hbb, hs, -⟩ := ByteBox.fromSlice_of_lt h
      exact ⟨bb, hbb, hs⟩
  · intro s hs
    exact ⟨_, ByteBox.fromSlice_of_le hs⟩
  -- the three ways of opening, each under the frame's first 24 bytes
  · intro s bb hbb kp k ob
    obtain ⟨hn, hb⟩ := ByteBox.fromSlice_eq_ok hbb
    rw [OpenBox.decrypt_eq_ok, hn, hb]
  · intro s bb hbb t ob
    obtain ⟨hn, hb⟩ := ByteBox.fromSlice_eq_ok hbb
    rw [OpenBox.decryptToken_eq_ok, hn, hb]
  · intro s bb hbb kp k ob
    obtain ⟨hn, hb⟩ := ByteBox.fromSlice_eq_ok hbb
    rw [OpenBox.decryptValue_eq_ok, hn, hb]
  -- the round trips: a sealed box is never empty, so its frame parses back to it
  · intro pub hna a b ha hb ob hmp
    exact ⟨_, ByteBox.fromSlice_intoBytes (hna.boxSeal_ne_nil _ _ _ _),
      OpenBox.decrypt_encrypt hna ha hb hmp⟩
  · intro hna t ob hmp
    exact ⟨_, ByteBox.fromSlice_intoBytes (hna.secretboxSeal_ne_nil _ _ _),
      OpenBox.decryptToken_encryptToken hna t hmp⟩

end SaltyRtc
