import SaltyRtc.Protocol.Nonce

/-!
# Keys and encryption

Port of `src/crypto_types.rs`. Keys are the fixed-size byte strings of `rust_sodium`; the
primitives `box_::seal`/`box_::open` and `secretbox::seal`/`secretbox::open` are outside the
repository and are the fields of a `Sodium` structure that every encrypting function takes.

Every encryption and decryption here passes the nonce as the 24 bytes `Nonce.intoBytes` produces,
as `Into<box_::Nonce>` and `Into<secretbox::Nonce>` do in the source.
-/

namespace SaltyRtc

/-- A public key (`box_::PublicKey`, 32 bytes). -/
structure PublicKey where
  bytes : List UInt8
  length_eq : bytes.length = 32
  deriving DecidableEq

/-- A private key (`box_::SecretKey`, 32 bytes). -/
structure PrivateKey where
  bytes : List UInt8
  length_eq : bytes.length = 32
  deriving DecidableEq

/-- A symmetric key (`secretbox::Key`, 32 bytes). -/
structure SecretKey where
  bytes : List UInt8
  length_eq : bytes.length = 32
  deriving DecidableEq

/-- The `rust_sodium` primitives used by the code: public-key boxes and secret-key boxes. The
second argument of each is the 24-byte nonce. -/
structure Sodium where
  /-- `box_::seal(data, nonce, their_public_key, our_private_key)`. -/
  boxSeal : List UInt8 → List UInt8 → PublicKey → PrivateKey → List UInt8
  /-- `box_::open(data, nonce, their_public_key, our_private_key)`. -/
  boxOpen : List UInt8 → List UInt8 → PublicKey → PrivateKey → Option (List UInt8)
  /-- `secretbox::seal(data, nonce, key)`. -/
  secretboxSeal : List UInt8 → List UInt8 → SecretKey → List UInt8
  /-- `secretbox::open(data, nonce, key)`. -/
  secretboxOpen : List UInt8 → List UInt8 → SecretKey → Option (List UInt8)

/-- A public/private key pair. -/
structure KeyPair where
  publicKey : PublicKey
  privateKey : PrivateKey
  deriving DecidableEq

namespace KeyPair

/-- `KeyPair::encrypt`: a box for `otherKey` under our private key. -/
def encrypt (na : Sodium) (kp : KeyPair) (data : List UInt8) (nonce : Nonce) (otherKey : PublicKey) :
    List UInt8 :=
  na.boxSeal data nonce.intoBytes otherKey kp.privateKey

/-- `KeyPair::decrypt`: open a box from `otherKey` with our private key. -/
def decrypt (na : Sodium) (kp : KeyPair) (data : List UInt8) (nonce : Nonce) (otherKey : PublicKey) :
    Except SignalingError (List UInt8) :=
  match na.boxOpen data nonce.intoBytes otherKey kp.privateKey with
  | some plain => .ok plain
  | none => .error (.crypto "Could not decrypt data")

end KeyPair

/-- A one-time auth token: a secret key shared out of band. -/
structure AuthToken where
  key : SecretKey
  deriving DecidableEq

namespace AuthToken

/-- `AuthToken::encrypt`. -/
def encrypt (na : Sodium) (t : AuthToken) (plaintext : List UInt8) (nonce : Nonce) : List UInt8 :=
  na.secretboxSeal plaintext nonce.intoBytes t.key

/-- `AuthToken::decrypt`. -/
def decrypt (na : Sodium) (t : AuthToken) (ciphertext : List UInt8) (nonce : Nonce) :
    Except SignalingError (List UInt8) :=
  match na.secretboxOpen ciphertext nonce.intoBytes t.key with
  | some plain => .ok plain
  | none => .error (.crypto "Could not decrypt data")

end AuthToken

/-- The server session key and the client permanent key, as signed by the server. -/
structure UnsignedKeys where
  serverPublicSessionKey : PublicKey
  clientPublicPermanentKey : PublicKey
  deriving DecidableEq

/-- The signed keys of a `server-auth` message: 80 bytes (two keys and a MAC). -/
structure SignedKeys where
  bytes : List UInt8
  length_eq : bytes.length = 80
  deriving DecidableEq

/-- `SignedKeys::decrypt`. The length assertion and the two `unwrap`s panic unless the opened box
holds 64 bytes. -/
def SignedKeys.decrypt (na : Sodium) (sk : SignedKeys) (permanentKey : KeyPair)
    (serverPublicPermanentKey : PublicKey) (nonce : Nonce) :
    Except (Fault SignalingError) UnsignedKeys :=
  match na.boxOpen sk.bytes nonce.intoBytes serverPublicPermanentKey permanentKey.privateKey with
  | none => .error (.err (.crypto "Could not decrypt signed keys"))
  | some decrypted =>
    if h : decrypted.length = 64 then
      .ok ⟨⟨decrypted.take 32, by simp [h]⟩, ⟨(decrypted.drop 32).take 32, by simp [h]⟩⟩
    else .error (.panic "assertion failed: decrypted.len() == 32 * 2")

/-! ## Ideal boxes

The properties of `box_` that the protocol relies on, for key pairs as `box_::gen_keypair`
makes them: the public key is the one that belongs to the private key. -/

/-- A key pair whose public key is `pub` of its private key. -/
def KeyPair.Genuine (pub : PrivateKey → PublicKey) (kp : KeyPair) : Prop :=
  kp.publicKey = pub kp.privateKey

/-- Ideal public-key boxes, where `pub` gives the public key of a private key: a box that the
genuine key pair `a` seals for the genuine key pair `b` opens with `a`'s public key and `b`'s
private key, and a box is never empty (it carries its MAC). -/
structure Sodium.Ideal (na : Sodium) (pub : PrivateKey → PublicKey) : Prop where
  boxOpen_boxSeal : ∀ m n (a b : KeyPair), a.Genuine pub → b.Genuine pub →
    na.boxOpen (na.boxSeal m n b.publicKey a.privateKey) n a.publicKey b.privateKey = some m
  boxSeal_ne_nil : ∀ m n pk sk, na.boxSeal m n pk sk ≠ []

/-- Ideal secret boxes: a box sealed with a key opens with that key under the same nonce, and is
never empty. -/
structure Sodium.IdealSecretbox (na : Sodium) : Prop where
  secretboxOpen_secretboxSeal : ∀ m n k, na.secretboxOpen (na.secretboxSeal m n k) n k = some m
  secretboxSeal_ne_nil : ∀ m n k, na.secretboxSeal m n k ≠ []

/-- What is encrypted with an auth token decrypts with it. -/
lemma AuthToken.decrypt_encrypt {na : Sodium} (hna : na.IdealSecretbox) (t : AuthToken)
    (data : List UInt8) (nonce : Nonce) : t.decrypt na (t.encrypt na data nonce) nonce = .ok data := by
  simp only [AuthToken.decrypt, AuthToken.encrypt, hna.secretboxOpen_secretboxSeal]

namespace KeyPair

variable {na : Sodium} {pub : PrivateKey → PublicKey}

/-- What `a` encrypts for `b` decrypts with `b`'s private key and `a`'s public key. -/
lemma decrypt_encrypt (hna : na.Ideal pub) {a b : KeyPair} (ha : a.Genuine pub)
    (hb : b.Genuine pub) (data : List UInt8) (nonce : Nonce) :
    b.decrypt na (a.encrypt na data nonce b.publicKey) nonce a.publicKey = .ok data := by
  simp only [decrypt, encrypt, hna.boxOpen_boxSeal _ _ a b ha hb]

end KeyPair

end SaltyRtc
