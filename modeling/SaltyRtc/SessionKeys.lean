import Mathlib
import SaltyRtc.Duplex

/-!
# Raw encryption with the session keys

Port of `encrypt_raw_with_session_keys`, `decrypt_raw_with_session_keys` and
`current_peer_sequence_numbers` of the `Signaling` trait in `src/protocol/mod.rs`, and of the
`SaltyClient` methods of the same names in `src/lib.rs`. Once the peer is determined, an
application may seal bytes of its own with the session keys of the handshake, under a nonce of its
choice. The client checks that the nonce has the 24 bytes of a `box_::Nonce`; the signaling then
seals or opens with the peer's session public key and our session private key, and the client
converts its error with `From<SignalingError>`. The two trait methods look the keys up the same way
(`sessionKeys`).

Over a channel, what one client seals the other opens (`raw_session_round_trip`), since the
session keys of the two records cross as the handshake left them. A nonce of another length is
refused before any key is looked up. The trait documents `NoPeer` for a call before the peer is
established; that is what the initiator answers, which chooses its peer in the task state only,
but the responder's peer is always the initiator, so until it knows the initiator's session key
it answers with a crash instead. It learns that key only from the initiator's `key`
(`ResponderSignaling.PeerKeyInv`, an invariant of every state it reaches).
-/

namespace SaltyRtc

/-- `box_::Nonce`: 24 bytes. -/
structure BoxNonce where
  bytes : List UInt8
  length_eq : bytes.length = 24

/-- `box_::Nonce::from_slice`: exactly 24 bytes. -/
def BoxNonce.fromSlice (bytes : List UInt8) : Option BoxNonce :=
  if h : bytes.length = 24 then some ⟨bytes, h⟩ else none

/-- `PeerSequenceNumbers`: the CSN of the last message accepted from the peer, and our CSN towards
it. -/
structure PeerSequenceNumbers where
  incoming : UInt64
  outgoing : UInt64
  deriving DecidableEq

namespace Signaling

variable {σ : Type} [Signaling σ] (env : Env)

/-- `current_peer_sequence_numbers`: once a CSN has been accepted from the chosen peer, that CSN
and ours towards the peer. -/
def currentPeerSequenceNumbers (s : σ) : Option PeerSequenceNumbers :=
  (getPeer s).bind fun peer =>
    match peer.csnPair.theirs with
    | some theirs =>
      some ⟨theirs.combinedSequenceNumber, peer.csnPair.ours.combinedSequenceNumber⟩
    | none => none

/-- The keys both raw methods take from the chosen peer: its session public key, and our session
private key towards it. -/
def sessionKeys (s : σ) : Except SignalingError (PublicKey × PrivateKey) := do
  let some peer := getPeer s | throw .noPeer
  let some peerSessionPublicKey := peer.sessionKey
    | throw (.crash "Peer session public key not set")
  let some keypair := peer.keypair | throw (.crash "Our session private key not set")
  pure (peerSessionPublicKey, keypair.privateKey)

/-- `Signaling::encrypt_raw_with_session_keys`. -/
def encryptRawWithSessionKeys (s : σ) (data : List UInt8) (nonce : BoxNonce) :
    Except SignalingError (List UInt8) := do
  let (peerSessionPublicKey, ourSessionPrivateKey) ← sessionKeys s
  pure (env.sodium.boxSeal data nonce.bytes peerSessionPublicKey ourSessionPrivateKey)

/-- `Signaling::decrypt_raw_with_session_keys`. -/
def decryptRawWithSessionKeys (s : σ) (data : List UInt8) (nonce : BoxNonce) :
    Except SignalingError (List UInt8) := do
  let (peerSessionPublicKey, ourSessionPrivateKey) ← sessionKeys s
  match env.sodium.boxOpen data nonce.bytes peerSessionPublicKey ourSessionPrivateKey with
  | some plain => pure plain
  | none => throw (.crypto "Could not decrypt bytes")

end Signaling

namespace SaltyClient

variable {σ : Type} [Signaling σ] (env : Env)

/-- `SaltyClient::encrypt_raw_with_session_keys`. -/
def encryptRawWithSessionKeys (s : σ) (data nonce : List UInt8) :
    Except SaltyError (List UInt8) := do
  let some sodiumNonce := BoxNonce.fromSlice nonce | throw (.crypto "Invalid nonce bytes")
  (Signaling.encryptRawWithSessionKeys env s data sodiumNonce).mapError SaltyError.ofSignalingError

/-- `SaltyClient::decrypt_raw_with_session_keys`. -/
def decryptRawWithSessionKeys (s : σ) (data nonce : List UInt8) :
    Except SaltyError (List UInt8) := do
  let some sodiumNonce := BoxNonce.fromSlice nonce | throw (.crypto "Invalid nonce bytes")
  (Signaling.decryptRawWithSessionKeys env s data sodiumNonce).mapError SaltyError.ofSignalingError

end SaltyClient

lemma BoxNonce.fromSlice_of_length {bytes : List UInt8} (h : bytes.length = 24) :
    BoxNonce.fromSlice bytes = some ⟨bytes, h⟩ := by
  simp [BoxNonce.fromSlice, h]

lemma BoxNonce.fromSlice_of_length_ne {bytes : List UInt8} (h : bytes.length ≠ 24) :
    BoxNonce.fromSlice bytes = none := by
  simp [BoxNonce.fromSlice, h]

namespace Signaling

variable {σ : Type} [Signaling σ] (env : Env)

/-- The keys of a chosen peer that holds both. -/
lemma sessionKeys_of_peer {s : σ} {p : Peer} {pk : PublicKey} {kp : KeyPair}
    (hp : getPeer s = some p) (hpk : p.sessionKey = some pk) (hkp : p.keypair = some kp) :
    sessionKeys s = .ok (pk, kp.privateKey) := by
  simp [sessionKeys, hp, hpk, hkp, pure, Except.pure]

lemma sessionKeys_of_getPeer_none {s : σ} (h : getPeer s = none) :
    sessionKeys s = .error .noPeer := by
  simp [sessionKeys, h, throw, throwThe, MonadExceptOf.throw]

end Signaling

/-- Only `NoPeer` of the signaling becomes `NoPeer`. -/
lemma SaltyError.ofSignalingError_eq_noPeer {e : SignalingError}
    (h : SaltyError.ofSignalingError e = .noPeer) : e = .noPeer := by
  cases e <;> first | rfl | cases h

namespace SaltyClient

variable {σ : Type} [Signaling σ] (env : Env)

/-- A client answers `NoPeer` only where the keys of the raw methods are missing for want of a
peer. -/
lemma encryptRawWithSessionKeys_ne_noPeer {s : σ} (h : Signaling.sessionKeys s ≠ .error .noPeer)
    (data nonce : List UInt8) : encryptRawWithSessionKeys env s data nonce ≠ .error .noPeer := by
  intro heq
  cases hn : BoxNonce.fromSlice nonce with
  | none => simp [encryptRawWithSessionKeys, hn, throw, throwThe, MonadExceptOf.throw] at heq
  | some n =>
    cases hk : Signaling.sessionKeys s with
    | error e =>
      simp [encryptRawWithSessionKeys, hn, Signaling.encryptRawWithSessionKeys, hk,
        Except.mapError] at heq
      exact h (hk.trans (congrArg _ (SaltyError.ofSignalingError_eq_noPeer heq)))
    | ok keys =>
      simp [encryptRawWithSessionKeys, hn, Signaling.encryptRawWithSessionKeys, hk,
        Except.mapError] at heq

lemma decryptRawWithSessionKeys_ne_noPeer {s : σ} (h : Signaling.sessionKeys s ≠ .error .noPeer)
    (data nonce : List UInt8) : decryptRawWithSessionKeys env s data nonce ≠ .error .noPeer := by
  intro heq
  cases hn : BoxNonce.fromSlice nonce with
  | none => simp [decryptRawWithSessionKeys, hn, throw, throwThe, MonadExceptOf.throw] at heq
  | some n =>
    cases hk : Signaling.sessionKeys s with
    | error e =>
      simp [decryptRawWithSessionKeys, hn, Signaling.decryptRawWithSessionKeys, hk,
        Except.mapError] at heq
      exact h (hk.trans (congrArg _ (SaltyError.ofSignalingError_eq_noPeer heq)))
    | ok keys =>
      -- what fails to open is a `Crypto` error
      cases hopen : env.sodium.boxOpen data n.bytes keys.1 keys.2 <;>
        simp [decryptRawWithSessionKeys, hn, Signaling.decryptRawWithSessionKeys, hk, hopen,
          Except.mapError, Except.pure_eq_ok, SaltyError.ofSignalingError, throw, throwThe,
          MonadExceptOf.throw] at heq

end SaltyClient

section Channel

open Signaling

variable {σ τ : Type} [Signaling σ] [Signaling τ] (env : Env) {pub : PrivateKey → PublicKey}

/-- Over a channel, the sender seals with the receiver's session public key and its own session
private key, and the receiver opens with the sender's session public key and its own session
private key: two genuine key pairs, crossed. -/
lemma Channel.sessionKeys {s : σ} {r : τ} (hch : Channel pub s r) :
    ∃ kp kp' : KeyPair, kp.Genuine pub ∧ kp'.Genuine pub ∧
      sessionKeys s = .ok (kp'.publicKey, kp.privateKey) ∧
      sessionKeys r = .ok (kp.publicKey, kp'.privateKey) := by
  obtain ⟨p, q, hp, hq, hl⟩ := hch.link
  obtain ⟨kp, kp', hkp, hkp', hg, hg', hpkey, hqkey⟩ := hl.keys
  exact ⟨kp, kp', hg, hg', sessionKeys_of_peer hp hpkey hkp, sessionKeys_of_peer hq hqkey hkp'⟩

/-- Over a channel, the receiver opens what the sender seals under the same nonce. -/
lemma Channel.decryptRaw_encryptRaw (hna : env.sodium.Ideal pub) {s : σ} {r : τ}
    (hch : Channel pub s r) (data : List UInt8) (nonce : BoxNonce) :
    ∃ c, encryptRawWithSessionKeys env s data nonce = .ok c ∧
      decryptRawWithSessionKeys env r c nonce = .ok data := by
  obtain ⟨kp, kp', hg, hg', hs, hr⟩ := hch.sessionKeys
  refine ⟨env.sodium.boxSeal data nonce.bytes kp'.publicKey kp.privateKey,
    by simp [encryptRawWithSessionKeys, hs, Except.pure_eq_ok], ?_⟩
  simp [decryptRawWithSessionKeys, hr, hna.boxOpen_boxSeal _ _ kp kp' hg hg', Except.pure_eq_ok]

/-- Over a channel, the receiver reports sequence numbers: the last CSN it accepted from the
sender, which is not above the sender's counter, and is that counter once the receiver has
accepted the CSN the sender last used; and its own counter. -/
lemma Channel.currentPeerSequenceNumbers_of {s : σ} {r : τ} (hch : Channel pub s r) :
    ∃ (p q : Peer) (last : CombinedSequenceSnapshot), getPeer s = some p ∧ getPeer r = some q ∧
      currentPeerSequenceNumbers r =
        some ⟨last.combinedSequenceNumber, q.csnPair.ours.combinedSequenceNumber⟩ ∧
      last.combinedSequenceNumber.toNat ≤ p.csnPair.ours.combinedSequenceNumber.toNat ∧
      (Caught s r → last.combinedSequenceNumber = p.csnPair.ours.combinedSequenceNumber) := by
  obtain ⟨p, q, hp, hq, hl⟩ := hch.link
  obtain ⟨last, hlast, hle⟩ := hl.csn
  refine ⟨p, q, last, hp, hq, by simp [currentPeerSequenceNumbers, hq, hlast], hle, ?_⟩
  rintro ⟨p₁, q₁, last₁, hp₁, hq₁, hlast₁, hnum⟩
  obtain rfl : p = p₁ := Option.some.inj (hp.symm.trans hp₁)
  obtain rfl : q = q₁ := Option.some.inj (hq.symm.trans hq₁)
  obtain rfl : last = last₁ := Option.some.inj (hlast.symm.trans hlast₁)
  exact UInt64.toNat_inj.mp hnum

end Channel

/-! ## Before the peer is established -/

namespace InitiatorSignaling

/-- An initiator has no peer until it enters the task state: the responder is chosen exactly
there. -/
lemma getPeer_eq_none {env : Env} {s : InitiatorSignaling} (hs : Reachable env s)
    (hnt : s.common.signalingState ≠ .task) : Signaling.getPeer s = none := by
  have hchosen := (reachable_inv env hs).chosen
  cases hr : s.responder with
  | none =>
    change s.responder.map ResponderContext.toPeer = none
    rw [hr, Option.map_none]
  | some r => exact absurd (hchosen.mpr (by simp [hr])) hnt

end InitiatorSignaling

namespace ResponderSignaling

open Signaling Handlers

variable {env : Env} {s s' : ResponderSignaling} {actions : List HandleAction}

/-- The responder knows the initiator's session key only once it has handled the initiator's
`key`: past the server handshake, with the initiator's context in `AuthSent` or
`AuthReceived`. -/
def PeerKeyInv (s : ResponderSignaling) : Prop :=
  s.initiator.sessionKey.isSome → s.common.signalingState ≠ .serverHandshake ∧
    (s.initiator.handshakeState = .authSent ∨ s.initiator.handshakeState = .authReceived)

lemma PeerKeyInv.initial (h : Initial env s) : s.PeerKeyInv := by
  obtain ⟨permanentKeypair, initiatorPubkey, authToken, serverPublicPermanentKey, tasks,
    pingInterval, hnew⟩ := h
  simp only [new, Option.bind_eq_bind, Option.bind_eq_some_iff, Option.pure_def,
    Option.some.injEq] at hnew
  obtain ⟨server, -, initiator, hinitiator, rfl⟩ := hnew
  intro hsome
  simp [InitiatorContext.new_sessionKey hinitiator] at hsome

/-- The invariant reads only what the peer handshake reads. -/
lemma PeerKeyInv.of_view (hk : s.PeerKeyInv) (hview : s'.handshakeView = s.handshakeView) :
    s'.PeerKeyInv := by
  simp only [handshakeView, Prod.mk.injEq] at hview
  obtain ⟨hsig, -, hstate, -, hkey⟩ := hview
  intro hsome
  rw [hsig, hstate]
  exact hk (hkey ▸ hsome)

/-- A message of the server keeps the invariant: `server-auth` comes in the server handshake, when
no key of the initiator is known, and stores none; `new-initiator` forgets the key. -/
lemma PeerKeyInv.handleServerMessage {obox : OpenBox Message} {nonceClone : Option Nonce}
    (hi : s.Inv) (hk : s.PeerKeyInv) (h : handleServerMessage env obox nonceClone s = .ok actions s') :
    s'.PeerKeyInv := by
  rcases handleServerMessage_eq_ok env h with ⟨msg, -, -, hhello⟩ |
    ⟨msg, hcis, -, hauth⟩ | ⟨-, ⟨-, hinit⟩ | ⟨msg, -, hresp⟩ | ⟨msg, -, hdisc⟩⟩
  · -- `server-hello` writes the server's context only
    obtain ⟨-, ours, rfl⟩ := EStateM.of_triple (handleServerHello_spec env msg s) rfl hhello
    exact hk
  · -- the server handshake is not done, so no key of the initiator is known yet
    have hcis' : s.common.server.handshakeState = .clientInfoSent := hcis
    have hsig : s.common.signalingState = .serverHandshake := by
      have h := Stage.Inv.serverHandshake_of_ne_done hi (by simp [hcis'])
      simpa using h
    have hnone : s.initiator.sessionKey = none := by
      cases hkey : s.initiator.sessionKey with
      | none => rfl
      | some k => exact absurd hsig (hk (by simp [hkey])).1
    obtain ⟨-, s₁, himpl, -, rfl⟩ :=
      EStateM.of_triple (handleServerAuth_spec env msg nonceClone s) rfl hauth
    have hkey₁ := EStateM.of_triple (handleServerAuthImpl_sessionKey_spec env msg s) rfl himpl
    intro hsome
    simp [hkey₁, hnone] at hsome
  · have hkey := EStateM.of_triple (handleNewInitiator_sessionKey_spec env) trivial hinit
    intro hsome
    simp [hkey] at hsome
  · exact (EStateM.of_triple handleNewResponder_spec trivial hresp).elim
  · rw [EStateM.of_triple (handleDisconnected_spec msg s) rfl hdisc]
    exact hk

/-- The initiator's `key` stores its session key in the peer handshake, and `auth` leaves it as
the context moves on. -/
lemma PeerKeyInv.handlePeerMessage {obox : OpenBox Message}
    (hsig : s.common.signalingState = .peerHandshake) (h : handlePeerMessage env obox s = .ok actions s') :
    s'.PeerKeyInv := by
  rcases handlePeerMessage_eq_ok env h with ⟨msg, -, -, hkey⟩ | ⟨msg, -, -, hauth⟩
  · obtain ⟨-, -, -, -, -, -, hcommon, -, -, hstate⟩ :=
      EStateM.of_triple (handleKey_auth_spec env msg obox.nonce s) rfl hkey
    intro _
    refine ⟨?_, .inl hstate⟩
    rw [hcommon, hsig]
    exact nofun
  · obtain ⟨chosen, -, rfl⟩ := EStateM.of_triple (handleAuth_spec env msg s) rfl hauth
    intro _
    exact ⟨nofun, .inr rfl⟩

/-- Every call of `handle_message` that returns `Ok` keeps the invariant. -/
lemma PeerKeyInv.okStep {bbox : ByteBox} (hi : s.Inv) (hk : s.PeerKeyInv) (h : OkStep env s bbox s') :
    s'.PeerKeyInv := by
  obtain ⟨actions, hrun, -⟩ := h
  rcases RoleInv.handleMessage_view handshakeView (roleInv env) handshakeView_validateNonceDestination
      handshakeView_setPeerWithAddress handshakeView_setServerOurs hi hrun with
    hsame | ⟨s₁, obox, nonceClone, hi₁, hview, hserver⟩ | ⟨s₁, obox, hview, hsig, -, hhandle⟩
  · exact hk.of_view hsame
  · exact PeerKeyInv.handleServerMessage hi₁ (hk.of_view hview) hserver
  · exact PeerKeyInv.handlePeerMessage hsig hhandle

theorem reachable_peerKeyInv (hs : Reachable env s) : s.PeerKeyInv :=
  hs.inv (fun _ h => PeerKeyInv.initial h) fun _ _ _ hreach hk hstep =>
    hk.okStep (reachable_inv env hreach) hstep

/-- The responder always has a peer, the initiator; before it knows the initiator's session key,
the keys of the raw methods are missing. -/
lemma sessionKeys_of_sessionKey_none (h : s.initiator.sessionKey = none) :
    sessionKeys s = .error (.crash "Peer session public key not set") := by
  simp [sessionKeys, getPeer, InitiatorContext.toPeer, h, throw, throwThe, MonadExceptOf.throw]

lemma sessionKeys_ne_noPeer (s : ResponderSignaling) : sessionKeys s ≠ .error .noPeer := by
  cases hk : s.initiator.sessionKey with
  | none =>
    rw [sessionKeys_of_sessionKey_none hk]
    exact nofun
  | some k =>
    rw [sessionKeys_of_peer (p := s.initiator.toPeer) rfl hk rfl]
    exact nofun

end ResponderSignaling

/-- Raw encryption with the session keys. Between two clients with a channel from `s` to `r`, the
bytes the client `s` seals under a nonce of 24 bytes, the client `r` opens under the same nonce.
Either client refuses a nonce of another length with `Crypto("Invalid nonce bytes")`. Before the
peer is established the two roles fail differently: an initiator outside the task state refuses
both with `NoPeer`, but a responder never answers `NoPeer`, since its peer is always the
initiator: until it has handled the initiator's `key` (its context for the initiator neither in
`AuthSent` nor in `AuthReceived`, as through the whole server handshake) it refuses both with
`Crash("Signaling error: Peer session public key not set")`, where the documentation of the trait
methods promises `NoPeer`. -/
theorem raw_session_round_trip {σ τ : Type} [Signaling σ] [Signaling τ] (env : Env)
    (pub : PrivateKey → PublicKey) (hna : env.sodium.Ideal pub) :
    (∀ (s : σ) (r : τ) (data nonce : List UInt8), Channel pub s r → nonce.length = 24 →
      ∃ c, SaltyClient.encryptRawWithSessionKeys env s data nonce = .ok c ∧
        SaltyClient.decryptRawWithSessionKeys env r c nonce = .ok data) ∧
    (∀ (s : σ) (data nonce : List UInt8), nonce.length ≠ 24 →
      SaltyClient.encryptRawWithSessionKeys env s data nonce =
          .error (.crypto "Invalid nonce bytes") ∧
        SaltyClient.decryptRawWithSessionKeys env s data nonce =
          .error (.crypto "Invalid nonce bytes")) ∧
    (∀ (s : InitiatorSignaling) (data nonce : List UInt8), InitiatorSignaling.Reachable env s →
      s.common.signalingState ≠ .task → nonce.length = 24 →
      SaltyClient.encryptRawWithSessionKeys env s data nonce = .error .noPeer ∧
        SaltyClient.decryptRawWithSessionKeys env s data nonce = .error .noPeer) ∧
    (∀ (s : ResponderSignaling) (data nonce : List UInt8),
      SaltyClient.encryptRawWithSessionKeys env s data nonce ≠ .error .noPeer ∧
        SaltyClient.decryptRawWithSessionKeys env s data nonce ≠ .error .noPeer) ∧
    (∀ (s : ResponderSignaling) (data nonce : List UInt8), ResponderSignaling.Reachable env s →
      s.initiator.handshakeState ≠ .authSent → s.initiator.handshakeState ≠ .authReceived →
      nonce.length = 24 →
      SaltyClient.encryptRawWithSessionKeys env s data nonce =
          .error (.crash "Signaling error: Peer session public key not set") ∧
        SaltyClient.decryptRawWithSessionKeys env s data nonce =
          .error (.crash "Signaling error: Peer session public key not set")) := by
  refine ⟨fun s r data nonce hch hlen => ?_, fun s data nonce hlen => ?_,
    fun s data nonce hs hnt hlen => ?_, fun s data nonce => ?_,
    fun s data nonce hs hsent hreceived hlen => ?_⟩
  · obtain ⟨c, henc, hdec⟩ := hch.decryptRaw_encryptRaw env hna data ⟨nonce, hlen⟩
    refine ⟨c, ?_, ?_⟩
    · simp [SaltyClient.encryptRawWithSessionKeys, BoxNonce.fromSlice_of_length hlen, henc]
      rfl
    · simp [SaltyClient.decryptRawWithSessionKeys, BoxNonce.fromSlice_of_length hlen, hdec]
      rfl
  · simp [SaltyClient.encryptRawWithSessionKeys, SaltyClient.decryptRawWithSessionKeys,
      BoxNonce.fromSlice_of_length_ne hlen, throw, throwThe, MonadExceptOf.throw]
  · have hkeys := Signaling.sessionKeys_of_getPeer_none (InitiatorSignaling.getPeer_eq_none hs hnt)
    simp [SaltyClient.encryptRawWithSessionKeys, SaltyClient.decryptRawWithSessionKeys,
      BoxNonce.fromSlice_of_length hlen, Signaling.encryptRawWithSessionKeys,
      Signaling.decryptRawWithSessionKeys, hkeys, Except.mapError, SaltyError.ofSignalingError]
  · exact ⟨SaltyClient.encryptRawWithSessionKeys_ne_noPeer env
      (ResponderSignaling.sessionKeys_ne_noPeer s) data nonce,
      SaltyClient.decryptRawWithSessionKeys_ne_noPeer env
        (ResponderSignaling.sessionKeys_ne_noPeer s) data nonce⟩
  · -- the invariant: the initiator's key is known only in `AuthSent` and `AuthReceived`
    have hnone : s.initiator.sessionKey = none := by
      cases hk : s.initiator.sessionKey with
      | none => rfl
      | some k =>
        rcases (ResponderSignaling.reachable_peerKeyInv hs (by simp [hk])).2 with h | h
        · exact absurd h hsent
        · exact absurd h hreceived
    have hkeys := ResponderSignaling.sessionKeys_of_sessionKey_none hnone
    simp [SaltyClient.encryptRawWithSessionKeys, SaltyClient.decryptRawWithSessionKeys,
      BoxNonce.fromSlice_of_length hlen, Signaling.encryptRawWithSessionKeys,
      Signaling.decryptRawWithSessionKeys, hkeys, Except.mapError, SaltyError.ofSignalingError]

/-- Between an initiator and a responder with a channel each way, after any exchange of task
messages: both report peer sequence numbers; the incoming number of each is not above the
outgoing number of the other; and in each direction that carried a message, the receiver's
incoming number is the sender's outgoing number. The hypotheses are those of
`exchange_delivers`. -/
theorem exchange_sequence_numbers (env : Env) (pub : PrivateKey → PublicKey)
    (hna : env.sodium.Ideal pub) (sends : List (TaskMessage ⊕ TaskMessage))
    (s : InitiatorSignaling) (r : ResponderSignaling)
    (hch : Channel pub s r) (hback : Channel pub r s)
    (hinvs : Stage.Inv .initiator s.common.stage) (hinvr : Stage.Inv .responder r.common.stage)
    (hfirst : ∀ m ∈ sends.filterMap Sum.getLeft?,
      env.msgpack.ReadsBack m ∧ m.Deliverable r.common.taskSupportedTypes)
    (hsecond : ∀ m ∈ sends.filterMap Sum.getRight?,
      env.msgpack.ReadsBack m ∧ m.Deliverable s.common.taskSupportedTypes)
    (hlasts : Signaling.CounterLasts s (sends.filterMap Sum.getLeft?).length)
    (hlastr : Signaling.CounterLasts r (sends.filterMap Sum.getRight?).length) :
    ∃ e, exchange env sends s r = some e ∧ ∃ ns nr,
      Signaling.currentPeerSequenceNumbers e.first = some ns ∧
      Signaling.currentPeerSequenceNumbers e.second = some nr ∧
      nr.incoming.toNat ≤ ns.outgoing.toNat ∧ ns.incoming.toNat ≤ nr.outgoing.toNat ∧
      ((∃ m, Sum.inl m ∈ untilClose sends) → nr.incoming = ns.outgoing) ∧
      ((∃ m, Sum.inr m ∈ untilClose sends) → ns.incoming = nr.outgoing) := by
  obtain ⟨e, he, -, -, hf, hb, hc₁, hc₂⟩ :=
    exchange_delivers_of env InitiatorSignaling.taskRole ResponderSignaling.taskRole hna
      ⟨hch, hback, hinvs, hinvr, hlasts, hlastr⟩ hfirst hsecond
  -- each channel gives the receiver's numbers, in terms of the two records
  obtain ⟨p, q, last, hp, hq, hnr, hle, hcaught⟩ := hf.currentPeerSequenceNumbers_of
  obtain ⟨q', p', last', hq', hp', hns, hle', hcaught'⟩ := hb.currentPeerSequenceNumbers_of
  obtain rfl : p = p' := Option.some.inj (hp.symm.trans hp')
  obtain rfl : q = q' := Option.some.inj (hq.symm.trans hq')
  exact ⟨e, he, _, _, hns, hnr, hle, hle', fun h => hcaught (hc₁ (.inl h)),
    fun h => hcaught' (hc₂ (.inl h))⟩

/-- After a ping each way, the concrete initiator and responder report matching numbers. -/
theorem exchange_sequence_numbers_pings :
    ∃ e, exchange Toy.channelEnv Toy.pings Toy.initiatorInTask Toy.responderInTask = some e ∧
      ∃ ns nr,
      Signaling.currentPeerSequenceNumbers e.first = some ns ∧
      Signaling.currentPeerSequenceNumbers e.second = some nr ∧
      nr.incoming.toNat ≤ ns.outgoing.toNat ∧ ns.incoming.toNat ≤ nr.outgoing.toNat ∧
      ((∃ m, Sum.inl m ∈ untilClose Toy.pings) → nr.incoming = ns.outgoing) ∧
      ((∃ m, Sum.inr m ∈ untilClose Toy.pings) → ns.incoming = nr.outgoing) :=
  exchange_sequence_numbers Toy.channelEnv Toy.pub (Toy.sodium_ideal Toy.pub) Toy.pings _ _
    Toy.initiator_responder_channel Toy.responder_initiator_channel Toy.initiatorInTask_inv
    Toy.responderInTask_inv (by simpa [Toy.pings] using Toy.ping_sendable _)
    (by simpa [Toy.pings] using Toy.ping_sendable _) Toy.initiatorInTask_lasts
    Toy.responderInTask_lasts

/-- Three bytes the concrete initiator seals for the concrete responder, under a nonce of zeros. -/
theorem raw_session_round_trip_toy :
    ∃ c, SaltyClient.encryptRawWithSessionKeys Toy.channelEnv Toy.initiatorInTask [1, 2, 3]
        (List.replicate 24 0) = .ok c ∧
      SaltyClient.decryptRawWithSessionKeys Toy.channelEnv Toy.responderInTask c
        (List.replicate 24 0) = .ok [1, 2, 3] :=
  (raw_session_round_trip Toy.channelEnv Toy.pub (Toy.sodium_ideal Toy.pub)).1 Toy.initiatorInTask
    Toy.responderInTask [1, 2, 3] (List.replicate 24 0) Toy.initiator_responder_channel rfl

end SaltyRtc
