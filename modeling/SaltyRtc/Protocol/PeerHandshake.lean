import SaltyRtc.Protocol.Validation

/-!
# Faults of the peer handshake

Three behaviours of the handshake code of `src/protocol/mod.rs`, each stated for every state
where it applies and then shown on a run of the concrete environment that reaches it:

* a `key` message the initiator cannot decrypt makes it send `drop-responder` for the sender,
  but the sender's context stays in the list of responders;
* a responder whose auth token was used up by `server-auth` crashes when the server announces a
  new initiator;
* a context whose random sequence number is `0xffffffff` sends its first message with overflow
  number 1, which the receiver's CSN check refuses.
-/

namespace SaltyRtc

open Signaling

/-! ## Dropping a responder whose key message cannot be opened -/

namespace InitiatorSignaling

/-- `send_drop_responder` at the initiator: a `drop-responder` message under the next server
nonce, which is written back. -/
lemma sendDropResponder_apply (env : Env) (addr : Address) (reason : DropReason)
    {s : InitiatorSignaling} {k : PublicKey} {csn : CombinedSequenceSnapshot}
    {ours : CombinedSequence} (hid : s.common.identity = .initiator)
    (hkey : s.common.server.sessionKey = some k)
    (hinc : s.common.server.csnPair.ours.increment = .ok (csn, ours)) :
    sendDropResponder env addr reason s =
      .ok (.reply (OpenBox.encrypt env.sodium env.msgpack
          ⟨.dropResponder (DropResponder.withReason addr reason),
            ⟨s.common.server.cookiePair.ours, ⟨1⟩, ⟨0⟩, csn⟩⟩
          s.common.permanentKeypair k))
        { s with common := { s.common with server := { s.common.server with
          csnPair := { s.common.server.csnPair with ours } } } } := by
  simp [sendDropResponder, nextServerNonce, hid, hkey, hinc, liftAddress,
    ClientIdentity.toAddress, Identity.toAddress, modifyCommon, liftResult]

end InitiatorSignaling

/-- A `key` message that the initiator cannot open, from a responder whose token it has (or
whose key it trusts), is answered by `drop-responder` for that responder; only the server CSN
changes, so the responder's context stays in `responders`. -/
lemma handleHandshakePeerMessage_undecryptable (env : Env) {s : InitiatorSignaling}
    {bbox : ByteBox} {r : ResponderContext} {pk k : PublicKey} {csn : CombinedSequenceSnapshot}
    {ours : CombinedSequence} (hsrc : bbox.nonce.source.isResponder)
    (hlookup : s.responders.lookup bbox.nonce.source = some r)
    (hstate : r.handshakeState = .tokenReceived) (hpk : r.permanentKey = some pk)
    (hopen : env.sodium.boxOpen bbox.bytes bbox.nonce.intoBytes pk
      s.common.permanentKeypair.privateKey = none)
    (hid : s.common.identity = .initiator) (hkey : s.common.server.sessionKey = some k)
    (hinc : s.common.server.csnPair.ours.increment = .ok (csn, ours)) :
    Handlers.handleHandshakePeerMessage env bbox s =
      .ok [.reply (OpenBox.encrypt env.sodium env.msgpack
          ⟨.dropResponder (DropResponder.withReason bbox.nonce.source .initiatorCouldNotDecrypt),
            ⟨s.common.server.cookiePair.ours, ⟨1⟩, ⟨0⟩, csn⟩⟩
          s.common.permanentKeypair k)]
        { s with common := { s.common with server := { s.common.server with
          csnPair := { s.common.server.csnPair with ours } } } } := by
  have hdecode : InitiatorSignaling.decodePeerMessage env s bbox = .error .initiatorCouldNotDecrypt := by
    simp [InitiatorSignaling.decodePeerMessage, hsrc, hlookup, hstate, hpk, OpenBox.decrypt,
      KeyPair.decrypt, hopen]
  simp [Handlers.handleHandshakePeerMessage, Address.isServer_of_isResponder hsrc, hdecode,
    InitiatorSignaling.sendDropResponder_apply env _ _ hid hkey hinc]

/-- The initiator of the concrete run that trusts the responder's key, after `server-hello` and
the `server-auth` that reports responder `0x02`. -/
def Toy.initiatorAfterServerAuth : InitiatorSignaling :=
  (handleAll Toy.initiatorEnv [Toy.helloBox, Toy.initiatorAuthBox] (Toy.initiator true)).state

/-- A `key` message from `0x02` to `0x01` with valid nonce fields and a payload that does not
open. -/
def Toy.undecryptableKeyBox : ByteBox := ⟨[9], ⟨Toy.cookie 77, ⟨2⟩, ⟨1⟩, ⟨0, 1⟩⟩⟩

/-- The run that shows it: an initiator trusting the responder's key learns of responder `0x02`
from `server-auth`; an unreadable `key` message from `0x02` passes the nonce checks, and the
initiator answers with `drop-responder` for `0x02` but keeps its context. -/
theorem undecryptable_key_keeps_responder :
    InitiatorSignaling.Reachable Toy.initiatorEnv Toy.initiatorAfterServerAuth ∧
      Handlers.handleMessage Toy.initiatorEnv Toy.undecryptableKeyBox Toy.initiatorAfterServerAuth =
        .ok [.reply (OpenBox.encrypt Toy.sodium (Toy.msgpack Toy.messages [])
            ⟨.dropResponder (DropResponder.withReason ⟨2⟩ .initiatorCouldNotDecrypt),
              ⟨Toy.cookie 10, ⟨1⟩, ⟨0⟩, ⟨0, 3⟩⟩⟩ (Toy.keyPair 1) (Toy.publicKey 100))]
          (Handlers.handleMessage Toy.initiatorEnv Toy.undecryptableKeyBox
            Toy.initiatorAfterServerAuth).state ∧
      (⟨2⟩ : Address) ∈ Toy.initiatorAfterServerAuth.responders ∧
      (⟨2⟩ : Address) ∈ (Handlers.handleMessage Toy.initiatorEnv Toy.undecryptableKeyBox
        Toy.initiatorAfterServerAuth).state.responders := by
  -- the nonce checks pass, in the peer handshake
  set s₁ := (Handlers.validateNonce Toy.undecryptableKeyBox.nonce Toy.initiatorAfterServerAuth).state
  have hvalid : Handlers.validateNonce Toy.undecryptableKeyBox.nonce Toy.initiatorAfterServerAuth =
      .ok () s₁ := EStateM.Result.eq_ok_of_ok? (by decide +kernel)
  have hmsg := Handlers.handleMessage_of_validateNonce_peer Toy.initiatorEnv hvalid rfl
    (by decide +kernel)
  -- the context of `0x02` trusts the responder's key, under which the payload does not open
  obtain ⟨r, hr⟩ : ∃ r, s₁.responders.lookup ⟨2⟩ = some r :=
    Option.isSome_iff_exists.mp (by decide +kernel)
  have hstate : r.handshakeState = .tokenReceived := by
    have h : (s₁.responders.lookup ⟨2⟩).map ResponderContext.handshakeState =
        some .tokenReceived := by decide +kernel
    simpa [hr] using h
  have hpk : r.permanentKey = some (Toy.publicKey 2) := by
    have h : (s₁.responders.lookup ⟨2⟩).bind ResponderContext.permanentKey =
        some (Toy.publicKey 2) := by decide +kernel
    simpa [hr] using h
  have hsrc : Toy.undecryptableKeyBox.nonce.source.isResponder := by decide
  have hopen : Toy.sodium.boxOpen Toy.undecryptableKeyBox.bytes Toy.undecryptableKeyBox.nonce.intoBytes
      (Toy.publicKey 2) s₁.common.permanentKeypair.privateKey = none := by decide +kernel
  have hkey : s₁.common.server.sessionKey = some (Toy.publicKey 100) := by decide +kernel
  have hinc : s₁.common.server.csnPair.ours.increment = .ok (⟨0, 3⟩, ⟨0, 3⟩) := by decide +kernel
  have hrun := handleHandshakePeerMessage_undecryptable Toy.initiatorEnv hsrc hr hstate hpk hopen
    (by decide +kernel) hkey hinc
  refine ⟨reachable_handleAll _ _ (.init (Toy.initiator_initial true)) (by decide +kernel), ?_,
    by decide +kernel, ?_⟩
  · -- the reply is under our cookie for the server and our permanent key pair
    have hcookie : s₁.common.server.cookiePair.ours = Toy.cookie 10 := by decide +kernel
    have hkp : s₁.common.permanentKeypair = Toy.keyPair 1 := by decide +kernel
    rw [hmsg, hrun, hcookie, hkp]
    rfl
  · -- only the server's CSN changes: the context of `0x02` stays
    rw [hmsg, hrun]
    show (⟨2⟩ : Address) ∈ s₁.responders
    exact AList.lookup_isSome.mp (by rw [hr]; rfl)

/-! ## A token message that cannot be opened -/

/-- A `token` message that the initiator cannot open with its auth token, from a responder whose
context is `New`, makes the call fail with the decoding error of `decrypt_token`: only the `key`
branch of `decode_peer_message` turns a decoding error into `InitiatorCouldNotDecrypt`, so no
`drop-responder` is sent and the state is left as it was. -/
lemma handleHandshakePeerMessage_undecryptable_token (env : Env) {s : InitiatorSignaling}
    {bbox : ByteBox} {r : ResponderContext} {t : AuthToken} (hsrc : bbox.nonce.source.isResponder)
    (hlookup : s.responders.lookup bbox.nonce.source = some r)
    (hstate : r.handshakeState = .new) (hauth : s.common.authProvider = some (.token t))
    (hopen : env.sodium.secretboxOpen bbox.bytes bbox.nonce.intoBytes t.key = none) :
    Handlers.handleHandshakePeerMessage env bbox s =
      .error (.err (.decode ("Cannot decode message payload: " ++
        (SignalingError.crypto "Could not decrypt data").display))) s := by
  have hdecode : InitiatorSignaling.decodePeerMessage env s bbox =
      .error (.decode ("Cannot decode message payload: " ++
        (SignalingError.crypto "Could not decrypt data").display)) := by
    simp [InitiatorSignaling.decodePeerMessage, hsrc, hlookup, hstate, hauth, OpenBox.decryptToken,
      AuthToken.decrypt, hopen]
  simp [Handlers.handleHandshakePeerMessage, Address.isServer_of_isResponder hsrc, hdecode]

/-- The initiator of the concrete run with auth token 3, after `server-hello` and the
`server-auth` that reports responder `0x02`. -/
def Toy.tokenInitiatorAfterServerAuth : InitiatorSignaling :=
  (handleAll Toy.initiatorEnv [Toy.helloBox, Toy.initiatorAuthBox] (Toy.initiator false)).state

/-- The run that shows it: the context of responder `0x02` expects a token; a message from
`0x02` that does not open under the token passes the nonce checks, and `handle_message` returns
the decoding error instead of a `drop-responder`, which ends the initiator's connection. -/
theorem undecryptable_token_aborts_initiator :
    InitiatorSignaling.Reachable Toy.initiatorEnv Toy.tokenInitiatorAfterServerAuth ∧
      (Toy.tokenInitiatorAfterServerAuth.responders.lookup ⟨2⟩).map
        ResponderContext.handshakeState = some .new ∧
      Handlers.validateNonce Toy.undecryptableKeyBox.nonce Toy.tokenInitiatorAfterServerAuth =
        .ok () (Handlers.validateNonce Toy.undecryptableKeyBox.nonce
          Toy.tokenInitiatorAfterServerAuth).state ∧
      Handlers.handleMessage Toy.initiatorEnv Toy.undecryptableKeyBox
          Toy.tokenInitiatorAfterServerAuth =
        .error (.err (.decode ("Cannot decode message payload: " ++
            (SignalingError.crypto "Could not decrypt data").display)))
          (Handlers.handleMessage Toy.initiatorEnv Toy.undecryptableKeyBox
            Toy.tokenInitiatorAfterServerAuth).state := by
  -- the nonce checks pass, in the peer handshake
  set s₁ := (Handlers.validateNonce Toy.undecryptableKeyBox.nonce Toy.tokenInitiatorAfterServerAuth).state
  have hvalid : Handlers.validateNonce Toy.undecryptableKeyBox.nonce
      Toy.tokenInitiatorAfterServerAuth = .ok () s₁ := EStateM.Result.eq_ok_of_ok? (by decide +kernel)
  have hmsg := Handlers.handleMessage_of_validateNonce_peer Toy.initiatorEnv hvalid rfl
    (by decide +kernel)
  -- the context of `0x02` is `New`, and the payload does not open under the auth token
  obtain ⟨r, hr⟩ : ∃ r, s₁.responders.lookup ⟨2⟩ = some r :=
    Option.isSome_iff_exists.mp (by decide +kernel)
  have hstate : r.handshakeState = .new := by
    have h : (s₁.responders.lookup ⟨2⟩).map ResponderContext.handshakeState = some .new := by
      decide +kernel
    simpa [hr] using h
  have hsrc : Toy.undecryptableKeyBox.nonce.source.isResponder := by decide
  have hauth : s₁.common.authProvider = some (.token (Toy.authToken 3)) := by decide +kernel
  have hopen : Toy.sodium.secretboxOpen Toy.undecryptableKeyBox.bytes
      Toy.undecryptableKeyBox.nonce.intoBytes (Toy.authToken 3).key = none := by decide +kernel
  have hrun := handleHandshakePeerMessage_undecryptable_token Toy.initiatorEnv hsrc hr hstate hauth
    hopen
  refine ⟨reachable_handleAll _ _ (.init (Toy.initiator_initial false)) (by decide +kernel),
    by decide +kernel, hvalid, ?_⟩
  rw [hmsg, hrun]
  rfl

/-! ## A used-up auth token -/

/-- A responder without an auth provider crashes on `new-initiator`, after replacing the
initiator's context by a fresh one. -/
lemma handleNewInitiator_of_authProvider_none (env : Env) {s : ResponderSignaling}
    (hauth : s.common.authProvider = none)
    (hcookie : Cookie.random (env.draw s.drawn).cookie = some (env.draw s.drawn).cookie) :
    ResponderSignaling.handleNewInitiator env s = .error (crash "No auth provider set")
      { s with
        initiator := ⟨.new, s.initiator.permanentKey, none, (env.draw s.drawn).keypair,
          CombinedSequencePair.new (env.draw s.drawn).sequence, ⟨(env.draw s.drawn).cookie, none⟩⟩
        drawn := s.drawn + 1 } := by
  simp [ResponderSignaling.handleNewInitiator, ResponderSignaling.sendTokenAndKey,
    InitiatorContext.new, hcookie, hauth]

/-- In the server handshake state `Done`, `new-initiator` goes to `handle_new_initiator`. -/
lemma Handlers.handleServerMessage_newInitiator {σ : Type} [Handlers σ] (env : Env)
    (nonce : Nonce) (nonceClone : Option Nonce) {s : σ}
    (hstate : (common s).server.handshakeState = .done) :
    Handlers.handleServerMessage env ⟨.newInitiator, nonce⟩ nonceClone s =
      Handlers.handleNewInitiator env s := by
  simp only [Handlers.handleServerMessage, EStateM.bind_apply, EStateM.get_apply, hstate]

/-- The run that shows it: a responder with an auth token gets `server-hello` and `server-auth`
with the initiator connected, and sends `token` and `key`, which uses the token up; when the
initiator reconnects, `new-initiator` makes `handle_message` crash. -/
theorem newInitiator_after_token_crashes :
    let env := Toy.responderEnv fun _ => 1
    let s := (handleAll env [Toy.helloBox, Toy.responderAuthBox] (Toy.responder false fun _ => 1)).state
    ResponderSignaling.Reachable env s ∧
      Handlers.handleMessage env Toy.newInitiatorBox s =
        .error (crash "No auth provider set") (Handlers.handleMessage env Toy.newInitiatorBox s).state := by
  intro env s
  -- the nonce checks pass, and the box opens to `new-initiator` after the server handshake
  set s₁ := (Handlers.validateNonce Toy.newInitiatorBox.nonce s).state
  have hvalid : Handlers.validateNonce Toy.newInitiatorBox.nonce s = .ok () s₁ :=
    EStateM.Result.eq_ok_of_ok? (by decide +kernel)
  have hdecode : decodeServerMessage env s₁ Toy.newInitiatorBox =
      .ok ⟨.newInitiator, Toy.newInitiatorBox.nonce⟩ := by decide +kernel
  have hroute := Handlers.handleMessage_of_validateNonce_server env hvalid rfl hdecode
  have hdone : (Signaling.common s₁).server.handshakeState = .done := by decide +kernel
  have hserver := Handlers.handleServerMessage_newInitiator env Toy.newInitiatorBox.nonce none hdone
  -- `server-auth` used the token up
  have hrun : Handlers.handleNewInitiator env s₁ = _ :=
    handleNewInitiator_of_authProvider_none env (by decide +kernel) (by decide +kernel)
  refine ⟨reachable_handleAll _ _ (.init (Toy.responder_initial false _)) (by decide +kernel), ?_⟩
  rw [hroute, if_neg (by decide), hserver, hrun]
  rfl

/-! ## The first CSN of a context

The first message to a context carries the random start of its sequence plus one, which has
overflow number 1 when the start is `0xffffffff`. -/

/-- The responder's sequences of the concrete runs: `0xffffffff` for the initiator's context
(the second draw), 1 for every other. -/
def wrappingSequence (n : Nat) : UInt32 := if n = 1 then 0xFFFFFFFF else 1

/-- The `key` message of that responder: its session key (draw 1), sealed with the permanent
keys, from `0x02` to `0x01` with its cookie for the initiator and CSN overflow 1, sequence 0. -/
def wrappedKeyBox : ByteBox :=
  OpenBox.encrypt Toy.sodium (Toy.msgpack Toy.messages [])
    ⟨.key ⟨Toy.publicKey 21⟩, ⟨Toy.cookie 21, ⟨2⟩, ⟨1⟩, ⟨1, 0⟩⟩⟩ (Toy.keyPair 2) (Toy.publicKey 1)

/-- The run of a responder that trusts the initiator's key, and whose context for the initiator
starts its sequence at `0xffffffff`: `server-auth` with the initiator connected makes it send
`key`, its first message to the initiator, with overflow number 1. -/
theorem first_key_has_overflow_one :
    let env := Toy.responderEnv wrappingSequence
    let s := (handleAll env [Toy.helloBox] (Toy.responder true wrappingSequence)).state
    ResponderSignaling.Reachable env s ∧
      s.initiator.csnPair.ours = CombinedSequence.random 0xFFFFFFFF ∧
      Handlers.handleMessage env Toy.responderAuthBox s =
        .ok [.reply wrappedKeyBox, .event (.serverHandshakeDone true)]
          (Handlers.handleMessage env Toy.responderAuthBox s).state ∧
      wrappedKeyBox.nonce.csn.overflow = 1 := by
  intro env s
  exact ⟨reachable_handleAll _ _ (.init (Toy.responder_initial true _)) (by decide +kernel),
    by decide +kernel, EStateM.Result.eq_ok_of_ok? (by decide +kernel), rfl⟩

/-- The initiator of the concrete run, trusting the responder's key and told of `0x02` by
`server-auth`, refuses that `key` message: its CSN check wants overflow number 0 from a new
peer, and the handshake ends in an error. -/
theorem wrapped_key_refused :
    InitiatorSignaling.Reachable Toy.initiatorEnv Toy.initiatorAfterServerAuth ∧
      Handlers.handleMessage Toy.initiatorEnv wrappedKeyBox Toy.initiatorAfterServerAuth =
        .error (.err (.invalidNonce
          "First message from responder 0x02 must have set the overflow number to 0"))
          (Handlers.handleMessage Toy.initiatorEnv wrappedKeyBox Toy.initiatorAfterServerAuth).state :=
  ⟨reachable_handleAll _ _ (.init (Toy.initiator_initial true)) (by decide +kernel),
    EStateM.Result.eq_error_of_error? (by decide +kernel)⟩

end SaltyRtc
