import SaltyRtc.Lib.Outcome
import SaltyRtc.Protocol.Context

/-!
# The `Signaling` trait: state access and the shared methods

Port of the first half of the `Signaling` trait of `src/protocol/mod.rs`. The class `Signaling`
holds what each role provides about its state (its common data and its peers); the functions
here are the trait's default methods that need nothing else: the CSN and cookie checks of a
nonce, the decoding of server and task messages, the encoding of task, close and
`drop-responder` messages, and the handling of `server-hello`.

Methods taking `&mut self` run in `SignalingM σ`, where a returned error keeps the mutations done
before it; `&self` methods that only read are plain functions. Incrementing a CSN through the
`RwLock` of a shared reference is a mutation, and is written back.
-/

namespace SaltyRtc

/-- A computation of the signaling code over a state `σ`. -/
abbrev SignalingM (σ : Type) := EStateM (Fault SignalingError) σ

/-- A nonce check over a state `σ`. -/
abbrev ValidationM (σ : Type) := EStateM (Fault ValidationError) σ

/-- `Err(SignalingError::Crash(msg))`. -/
def crash (msg : String) : Fault SignalingError := .err (.crash msg)

/-- Propagate a returned error with `?`. -/
def liftResult {σ α : Type} : Except SignalingError α → SignalingM σ α
  | .ok a => pure a
  | .error e => throw (.err e)

/-- Propagate an error or a panic. -/
def liftFault {σ α : Type} : Except (Fault SignalingError) α → SignalingM σ α
  | .ok a => pure a
  | .error f => throw f

/-- An address conversion that asserts a responder address is above `0x01`. -/
def liftAddress {σ ε : Type} : Option Address → EStateM (Fault ε) σ Address
  | some a => pure a
  | none => throw (.panic "address <= 0x01")

/-- The state a role provides to the `Signaling` trait. -/
class Signaling (σ : Type) where
  /-- The role, fixed by the constructor. -/
  role : Role
  common : σ → Common
  setCommon : σ → Common → σ
  /-- The common data written is the common data read back. -/
  common_setCommon : ∀ (s : σ) (c : Common), common (setCommon s c) = c
  /-- Writing the common data read changes nothing. -/
  setCommon_common : ∀ s : σ, setCommon s (common s) = s
  /-- A second write of the common data replaces the first. -/
  setCommon_setCommon : ∀ (s : σ) (c c' : Common), setCommon (setCommon s c) c' = setCommon s c'
  /-- `get_peer`: the chosen peer, if any. -/
  getPeer : σ → Option Peer
  /-- Write back the CSN pair of the chosen peer. -/
  setPeerCsnPair : σ → CombinedSequencePair → σ
  /-- `get_peer_with_address_mut`; an `error` where an address conversion in it panics. -/
  getPeerWithAddressMut : σ → Address → Except String (Option Peer)
  /-- Write back the CSN and cookie pairs of the peer `get_peer_with_address_mut` returns. -/
  setPeerWithAddress : σ → Address → CombinedSequencePair → CookiePair → σ
  /-- The pairs written back are those of the peer found at that address afterwards. -/
  getPeerWithAddressMut_setPeerWithAddress : ∀ (s : σ) (addr : Address) (peer : Peer)
    (csnPair : CombinedSequencePair) (cookiePair : CookiePair),
    getPeerWithAddressMut s addr = .ok (some peer) →
    getPeerWithAddressMut (setPeerWithAddress s addr csnPair cookiePair) addr =
      .ok (some { peer with csnPair, cookiePair })

namespace Signaling

variable {σ : Type} [Signaling σ] (env : Env)

/-- `common_mut`: change the common data. -/
def modifyCommon (f : Common → Common) : EStateM ε σ Unit :=
  modify fun s => setCommon s (f (common s))

/-! ## Validating a nonce -/

/-- The error when no peer context fits a source address. -/
def missingPeer (nonce : Nonce) : ValidationError :=
  if role σ = .initiator ∧ nonce.source.isResponder then
    -- a message from a responder may still be in flight
    .dropMsg ("Could not find responder with address " ++ nonce.source.display)
  else .crash "Got message from invalid sender that wasn't dropped"

/-- The peer context a nonce's source selects. -/
def peerOf (nonce : Nonce) : ValidationM σ Peer := do
  let s ← get
  match getPeerWithAddressMut s nonce.source with
  | .error m => throw (.panic m)
  | .ok none => throw (.err (missingPeer (σ := σ) nonce))
  | .ok (some peer) => pure peer

/-- `validate_nonce_csn`: the first message of a peer must have overflow number 0, and every
later one a CSN above the last. -/
def validateNonceCsn (nonce : Nonce) : ValidationM σ Unit := do
  let peer ← peerOf nonce
  let s ← get
  match peer.csnPair.theirs with
  | some previous =>
    let current := nonce.csn
    if current < previous then
      throw (.err (.fail ("The " ++ peer.identity.display ++ " CSN is lower than last time")))
    else if current = previous then
      throw (.err (.fail ("The " ++ peer.identity.display ++ " CSN hasn't been incremented")))
    else
      set (setPeerWithAddress s nonce.source { peer.csnPair with theirs := some current }
        peer.cookiePair)
  | none =>
    -- this is the first message from that peer
    if nonce.csn.overflow ≠ 0 then
      throw (.err (.fail ("First message from " ++ peer.identity.display ++
        " must have set the overflow number to 0")))
    set (setPeerWithAddress s nonce.source { peer.csnPair with theirs := some nonce.csn }
      peer.cookiePair)

/-- `validate_nonce_cookie`: the first cookie of a peer must differ from ours and is stored;
every later one must equal it. -/
def validateNonceCookie (nonce : Nonce) : ValidationM σ Unit := do
  let peer ← peerOf nonce
  let s ← get
  match peer.cookiePair.theirs with
  | none =>
    if nonce.cookie = peer.cookiePair.ours then
      throw (.err (.fail ("Cookie from " ++ peer.identity.display ++
        " is identical to our own cookie")))
    else
      set (setPeerWithAddress s nonce.source peer.csnPair
        { peer.cookiePair with theirs := some nonce.cookie })
  | some cookie =>
    if nonce.cookie ≠ cookie then
      throw (.err (.fail ("Cookie from " ++ peer.identity.display ++ " has changed")))

/-- `validate_repeated_cookie`: the cookie echoed in an `auth` message must be ours. -/
def validateRepeatedCookie (repeatedCookie ourCookie : Cookie) (identity : Identity) :
    Except SignalingError Unit :=
  if repeatedCookie ≠ ourCookie then
    .error (.protocol ("Repeated cookie in auth message from " ++ identity.display ++
      " does not match our cookie"))
  else .ok ()

/-! ## Decoding -/

/-- `decode_server_message`: the very first server message is unencrypted. -/
def decodeServerMessage (s : σ) (bbox : ByteBox) : Except SignalingError (OpenBox Message) :=
  if (common s).signalingState = .serverHandshake ∧ (common s).server.handshakeState = .new then
    OpenBox.decode env.msgpack bbox
  else
    match (common s).server.sessionKey with
    | some pubkey => OpenBox.decrypt env.sodium env.msgpack bbox (common s).permanentKeypair pubkey
    | none => .error (.crash "Missing server session key")

/-- `decode_task_message`: decrypt with the session keys of the chosen peer. -/
def decodeTaskMessage (s : σ) (bbox : ByteBox) : Except SignalingError (OpenBox Value) :=
  match getPeer s with
  | none => .error (.crash "Peer not set")
  | some peer =>
    match peer.sessionKey with
    | none => .error (.crash "Peer session key not set")
    | some sessionKey =>
      match peer.keypair with
      | none => .error (.crash "Peer session keypair not available")
      | some kp => OpenBox.decryptValue env.sodium env.msgpack bbox kp sessionKey

/-! ## Encoding -/

/-- `encode_task_message`: encrypt a value for the chosen peer, in task state only. -/
def encodeTaskMessage (value : Value) : SignalingM σ ByteBox := do
  let s ← get
  let state := (common s).signalingState
  if state ≠ .task then
    throw (crash ("Called encode_task_message in state " ++ state.debug))
  let some peer := getPeer s | throw (crash "Peer not set")
  let source ← liftAddress (common s).identity.toAddress
  let destination ← liftAddress peer.identity.toAddress
  let (csn, ours) ← liftResult peer.csnPair.ours.increment
  set (setPeerCsnPair s { peer.csnPair with ours })
  let nonce : Nonce := ⟨peer.cookiePair.ours, source, destination, csn⟩
  let some kp := peer.keypair | throw (crash "Session keypair not available")
  let some sessionKey := peer.sessionKey | throw (crash "Peer session key not set")
  return OpenBox.encryptValue env.sodium env.msgpack ⟨value, nonce⟩ kp sessionKey

/-- `encode_close_message`: encrypt a `close` message for `peerCtx` (during the handshake) or
for the chosen peer (in task state). Our CSN towards a given `peerCtx` lives in that context,
which the caller owns, so only the chosen peer's CSN is written back. -/
def encodeCloseMessage (reason : CloseCode) (peerCtx : Option Peer) : SignalingM σ ByteBox := do
  let s ← get
  let peer ← match peerCtx with
    | some p => pure p
    | none => do
      let state := (common s).signalingState
      if state ≠ .task then
        throw (crash ("Called encode_close_message in state " ++ state.debug))
      match getPeer s with
      | some p => pure p
      | none => throw (crash "Peer not set")
  let source ← liftAddress (common s).identity.toAddress
  let destination ← liftAddress peer.identity.toAddress
  let (csn, ours) ← liftResult peer.csnPair.ours.increment
  if peerCtx.isNone then set (setPeerCsnPair s { peer.csnPair with ours })
  let nonce : Nonce := ⟨peer.cookiePair.ours, source, destination, csn⟩
  let msg := Message.close (Close.fromCloseCode reason)
  let some kp := peer.keypair | throw (crash "Session keypair not available")
  let some sessionKey := peer.sessionKey | throw (crash "Peer session key not set")
  return OpenBox.encrypt env.sodium env.msgpack ⟨msg, nonce⟩ kp sessionKey

/-- The next nonce towards the server: our server cookie, our identity, the server address and
the incremented server CSN (which is written back). -/
def nextServerNonce : SignalingM σ Nonce := do
  let s ← get
  let source ← liftAddress (common s).identity.toAddress
  let destination ← liftAddress Identity.server.toAddress
  let (csn, ours) ← liftResult (common s).server.csnPair.ours.increment
  modifyCommon fun c => { c with server := { c.server with csnPair := { c.server.csnPair with ours } } }
  return ⟨(common s).server.cookiePair.ours, source, destination, csn⟩

/-- `send_drop_responder`: a `drop-responder` message to the server. -/
def sendDropResponder (addr : Address) (reason : DropReason) : SignalingM σ HandleAction := do
  if role σ ≠ .initiator then
    throw (crash "Non-initiator should never need to encode a DropResponder message")
  let drop := Message.dropResponder (DropResponder.withReason addr reason)
  let dropNonce ← nextServerNonce
  let s ← get
  let some sessionKey := (common s).server.sessionKey | throw (crash "Server session key not set")
  return .reply (OpenBox.encrypt env.sodium env.msgpack ⟨drop, dropNonce⟩
    (common s).permanentKeypair sessionKey)

/-- The subprotocol announced in `client-auth`. -/
def subprotocol : String := "v1.saltyrtc.org"

/-- `handle_server_hello`: store the server session key, reply with `client-hello` (responder
only) and `client-auth`. -/
def handleServerHello (msg : ServerHello) : SignalingM σ (List HandleAction) := do
  let s ← get
  if (common s).server.sessionKey.isSome then
    throw (.err (.protocol "Got a server-hello message, but server session key is already set"))
  modifyCommon fun c => { c with server := { c.server with sessionKey := some msg.key } }
  let hello ← if role σ = .responder then do
      let clientHello := Message.clientHello ⟨(common s).permanentKeypair.publicKey⟩
      let clientHelloNonce ← nextServerNonce
      pure [HandleAction.reply (OpenBox.encode env.msgpack ⟨clientHello, clientHelloNonce⟩)]
    else pure []
  -- a ping interval above `u32::MAX` seconds is truncated to it
  let pingInterval : UInt32 :=
    match (common s).pingInterval with
    | some secs => if secs > (4294967295 : UInt64) then 4294967295 else secs.toUInt32
    | none => 0
  let s ← get
  let some yourCookie := (common s).server.cookiePair.theirs
    | throw (.panic "called `Option::unwrap()` on a `None` value")
  let clientAuth := Message.clientAuth
    ⟨yourCookie, [subprotocol], pingInterval, (common s).server.permanentKey⟩
  let clientAuthNonce ← nextServerNonce
  let s ← get
  let some pubkey := (common s).server.sessionKey | throw (crash "Missing server permanent key")
  let auth := HandleAction.reply (OpenBox.encrypt env.sodium env.msgpack
    ⟨clientAuth, clientAuthNonce⟩ (common s).permanentKeypair pubkey)
  modifyCommon fun c => { c with server := { c.server with handshakeState := .clientInfoSent } }
  return hello ++ [auth]

end Signaling

end SaltyRtc
