import SaltyRtc.Protocol.Signaling

/-!
# The `Signaling` trait: handling a message

Port of the second half of the `Signaling` trait of `src/protocol/mod.rs`: `handle_message` and
the dispatch below it. The class `Handlers` adds to `Signaling` the methods each role implements
(the destination and source checks of a nonce, the decryption and handling of peer messages, and
the role's reactions to server messages); the functions here are the trait's default methods
built on them.

`handleMessage` runs the four nonce checks in order, then hands the message to the server
handler, the handshake handler or the task handler.
-/

namespace SaltyRtc

/-- The methods each role implements. -/
class Handlers (σ : Type) extends Signaling σ where
  /-- `validate_nonce_destination`. -/
  validateNonceDestination : Nonce → ValidationM σ Unit
  /-- `validate_nonce_source`. -/
  validateNonceSource : Nonce → ValidationM σ Unit
  /-- `decode_peer_message`. -/
  decodePeerMessage : Env → σ → ByteBox → Except SignalingError (OpenBox Message)
  /-- `handle_peer_message`. -/
  handlePeerMessage : Env → OpenBox Message → SignalingM σ (List HandleAction)
  /-- `handle_server_auth_impl`. -/
  handleServerAuthImpl : Env → ServerAuth → SignalingM σ (List HandleAction)
  /-- `handle_new_initiator`. -/
  handleNewInitiator : Env → SignalingM σ (List HandleAction)
  /-- `handle_new_responder`. -/
  handleNewResponder : Env → NewResponder → SignalingM σ (List HandleAction)
  /-- `handle_disconnected`. -/
  handleDisconnected : Disconnected → SignalingM σ (List HandleAction)

/-- The map of a task message: every key must be a string; a repeated key keeps its last value,
as inserting into a `HashMap` does. -/
def taskMessageMap : List (Value × Value) → ValueMap → Except SignalingError ValueMap
  | [], map => .ok map
  | (k, v) :: pairs, map =>
    match k.asStr with
    | some key => taskMessageMap pairs (map.insert key v)
    | none => .error (.invalidMessage "Task message map contains non-hashable key")

namespace Handlers

open Signaling

variable {σ : Type} [Handlers σ] (env : Env)

/-- `validate_nonce`: destination, source, CSN and cookie, in this order. -/
def validateNonce (nonce : Nonce) : ValidationM σ Unit := do
  validateNonceDestination nonce
  validateNonceSource nonce
  validateNonceCsn nonce
  validateNonceCookie nonce

/-- `handle_server_auth`: check the repeated cookie and, if the server's permanent key is known,
the signed keys; then the role's checks; then the server handshake is done. -/
def handleServerAuth (msg : ServerAuth) (nonceClone : Option Nonce) :
    SignalingM σ (List HandleAction) := do
  let s ← get
  if (common s).identity = .unknown then
    throw (crash "No identity assigned when receiving server-auth message")
  liftResult (validateRepeatedCookie msg.yourCookie (common s).server.cookiePair.ours .server)
  match (common s).server.permanentKey with
  | some serverPublicPermanentKey =>
    let some nonce := nonceClone
      | throw (crash "This is a server-auth message, but no nonce clone was passed in")
    let some signedKeys := msg.signedKeys
      | throw (.err (.protocol
          "Server's public permanent key is known, but server did not send signed keys"))
    let decrypted ← liftFault
      (signedKeys.decrypt env.sodium (common s).permanentKeypair serverPublicPermanentKey nonce)
    let some serverPublicSessionKey := (common s).server.sessionKey
      | throw (crash "Server session key not set")
    if decrypted.serverPublicSessionKey ≠ serverPublicSessionKey then
      throw (.err (.protocol "Server public session key sent in `signed_keys` is not valid"))
    if decrypted.clientPublicPermanentKey ≠ (common s).permanentKeypair.publicKey then
      throw (.err (.protocol "Our public permanent key sent in `signed_keys` is not valid"))
  | none => pure ()
  let actions ← handleServerAuthImpl env msg
  modifyCommon fun c => { c with server := { c.server with handshakeState := .done } }
  let s ← get
  let c ← liftResult ((common s).setSignalingState .peerHandshake)
  set (setCommon s c)
  return actions

/-- `handle_server_message`: the transitions of the server handshake. -/
def handleServerMessage (obox : OpenBox Message) (nonceClone : Option Nonce) :
    SignalingM σ (List HandleAction) := do
  let s ← get
  match (common s).server.handshakeState, obox.message with
  | .new, .serverHello msg => handleServerHello env msg
  | .clientInfoSent, .serverAuth msg => handleServerAuth env msg nonceClone
  | .done, .newInitiator => handleNewInitiator env
  | .done, .newResponder msg => handleNewResponder env msg
  | .done, .dropResponder _ =>
    throw (.panic
      "not implemented: TODO (#36): Handling DropResponder messages not yet implemented")
  | .done, .sendError _ => throw (.err .sendError)
  | .done, .disconnected msg => handleDisconnected msg
  | state, message =>
    throw (.err (.invalidStateTransition ("Got '" ++ message.getType ++
      "' message from server in " ++ state.debug ++ " state")))

/-- `handle_handshake_peer_message`: a key message the initiator cannot decrypt drops its
sender. -/
def handleHandshakePeerMessage (bbox : ByteBox) : SignalingM σ (List HandleAction) := do
  if bbox.nonce.source.isServer then
    throw (crash "Message in handle_handshake_peer_message is from server!")
  let s ← get
  let sourceAddress := bbox.nonce.source
  match decodePeerMessage env s bbox with
  | .error .initiatorCouldNotDecrypt =>
    let dropResponder ← sendDropResponder env sourceAddress .initiatorCouldNotDecrypt
    return [dropResponder]
  | .error e => throw (.err e)
  | .ok obox =>
    match (common s).signalingState with
    | .serverHandshake => throw (crash "Illegal signaling state: ServerHandshake")
    | .peerHandshake =>
      if obox.nonce.source.isServer then handleServerMessage env obox none
      else handlePeerMessage env obox
    | .task => throw (crash "Illegal signaling state: Task")

/-- `handle_task_peer_message`: application and close messages are handled here, any other type
the task supports is passed on, and the rest is ignored. -/
def handleTaskPeerMessage (bbox : ByteBox) : SignalingM σ (List HandleAction) := do
  if bbox.nonce.source.isServer then
    throw (crash "Message in handle_task_peer_message is from server!")
  let s ← get
  let obox ← liftResult (decodeTaskMessage env s bbox)
  let map ← match obox.message with
    | .map pairs => liftResult (taskMessageMap pairs ∅)
    | _ => throw (.err (.invalidMessage "Task message is not a map"))
  let some typeValue := map.lookup "type"
    | throw (.err (.invalidMessage "Task message does not contain type field"))
  let some msgType := typeValue.asStr
    | throw (.err (.invalidMessage "Task message type is not a string"))
  if msgType = "application" then
    let some data := map.lookup "data"
      | throw (.err (.invalidMessage "Application message does not contain a data field"))
    return [.taskMessage (.application data)]
  if msgType = "close" then
    let some reason := map.lookup "reason"
      | throw (.err (.invalidMessage "Close message does not contain a reason field"))
    let some val := reason.asU64
      | throw (.err (.invalidMessage "Close message reason is not an integer"))
    if val > (65535 : UInt64) then
      throw (.err (.invalidMessage "Close message reason code is too large"))
    return [.taskMessage (.close (CloseCode.fromNumber val.toUInt16))]
  let some taskSupportedTypes := (common s).taskSupportedTypes
    | throw (crash "Task supported types not set")
  if taskSupportedTypes.any (· == msgType) then
    return [.taskMessage (.value map)]
  return []

/-- Run the nonce checks inside a message handler: a dropped message ends the handling with no
action, a failed or crashed check becomes the corresponding signaling error. -/
def checkNonce (nonce : Nonce) : EStateM (Fault SignalingError) σ Bool := fun s =>
  match validateNonce nonce s with
  | .ok () s' => .ok true s'
  | .error (.err (.dropMsg _)) s' => .ok false s'
  | .error (.err (.fail reason)) s' => .error (.err (.invalidNonce reason)) s'
  | .error (.err (.crash reason)) s' => .error (crash reason) s'
  | .error (.panic m) s' => .error (.panic m) s'

/-- `handle_message`: validate the nonce, then handle a server message (keeping the nonce of a
`server-auth` message to check its signed keys), a handshake message or a task message. -/
def handleMessage (bbox : ByteBox) : SignalingM σ (List HandleAction) := do
  let valid ← checkNonce bbox.nonce
  if !valid then return []
  if bbox.nonce.source.isServer then
    let s ← get
    let obox ← liftResult (decodeServerMessage env s bbox)
    let nonceClone := if obox.message.getType = "server-auth" then some bbox.nonce else none
    handleServerMessage env obox nonceClone
  else
    let s ← get
    match (common s).signalingState with
    | .serverHandshake => handleHandshakePeerMessage env bbox
    | .peerHandshake => handleHandshakePeerMessage env bbox
    | .task => handleTaskPeerMessage env bbox

end Handlers

end SaltyRtc
