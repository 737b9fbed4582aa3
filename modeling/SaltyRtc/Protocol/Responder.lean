import SaltyRtc.Protocol.Handle

/-!
# The responder

Port of `ResponderSignaling` of `src/protocol/mod.rs`: its peers (the server and the one
initiator), its nonce checks, its messages to the initiator (`token`, `key`) and its handlers for
the peer handshake (`key`, `auth`, `close`) and for the server's `server-auth`, `new-initiator`
and `disconnected`.
-/

namespace SaltyRtc

namespace ResponderSignaling

/-- `ResponderSignaling::new`: the auth token, if given, authenticates us; otherwise the
initiator's key is trusted. `none` where creating a context panics. -/
def new (env : Env) (permanentKeypair : KeyPair) (initiatorPubkey : PublicKey)
    (authToken : Option AuthToken) (serverPublicPermanentKey : Option PublicKey) (tasks : Tasks)
    (pingInterval : Option UInt64) : Option ResponderSignaling := do
  let server ← ServerContext.new (env.draw 0)
  let initiator ← InitiatorContext.new (env.draw 1) initiatorPubkey
  pure
    { common :=
        { signalingState := .serverHandshake
          permanentKeypair
          authProvider := some (match authToken with
            | some token => .token token
            | none => .trustedKey initiatorPubkey)
          identity := .unknown
          server := { server with permanentKey := serverPublicPermanentKey }
          tasks := some tasks
          task := none
          taskSupportedTypes := none
          pingInterval }
      initiator
      drawn := 2 }

/-- `get_peer_with_address_mut`: the server or the initiator. -/
def getPeerWithAddressMut (s : ResponderSignaling) (addr : Address) :
    Except String (Option Peer) :=
  match Identity.ofAddress addr with
  | .server => .ok (some s.common.server.toPeer)
  | .initiator => .ok (some s.initiator.toPeer)
  | .responder _ => .ok none

/-- Write back the CSN and cookie pairs of the peer `getPeerWithAddressMut` returns. -/
def setPeerWithAddress (s : ResponderSignaling) (addr : Address) (csnPair : CombinedSequencePair)
    (cookiePair : CookiePair) : ResponderSignaling :=
  match Identity.ofAddress addr with
  | .server => { s with common := { s.common with server := { s.common.server with csnPair, cookiePair } } }
  | .initiator => { s with initiator := { s.initiator with csnPair, cookiePair } }
  | .responder _ => s

/-- The peer at an address, once its pairs are written back, is found again with them. -/
lemma getPeerWithAddressMut_setPeerWithAddress {s : ResponderSignaling} {addr : Address}
    {peer : Peer} (h : getPeerWithAddressMut s addr = .ok (some peer))
    (csnPair : CombinedSequencePair) (cookiePair : CookiePair) :
    getPeerWithAddressMut (setPeerWithAddress s addr csnPair cookiePair) addr =
      .ok (some { peer with csnPair, cookiePair }) := by
  unfold getPeerWithAddressMut at h ⊢
  unfold setPeerWithAddress
  cases hid : Identity.ofAddress addr with
  | server =>
    simp only [hid] at h ⊢
    cases h
    rfl
  | initiator =>
    simp only [hid] at h ⊢
    cases h
    rfl
  | responder a => simp [hid] at h

end ResponderSignaling

instance : Signaling ResponderSignaling where
  role := .responder
  common s := s.common
  setCommon s c := { s with common := c }
  common_setCommon _ _ := rfl
  setCommon_common _ := rfl
  setCommon_setCommon _ _ _ := rfl
  getPeer s := some s.initiator.toPeer
  setPeerCsnPair s p := { s with initiator := { s.initiator with csnPair := p } }
  getPeerWithAddressMut := ResponderSignaling.getPeerWithAddressMut
  setPeerWithAddress := ResponderSignaling.setPeerWithAddress
  getPeerWithAddressMut_setPeerWithAddress _ _ _ csnPair cookiePair h :=
    ResponderSignaling.getPeerWithAddressMut_setPeerWithAddress h csnPair cookiePair

namespace ResponderSignaling

/-! The trait's accessors, as the instance defines them. -/

@[simp] lemma role_eq : Signaling.role ResponderSignaling = .responder := rfl

@[simp] lemma common_eq (s : ResponderSignaling) : Signaling.common s = s.common := rfl

@[simp] lemma setCommon_eq (s : ResponderSignaling) (c : Common) :
    Signaling.setCommon s c = { s with common := c } := rfl

@[simp] lemma getPeerWithAddressMut_eq (s : ResponderSignaling) (addr : Address) :
    Signaling.getPeerWithAddressMut s addr = getPeerWithAddressMut s addr := rfl

@[simp] lemma setPeerWithAddress_eq (s : ResponderSignaling) (addr : Address) (csnPair : CombinedSequencePair)
    (cookiePair : CookiePair) :
    Signaling.setPeerWithAddress s addr csnPair cookiePair =
      setPeerWithAddress s addr csnPair cookiePair := rfl

@[simp] lemma getPeer_eq (s : ResponderSignaling) : Signaling.getPeer s = some s.initiator.toPeer := rfl

@[simp] lemma setPeerCsnPair_eq (s : ResponderSignaling) (p : CombinedSequencePair) :
    Signaling.setPeerCsnPair s p = { s with initiator := { s.initiator with csnPair := p } } := rfl

open Signaling

variable (env : Env)

/-! ## Nonce checks -/

/-- `validate_nonce_destination`: the first message addressed to a responder address after
`server-hello` assigns our identity. -/
def validateNonceDestination (nonce : Nonce) : ValidationM ResponderSignaling Unit := do
  let s ← get
  if s.common.identity = .unknown ∧ nonce.destination.isUnknown = false ∧
      s.common.server.handshakeState ≠ .new then
    if nonce.destination.isResponder then
      set { s with common := { s.common with identity := .responder nonce.destination.val } }
    else
      throw (.err (.fail ("cannot assign address " ++ nonce.destination.display ++
        " to a responder")))
  let s ← get
  let ours ← liftAddress s.common.identity.toAddress
  if nonce.destination ≠ ours then
    throw (.err (.fail ("Bad destination: " ++ nonce.destination.display ++
      " (our identity is " ++ s.common.identity.display ++ ")")))

/-- Whether a client identity is a responder address. -/
def ClientIdentity.isResponder : ClientIdentity → Bool
  | .responder _ => true
  | _ => false

/-- `validate_nonce_source`: the server always, the initiator once we are a responder. -/
def validateNonceSource (nonce : Nonce) : ValidationM ResponderSignaling Unit := do
  let s ← get
  let badSource := "Bad source: " ++ nonce.source.display ++ " (our identity is " ++
    s.common.identity.display ++ ")"
  if nonce.source.val = 0x00 then pure ()
  else if nonce.source.val = 0x01 then
    if ClientIdentity.isResponder s.common.identity then pure ()
    else throw (.err (.dropMsg badSource))
  else throw (.err (.dropMsg badSource))

/-! ## Peer handshake -/

/-- `decode_peer_message`: the initiator's `key` is sealed with the permanent keys, its `auth`
with the session keys. -/
def decodePeerMessage (s : ResponderSignaling) (bbox : ByteBox) :
    Except SignalingError (OpenBox Message) :=
  if !bbox.nonce.source.isInitiator then .error (.crash "Received message from a responder")
  else
    match s.initiator.handshakeState with
    | .keySent =>
      OpenBox.decrypt env.sodium env.msgpack bbox s.common.permanentKeypair s.initiator.permanentKey
    | .authSent =>
      match s.initiator.sessionKey with
      | none => .error (.crash "Initiator session key not set")
      | some sessionKey => OpenBox.decrypt env.sodium env.msgpack bbox s.initiator.keypair sessionKey
    | other => .error (.crash ("Invalid initiator handshake state: " ++ other.debug))

/-- The next nonce towards the initiator (its CSN is written back). -/
def nextInitiatorNonce : SignalingM ResponderSignaling Nonce := do
  let s ← get
  let source ← liftAddress s.common.identity.toAddress
  let destination ← liftAddress s.initiator.toPeer.identity.toAddress
  let (csn, ours) ← liftResult s.initiator.csnPair.ours.increment
  set { s with initiator := { s.initiator with csnPair := { s.initiator.csnPair with ours } } }
  return ⟨s.initiator.cookiePair.ours, source, destination, csn⟩

/-- `send_token`: our permanent public key, sealed with the auth token. -/
def sendToken (token : AuthToken) : SignalingM ResponderSignaling HandleAction := do
  let s ← get
  let msg := Message.token ⟨s.common.permanentKeypair.publicKey⟩
  let nonce ← nextInitiatorNonce
  return .reply (OpenBox.encryptToken env.sodium env.msgpack ⟨msg, nonce⟩ token)

/-- `send_key`: our session public key, sealed with the permanent keys. -/
def sendKey : SignalingM ResponderSignaling HandleAction := do
  let s ← get
  let msg := Message.key ⟨s.initiator.keypair.publicKey⟩
  let nonce ← nextInitiatorNonce
  return .reply (OpenBox.encrypt env.sodium env.msgpack ⟨msg, nonce⟩ s.common.permanentKeypair
    s.initiator.permanentKey)

/-- The `token` (if we hold an auth token, which is used up) and `key` messages that open the
peer handshake, shared by `handle_server_auth_impl` and `handle_new_initiator`. -/
def sendTokenAndKey : SignalingM ResponderSignaling (List HandleAction) := do
  let s ← get
  let token ← match s.common.authProvider with
    | some (.token token) => do
      set { s with common := { s.common with authProvider := none } }
      let t ← sendToken env token
      pure [t]
    | some (.trustedKey _) => pure []
    | none => throw (crash "No auth provider set")
  let key ← sendKey env
  return token ++ [key]

/-- `handle_key`: store the initiator's session key and reply with our `auth`. -/
def handleKey (msg : Key) (nonce : Nonce) : SignalingM ResponderSignaling (List HandleAction) := do
  let s ← get
  if s.initiator.sessionKey.isSome then
    throw (crash "Initiator already has a session key set!")
  if msg.key = s.initiator.permanentKey then
    throw (.err (.protocol "Responder session key and permanent key are equal"))
  set { s with initiator := { s.initiator with
    sessionKey := some msg.key, handshakeState := .keyReceived } }
  let some tasks := s.common.tasks | throw (crash "Tasks are not set")
  let auth ← liftResult (ResponderAuthBuilder.build nonce.cookie tasks)
  let authNonce ← nextInitiatorNonce
  let s ← get
  let some sessionKey := s.initiator.sessionKey | throw (crash "Initiator session key not set")
  let bbox := OpenBox.encrypt env.sodium env.msgpack ⟨.auth auth, authNonce⟩ s.initiator.keypair
    sessionKey
  set { s with initiator := { s.initiator with handshakeState := .authSent } }
  return [.reply bbox]

/-- `handle_auth`: accept the task the initiator chose; the signaling moves to the task state. -/
def handleAuth (msg : Auth) : SignalingM ResponderSignaling (List HandleAction) := do
  let s ← get
  liftResult (validateRepeatedCookie msg.yourCookie s.initiator.cookiePair.ours
    s.initiator.toPeer.identity)
  if msg.tasks.isSome then
    throw (.err (.invalidMessage
      "We're a responder, but the `tasks` field in the auth message is set"))
  let chosenTask ← match msg.task with
    | some task => do
      -- `mem::replace` takes the tasks out of the common data before checking them
      set { s with common := { s.common with tasks := none } }
      let some ourTasks := s.common.tasks | throw (crash "No tasks defined")
      let some chosen := ourTasks.tasks.find? (fun t => t.name = task)
        | throw (.err (.protocol "The `task` field in the auth message contains an unknown task"))
      pure chosen
    | none => throw (.err (.invalidMessage "The `task` field in the auth message is not set"))
  if msg.data.entries.isEmpty then
    throw (.err (.protocol "The `data` field in the auth message is empty"))
  if msg.data.entries.length > 1 then
    throw (.err (.protocol "The `data` field in the auth message contains more than one entry"))
  let some taskData := msg.data.lookup chosenTask.name
    | throw (.err (.protocol
        "The task in the auth message does not have a corresponding data entry"))
  match env.taskInit chosenTask taskData with
  | .error e => throw (.err (.taskInitialization e))
  | .ok () => pure ()
  let chosenTask := { chosenTask with initData := some taskData }
  let s ← get
  set { s with
    common := { s.common with
      taskSupportedTypes := some chosenTask.supportedTypes, task := some chosenTask }
    initiator := { s.initiator with handshakeState := .authReceived } }
  let s ← get
  let c ← liftResult (s.common.setSignalingState .task)
  set { s with common := c }
  return [.handshakeDone]

/-- `handle_peer_handshake_close`: a `close` during the handshake is always an error. -/
def handlePeerHandshakeClose (msg : Close) : SignalingM ResponderSignaling (List HandleAction) :=
  match CloseCode.fromNumber msg.reason with
  | .noSharedTask => throw (.err .noSharedTask)
  | _ => throw (.err (.protocol ("Received unexpected close message with code " ++
      toString msg.reason.toNat ++ " during peer handshake")))

/-- `handle_peer_message`: the transitions of the initiator's handshake. -/
def handlePeerMessage (obox : OpenBox Message) : SignalingM ResponderSignaling (List HandleAction) := do
  let s ← get
  match s.initiator.handshakeState, obox.message with
  | .keySent, .key msg => handleKey env msg obox.nonce
  | .authSent, .auth msg => handleAuth env msg
  | .authSent, .close msg => handlePeerHandshakeClose msg
  | state, message =>
    throw (.err (.invalidStateTransition ("Got " ++ message.getType ++
      " message from initiator in " ++ state.debug ++ " state")))

/-! ## Server messages -/

/-- `handle_server_auth_impl`: if the initiator is connected, open the peer handshake. -/
def handleServerAuthImpl (msg : ServerAuth) : SignalingM ResponderSignaling (List HandleAction) := do
  if msg.responders.isSome then
    throw (.err (.invalidMessage
      "We're a responder, but the `responders` field in the server-auth message is set"))
  match msg.initiatorConnected with
  | some true =>
    let sent ← sendTokenAndKey env
    modify fun s => { s with initiator := { s.initiator with handshakeState := .keySent } }
    return sent ++ [.event (.serverHandshakeDone true)]
  | some false => return [.event (.serverHandshakeDone false)]
  | none => throw (.err (.invalidMessage
      "We're a responder, but the `initiator_connected` field in the server-auth message is not set"))

/-- `handle_new_initiator`: forget the previous initiator and open the peer handshake with the
new one. -/
def handleNewInitiator : SignalingM ResponderSignaling (List HandleAction) := do
  let s ← get
  let some initiator := InitiatorContext.new (env.draw s.drawn) s.initiator.permanentKey
    | throw (.panic Cookie.randomPanic)
  set { s with initiator, drawn := s.drawn + 1 }
  let sent ← sendTokenAndKey env
  modify fun s => { s with initiator := { s.initiator with handshakeState := .keySent } }
  return sent

/-- `handle_new_responder`: only the initiator expects `new-responder`. -/
def handleNewResponder : SignalingM ResponderSignaling (List HandleAction) :=
  throw (.err (.protocol "Received 'new-responder' message as responder"))

/-- `handle_disconnected`. -/
def handleDisconnected (msg : Disconnected) : SignalingM ResponderSignaling (List HandleAction) := do
  if !msg.id.isInitiator then
    throw (.err (.protocol "Received 'disconnected' message with non-initiator id"))
  return [.event (.disconnected msg.id.val)]

end ResponderSignaling

instance : Handlers ResponderSignaling where
  toSignaling := inferInstance
  validateNonceDestination := ResponderSignaling.validateNonceDestination
  validateNonceSource := ResponderSignaling.validateNonceSource
  decodePeerMessage := ResponderSignaling.decodePeerMessage
  handlePeerMessage := ResponderSignaling.handlePeerMessage
  handleServerAuthImpl := ResponderSignaling.handleServerAuthImpl
  handleNewInitiator := ResponderSignaling.handleNewInitiator
  handleNewResponder _ _ := ResponderSignaling.handleNewResponder
  handleDisconnected := ResponderSignaling.handleDisconnected


namespace ResponderSignaling

/-! The role's methods, as the instance defines them. -/

@[simp] lemma validateNonceDestination_eq (nonce : Nonce) :
    Handlers.validateNonceDestination (σ := ResponderSignaling) nonce = validateNonceDestination nonce := rfl

@[simp] lemma validateNonceSource_eq (nonce : Nonce) :
    Handlers.validateNonceSource (σ := ResponderSignaling) nonce = validateNonceSource nonce := rfl

@[simp] lemma decodePeerMessage_eq (env : Env) (s : ResponderSignaling) (bbox : ByteBox) :
    Handlers.decodePeerMessage env s bbox = decodePeerMessage env s bbox := rfl

@[simp] lemma handlePeerMessage_eq (env : Env) (obox : OpenBox Message) :
    Handlers.handlePeerMessage (σ := ResponderSignaling) env obox = handlePeerMessage env obox := rfl

@[simp] lemma handleServerAuthImpl_eq (env : Env) (msg : ServerAuth) :
    Handlers.handleServerAuthImpl (σ := ResponderSignaling) env msg = handleServerAuthImpl env msg := rfl

@[simp] lemma handleNewInitiator_eq (env : Env) :
    Handlers.handleNewInitiator (σ := ResponderSignaling) env = handleNewInitiator env := rfl

@[simp] lemma handleNewResponder_eq (env : Env) (msg : NewResponder) :
    Handlers.handleNewResponder (σ := ResponderSignaling) env msg = handleNewResponder := rfl

@[simp] lemma handleDisconnected_eq (msg : Disconnected) :
    Handlers.handleDisconnected (σ := ResponderSignaling) msg = handleDisconnected msg := rfl

end ResponderSignaling

end SaltyRtc
