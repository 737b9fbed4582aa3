import Mathlib
import SaltyRtc.Lib.AList
import SaltyRtc.Protocol.Handle

/-!
# The initiator

Port of `InitiatorSignaling` of `src/protocol/mod.rs`: its peers (the server, the responders it
knows, and the responder it chose), its nonce checks, and its handlers for the peer handshake
(`token`, `key`, `auth`) and for the server's `server-auth`, `new-responder` and `disconnected`.

The responders live in an `AList` keyed by address, whose entry order stands for the unspecified
iteration order of the `HashMap`; the `HashSet` built from the `responders` field of
`server-auth` is iterated in `Env.setOrder`.
-/

namespace SaltyRtc

/-- A responder context's identity converts back to its own address. -/
lemma ResponderContext.eq_address_of_toAddress {r : ResponderContext} {a : Address}
    (h : r.toPeer.identity.toAddress = some a) : a = r.address := by
  simp only [toPeer, Identity.toAddress] at h
  split_ifs at h
  cases h
  rfl

namespace InitiatorSignaling

/-- `InitiatorSignaling::new`, with the auth token it generates when no responder is trusted;
`none` where creating the server context panics. -/
def new (env : Env) (permanentKeypair : KeyPair) (tasks : Tasks)
    (responderTrustedPubkey serverPublicPermanentKey : Option PublicKey)
    (pingInterval : Option UInt64) (token : AuthToken) : Option InitiatorSignaling :=
  (ServerContext.new (env.draw 0)).map fun server =>
    { common :=
        { signalingState := .serverHandshake
          permanentKeypair
          authProvider := some (match responderTrustedPubkey with
            | some key => .trustedKey key
            | none => .token token)
          identity := .unknown
          server := { server with permanentKey := serverPublicPermanentKey }
          tasks := some tasks
          task := none
          taskSupportedTypes := none
          pingInterval }
      responders := ∅
      responder := none
      responderCounter := 0
      drawn := 1 }

/-- `get_peer_with_address_mut`: the server, or a responder; once a responder is chosen (task
state) only that one. -/
def getPeerWithAddressMut (s : InitiatorSignaling) (addr : Address) :
    Except String (Option Peer) :=
  match Identity.ofAddress addr with
  | .server => .ok (some s.common.server.toPeer)
  | .initiator => .ok none
  | .responder _ =>
    if s.common.signalingState = .task then
      match s.responder with
      | some r =>
        match r.toPeer.identity.toAddress with
        | some peerAddr => .ok (if peerAddr = addr then some r.toPeer else none)
        | none => .error "address <= 0x01"
      | none => .ok none
    else .ok ((s.responders.lookup addr).map ResponderContext.toPeer)

/-- Write back the CSN and cookie pairs of the peer `getPeerWithAddressMut` returns. -/
def setPeerWithAddress (s : InitiatorSignaling) (addr : Address) (csnPair : CombinedSequencePair)
    (cookiePair : CookiePair) : InitiatorSignaling :=
  match Identity.ofAddress addr with
  | .server => { s with common := { s.common with server := { s.common.server with csnPair, cookiePair } } }
  | .initiator => s
  | .responder _ =>
    if s.common.signalingState = .task then
      { s with responder := s.responder.map fun r =>
          if r.address = addr then { r with csnPair, cookiePair } else r }
    else
      match s.responders.lookup addr with
      | some r => { s with responders := s.responders.replace addr { r with csnPair, cookiePair } }
      | none => s

/-- The peer at an address, once its pairs are written back, is found again with them. -/
lemma getPeerWithAddressMut_setPeerWithAddress {s : InitiatorSignaling} {addr : Address}
    {peer : Peer} (h : getPeerWithAddressMut s addr = .ok (some peer))
    (csnPair : CombinedSequencePair) (cookiePair : CookiePair) :
    getPeerWithAddressMut (setPeerWithAddress s addr csnPair cookiePair) addr =
      .ok (some { peer with csnPair, cookiePair }) := by
  unfold getPeerWithAddressMut at h ⊢
  unfold setPeerWithAddress
  cases hid : Identity.ofAddress addr with
  | server =>
    simp only [hid] at h ⊢
    cases h
    rfl
  | initiator => simp [hid] at h
  | responder a =>
    simp only [hid] at h ⊢
    by_cases ht : s.common.signalingState = .task
    · simp only [ht, if_true] at h ⊢
      cases hr : s.responder with
      | none => simp [hr] at h
      | some r =>
        simp only [hr] at h
        cases ha : r.toPeer.identity.toAddress with
        | none => simp [ha] at h
        | some pa =>
          have hpa : pa = r.address := ResponderContext.eq_address_of_toAddress ha
          simp only [ha] at h
          by_cases hpe : pa = addr
          · simp only [hpe, if_true, Except.ok.injEq, Option.some.injEq] at h
            subst h
            have hra : r.address = addr := hpa ▸ hpe
            have hid' : ({ r with csnPair, cookiePair } : ResponderContext).toPeer.identity.toAddress =
                some pa := ha
            rw [Option.map_some, if_pos hra]
            dsimp only
            rw [hid']
            simp only [hpe, if_true]
            rfl
          · simp [hpe] at h
    · simp only [ht, if_false] at h
      cases hl : s.responders.lookup addr with
      | none => simp [hl] at h
      | some r =>
        simp only [hl, Option.map_some, Except.ok.injEq, Option.some.injEq] at h
        subst h
        have hmem : addr ∈ s.responders := AList.lookup_isSome.mp (by rw [hl]; rfl)
        simp only [ht, if_false, AList.lookup_replace_self hmem]
        rfl

end InitiatorSignaling

instance : Signaling InitiatorSignaling where
  role := .initiator
  common s := s.common
  setCommon s c := { s with common := c }
  common_setCommon _ _ := rfl
  setCommon_common _ := rfl
  setCommon_setCommon _ _ _ := rfl
  getPeer s := s.responder.map ResponderContext.toPeer
  setPeerCsnPair s p := { s with responder := s.responder.map fun r => { r with csnPair := p } }
  getPeerWithAddressMut := InitiatorSignaling.getPeerWithAddressMut
  setPeerWithAddress := InitiatorSignaling.setPeerWithAddress
  getPeerWithAddressMut_setPeerWithAddress _ _ _ csnPair cookiePair h :=
    InitiatorSignaling.getPeerWithAddressMut_setPeerWithAddress h csnPair cookiePair

namespace InitiatorSignaling

/-! The trait's accessors, as the instance defines them. -/

@[simp] lemma role_eq : Signaling.role InitiatorSignaling = .initiator := rfl

@[simp] lemma common_eq (s : InitiatorSignaling) : Signaling.common s = s.common := rfl

@[simp] lemma setCommon_eq (s : InitiatorSignaling) (c : Common) :
    Signaling.setCommon s c = { s with common := c } := rfl

@[simp] lemma getPeerWithAddressMut_eq (s : InitiatorSignaling) (addr : Address) :
    Signaling.getPeerWithAddressMut s addr = getPeerWithAddressMut s addr := rfl

@[simp] lemma setPeerWithAddress_eq (s : InitiatorSignaling) (addr : Address) (csnPair : CombinedSequencePair)
    (cookiePair : CookiePair) :
    Signaling.setPeerWithAddress s addr csnPair cookiePair =
      setPeerWithAddress s addr csnPair cookiePair := rfl

@[simp] lemma getPeer_eq (s : InitiatorSignaling) : Signaling.getPeer s = s.responder.map ResponderContext.toPeer := rfl

@[simp] lemma setPeerCsnPair_eq (s : InitiatorSignaling) (p : CombinedSequencePair) :
    Signaling.setPeerCsnPair s p = { s with responder := s.responder.map fun r => { r with csnPair := p } } := rfl

open Signaling

variable (env : Env)

/-! ## Nonce checks -/

/-- `validate_nonce_destination`: the first message addressed to `0x01` after `server-hello`
assigns our identity. -/
def validateNonceDestination (nonce : Nonce) : ValidationM InitiatorSignaling Unit := do
  let s ← get
  if s.common.identity = .unknown ∧ nonce.destination.isUnknown = false ∧
      s.common.server.handshakeState ≠ .new then
    if nonce.destination.isInitiator then
      set { s with common := { s.common with identity := .initiator } }
    else
      throw (.err (.fail ("cannot assign address " ++ nonce.destination.display ++
        " to initiator")))
  let s ← get
  let ours ← liftAddress s.common.identity.toAddress
  if nonce.destination ≠ ours then
    throw (.err (.fail ("Bad destination: " ++ nonce.destination.display ++
      " (our identity is " ++ s.common.identity.display ++ ")")))

/-- `validate_nonce_source`: the server always, a responder once we are the initiator. -/
def validateNonceSource (nonce : Nonce) : ValidationM InitiatorSignaling Unit := do
  let s ← get
  let badSource := "Bad source: " ++ nonce.source.display ++ " (our identity is " ++
    s.common.identity.display ++ ")"
  if nonce.source.val = 0x00 then pure ()
  else if nonce.source.val = 0x01 then throw (.err (.dropMsg badSource))
  else if s.common.identity = .initiator then pure ()
  else throw (.err (.dropMsg badSource))

/-! ## Peer handshake -/

/-- The crash when no responder context has the source address. -/
def responderNotFound (source : Address) : Fault SignalingError :=
  crash ("Did not find responder with address " ++ source.display)

/-- `decode_peer_message`: the key to open a responder's message depends on its handshake state;
a `key` message that cannot be opened is reported as `InitiatorCouldNotDecrypt`. -/
def decodePeerMessage (s : InitiatorSignaling) (bbox : ByteBox) :
    Except SignalingError (OpenBox Message) :=
  if !bbox.nonce.source.isResponder then .error (.crash "Received message from an initiator")
  else
    let source := bbox.nonce.source
    match s.responders.lookup source with
    | none => .error (.crash ("Did not find responder with address " ++ source.display))
    | some responder =>
      match responder.handshakeState with
      | .new =>
        match s.common.authProvider with
        | some (.token token) => OpenBox.decryptToken env.sodium env.msgpack bbox token
        | some (.trustedKey _) => .error (.crash
            "Handshake state is \"New\" even though a trusted key is available")
        | none => .error (.crash "Handshake state is \"New\" without an auth provider available")
      | .tokenReceived =>
        match responder.permanentKey with
        | none => .error (.crash ("Did not find public permanent key for responder " ++
            toString responder.address.val.toNat))
        | some permanentKey =>
          match OpenBox.decrypt env.sodium env.msgpack bbox s.common.permanentKeypair
              permanentKey with
          | .error (.decode _) => .error .initiatorCouldNotDecrypt
          | result => result
      | .keySent =>
        match responder.sessionKey with
        | none => .error (.crash ("Did not find public session key for responder " ++
            toString responder.address.val.toNat))
        | some sessionKey => OpenBox.decrypt env.sodium env.msgpack bbox responder.keypair sessionKey
      | other => .error (.crash ("Invalid responder handshake state: " ++ other.debug))

/-- Replace the context of a known responder. -/
def updateResponder (addr : Address) (r : ResponderContext) : SignalingM InitiatorSignaling Unit :=
  modify fun s => { s with responders := s.responders.replace addr r }

/-- `handle_token`: store the responder's permanent key and invalidate the auth token. -/
def handleToken (msg : Token) (source : Address) : SignalingM InitiatorSignaling (List HandleAction) := do
  let s ← get
  let some responder := s.responders.lookup source | throw (responderNotFound source)
  if responder.permanentKey.isSome then
    throw (crash "Responder already has a permanent key set!")
  updateResponder source
    { responder with permanentKey := some msg.key, handshakeState := .tokenReceived }
  let s ← get
  match s.common.authProvider with
  | some (.token _) => pure ()
  | _ => throw (crash "Auth provider is not a token")
  set { s with common := { s.common with authProvider := none } }
  return []

/-- `handle_key`: store the responder's session key and reply with our own. -/
def handleKey (msg : Key) (source : Address) : SignalingM InitiatorSignaling (List HandleAction) := do
  let s ← get
  let some responder := s.responders.lookup source | throw (responderNotFound source)
  if responder.sessionKey.isSome then
    throw (crash "Responder already has a session key set!")
  match responder.permanentKey with
  | some pk =>
    if pk = msg.key then
      throw (.err (.protocol "Responder session key and permanent key are equal"))
  | none => throw (crash "Responder permanent key not set")
  let responder := { responder with sessionKey := some msg.key, handshakeState := .keyReceived }
  updateResponder source responder
  let key := Message.key ⟨responder.keypair.publicKey⟩
  let keySource ← liftAddress s.common.identity.toAddress
  let keyDestination ← liftAddress responder.toPeer.identity.toAddress
  let (csn, ours) ← liftResult responder.csnPair.ours.increment
  let responder := { responder with csnPair := { responder.csnPair with ours } }
  updateResponder source responder
  let keyNonce : Nonce := ⟨responder.cookiePair.ours, keySource, keyDestination, csn⟩
  let some permanentKey := responder.permanentKey | throw (crash "Responder permanent key not set")
  let bbox := OpenBox.encrypt env.sodium env.msgpack ⟨key, keyNonce⟩ s.common.permanentKeypair
    permanentKey
  updateResponder source { responder with handshakeState := .keySent }
  return [.reply bbox]

/-- The first task of `proposedTasks` without a data entry. -/
def missingTaskData (proposedTasks : List String) (data : AuthData) : Option String :=
  proposedTasks.find? fun task => (data.lookup task).isNone

/-- `handle_auth`: the responder is removed from the list; on success it becomes the chosen
responder, every other responder is dropped and the signaling moves to the task state. -/
def handleAuth (msg : Auth) (source : Address) : SignalingM InitiatorSignaling (List HandleAction) := do
  let s ← get
  let some responder := s.responders.lookup source | throw (responderNotFound source)
  set { s with responders := s.responders.erase source }
  liftResult (validateRepeatedCookie msg.yourCookie responder.cookiePair.ours
    responder.toPeer.identity)
  if msg.task.isSome then
    throw (.err (.invalidMessage
      "We're an initiator, but the `task` field in the auth message is set"))
  let proposedTasks ← match msg.tasks with
    | none => throw (.err (.invalidMessage "The `tasks` field in the auth message is not set"))
    | some [] => throw (.err (.invalidMessage "The `tasks` field in the auth message is empty"))
    | some tasks => pure tasks
  if msg.data.entries.length ≠ proposedTasks.length then
    throw (.err (.invalidMessage
      "The `tasks` and `data` fields in the auth message have a different number of entries"))
  if let some task := missingTaskData proposedTasks msg.data then
    throw (.err (.invalidMessage ("The task \"" ++ task ++
      "\" in the auth message does not have a corresponding data entry")))
  -- `mem::replace` takes the tasks out of the common data before checking them
  let s ← get
  set { s with common := { s.common with tasks := none } }
  let some ourTasks := s.common.tasks | throw (crash "No tasks defined")
  match ourTasks.chooseSharedTask proposedTasks with
  | none =>
    -- a close message that cannot be encoded is only logged; a panic is not caught
    let close ← tryCatch
      (do
        let bbox ← encodeCloseMessage env .noSharedTask (some responder.toPeer)
        pure [HandleAction.reply bbox])
      (fun e => match e with
        | .err _ => pure []
        | .panic m => throw (.panic m))
    return close ++ [.handshakeError .noSharedTask]
  | some chosenTask =>
    let some taskData := msg.data.lookup chosenTask.name | throw (crash "Task data not found")
    match env.taskInit chosenTask taskData with
    | .error e => throw (.err (.taskInitialization e))
    | .ok () => pure ()
    let chosenTask := { chosenTask with initData := some taskData }
    -- drop every other responder, in the iteration order of the map
    let s ← get
    let drops ← s.responders.keys.mapM fun addr =>
      sendDropResponder env addr .droppedByInitiator
    modify fun s => { s with responders := ∅ }
    let responder := { responder with handshakeState := .authReceived }
    let some responderCookie := responder.cookiePair.theirs
      | throw (crash "Responder cookie not set")
    let auth ← liftResult
      (InitiatorAuthBuilder.build responderCookie chosenTask.name chosenTask.data)
    let s ← get
    let authSource ← liftAddress s.common.identity.toAddress
    let (csn, ours) ← liftResult responder.csnPair.ours.increment
    let responder := { responder with csnPair := { responder.csnPair with ours } }
    let authNonce : Nonce := ⟨responder.cookiePair.ours, authSource, responder.address, csn⟩
    let some sessionKey := responder.sessionKey | throw (crash "Responder session key not set")
    let bbox := OpenBox.encrypt env.sodium env.msgpack ⟨.auth auth, authNonce⟩ responder.keypair
      sessionKey
    set { s with common := { s.common with
      taskSupportedTypes := some chosenTask.supportedTypes, task := some chosenTask } }
    let responder := { responder with handshakeState := .authSent }
    let s ← get
    let c ← liftResult (s.common.setSignalingState .task)
    set { s with common := c, responder := some responder }
    return drops ++ [.reply bbox, .handshakeDone]

/-- `handle_peer_message`: the transitions of a responder's handshake. -/
def handlePeerMessage (obox : OpenBox Message) : SignalingM InitiatorSignaling (List HandleAction) := do
  let s ← get
  let source := obox.nonce.source
  let some responder := s.responders.lookup source | throw (responderNotFound source)
  match responder.handshakeState, obox.message with
  | .new, .token msg => handleToken msg source
  | .tokenReceived, .key msg => handleKey env msg source
  | .keySent, .auth msg => handleAuth env msg source
  | state, message =>
    throw (.err (.invalidStateTransition ("Got " ++ message.getType ++ " message from responder " ++
      toString source.val.toNat ++ " in " ++ state.debug ++ " state")))

/-! ## Path cleaning and new responders -/

/-- The responders that have not sent a valid message yet. -/
def inactiveResponders (s : InitiatorSignaling) : List ResponderContext :=
  (s.responders.entries.map (·.2)).filter fun r => r.handshakeState = .new

/-- `drop_oldest_inactive_responder`: drop the inactive responder with the smallest counter
(`min_by_key` keeps the first of equal keys, as `List.argmin` does). -/
def dropOldestInactiveResponder : SignalingM InitiatorSignaling (Option HandleAction) := do
  let s ← get
  match (inactiveResponders s).argmin (fun r => r.counter.toNat) with
  | none => return none
  | some candidate =>
    let some responder := s.responders.lookup candidate.address
      | throw (crash "Inactive responder not found anymore in responders list")
    set { s with responders := s.responders.erase candidate.address }
    let drop ← sendDropResponder env responder.address .droppedByInitiator
    return some drop

/-- `process_new_responder`: a fresh context replaces any previous one at that address; above
252 responders the oldest inactive one is dropped. -/
def processNewResponder (address : Address) :
    SignalingM InitiatorSignaling (Option HandleAction) := do
  modify fun s => { s with responders := s.responders.erase address }
  -- `ResponderCounter::increment` returns the old value
  let s ← get
  let some next := s.responderCounter.checkedAdd 1
    | throw (crash "Overflow when incrementing responder counter")
  set { s with responderCounter := next, drawn := s.drawn + 1 }
  let some responder := ResponderContext.new (env.draw s.drawn) address s.responderCounter
    | throw (.panic Cookie.randomPanic)
  let responder ← match s.common.authProvider with
    | some (.trustedKey key) => do
      if responder.permanentKey.isSome then
        throw (crash "Responder already has a permanent key set!")
      pure { responder with permanentKey := some key, handshakeState := .tokenReceived }
    | _ => pure responder
  modify fun s => { s with responders := s.responders.insert address responder }
  let s ← get
  if s.responders.entries.length > 254 - 2 then dropOldestInactiveResponder env
  else return none

/-- The checks of `handle_server_auth_impl` on the `responders` field. -/
def checkServerAuthResponders (msg : ServerAuth) : Except SignalingError (List Address) :=
  if msg.initiatorConnected.isSome then
    .error (.invalidMessage
      "We're the initiator, but the `initiator_connected` field in the server-auth message is set")
  else
    match msg.responders with
    | none => .error (.invalidMessage "`responders` field in server-auth message not set")
    | some responders =>
      let respondersSet := responders.dedup
      if (⟨0x00⟩ : Address) ∈ respondersSet ∨ (⟨0x01⟩ : Address) ∈ respondersSet then
        .error (.invalidMessage
          "`responders` field in server-auth message may not contain addresses <0x02")
      else if responders.length ≠ respondersSet.length then
        .error (.invalidMessage "`responders` field in server-auth message may not contain duplicates")
      else .ok responders

/-- `handle_server_auth_impl`: register every responder the server reports. -/
def handleServerAuthImpl (msg : ServerAuth) : SignalingM InitiatorSignaling (List HandleAction) := do
  let responders ← liftResult (checkServerAuthResponders msg)
  let drops ← (env.setOrder responders).filterMapM (processNewResponder env)
  return drops ++ [.event (.serverHandshakeDone responders.isEmpty)]

/-- `handle_new_initiator`: only a responder expects `new-initiator`. -/
def handleNewInitiator : SignalingM InitiatorSignaling (List HandleAction) :=
  throw (.err (.protocol "Received 'new-responder' message as initiator"))

/-- `handle_new_responder`. -/
def handleNewResponder (msg : NewResponder) : SignalingM InitiatorSignaling (List HandleAction) := do
  if !msg.id.isResponder then
    throw (.err (.invalidMessage
      "`id` field in new-responder message is not a valid responder address"))
  match ← processNewResponder env msg.id with
  | some drop => return [drop]
  | none => return []

/-- `handle_disconnected`. -/
def handleDisconnected (msg : Disconnected) : SignalingM InitiatorSignaling (List HandleAction) := do
  if !msg.id.isResponder then
    throw (.err (.protocol "Received 'disconnected' message with non-responder id"))
  return [.event (.disconnected msg.id.val)]

end InitiatorSignaling

instance : Handlers InitiatorSignaling where
  toSignaling := inferInstance
  validateNonceDestination := InitiatorSignaling.validateNonceDestination
  validateNonceSource := InitiatorSignaling.validateNonceSource
  decodePeerMessage := InitiatorSignaling.decodePeerMessage
  handlePeerMessage := InitiatorSignaling.handlePeerMessage
  handleServerAuthImpl := InitiatorSignaling.handleServerAuthImpl
  handleNewInitiator _ := InitiatorSignaling.handleNewInitiator
  handleNewResponder := InitiatorSignaling.handleNewResponder
  handleDisconnected := InitiatorSignaling.handleDisconnected


namespace InitiatorSignaling

/-! The role's methods, as the instance defines them. -/

@[simp] lemma validateNonceDestination_eq (nonce : Nonce) :
    Handlers.validateNonceDestination (σ := InitiatorSignaling) nonce = validateNonceDestination nonce := rfl

@[simp] lemma validateNonceSource_eq (nonce : Nonce) :
    Handlers.validateNonceSource (σ := InitiatorSignaling) nonce = validateNonceSource nonce := rfl

@[simp] lemma decodePeerMessage_eq (env : Env) (s : InitiatorSignaling) (bbox : ByteBox) :
    Handlers.decodePeerMessage env s bbox = decodePeerMessage env s bbox := rfl

@[simp] lemma handlePeerMessage_eq (env : Env) (obox : OpenBox Message) :
    Handlers.handlePeerMessage (σ := InitiatorSignaling) env obox = handlePeerMessage env obox := rfl

@[simp] lemma handleServerAuthImpl_eq (env : Env) (msg : ServerAuth) :
    Handlers.handleServerAuthImpl (σ := InitiatorSignaling) env msg = handleServerAuthImpl env msg := rfl

@[simp] lemma handleNewInitiator_eq (env : Env) :
    Handlers.handleNewInitiator (σ := InitiatorSignaling) env = handleNewInitiator := rfl

@[simp] lemma handleNewResponder_eq (env : Env) (msg : NewResponder) :
    Handlers.handleNewResponder (σ := InitiatorSignaling) env msg = handleNewResponder env msg := rfl

@[simp] lemma handleDisconnected_eq (msg : Disconnected) :
    Handlers.handleDisconnected (σ := InitiatorSignaling) msg = handleDisconnected msg := rfl

end InitiatorSignaling

end SaltyRtc
