import SaltyRtc.Crypto
import SaltyRtc.Tasks

/-!
# Messages

Port of `src/protocol/messages.rs` and `src/protocol/send_error.rs`: the thirteen message types
of the protocol, their `type` tags (`get_type`), the `drop-responder` reasons, and the two
builders of `auth` messages with the checks of their `build`.

The MessagePack encoding of a message (serde's derive over `rmp_serde`) is outside the
repository; `Msgpack` in the signaling model stands for it.
-/

namespace SaltyRtc

/-- The `id` of a `send-error` message: the addresses and CSN of the nonce that was not relayed. -/
structure SendErrorId where
  source : Address
  destination : Address
  csn : CombinedSequenceSnapshot
  deriving DecidableEq

namespace SendErrorId

/-- `SendErrorId::as_bytes`. -/
def asBytes (id : SendErrorId) : List UInt8 :=
  [id.source.val, id.destination.val] ++ BigEndian.writeU16 id.csn.overflow ++
    BigEndian.writeU32 id.csn.sequence

/-- `SendErrorId::from_slice`; a `panic` where the indexing or reads of the source would panic. -/
def fromSlice (bytes : List UInt8) : Except (Fault SignalingError) SendErrorId :=
  if bytes.length ≠ 8 then
    .error (.err (.decode ("byte slice must be exactly 8 bytes, not " ++ toString bytes.length)))
  else
    match bytes[0]?, bytes[1]?, BigEndian.readU16 ((bytes.drop 2).take 2),
      BigEndian.readU32 ((bytes.drop 4).take 4) with
    | some source, some destination, some overflow, some sequence =>
      .ok ⟨⟨source⟩, ⟨destination⟩, ⟨overflow, sequence⟩⟩
    | _, _, _, _ => .error (.panic "index out of bounds")

@[simp] lemma length_asBytes (id : SendErrorId) : id.asBytes.length = 8 := by
  simp [asBytes]

/-- Parsing the bytes of an id gives the id back. -/
lemma fromSlice_asBytes (id : SendErrorId) : fromSlice id.asBytes = .ok id := by
  obtain ⟨src, dst, ⟨o, q⟩⟩ := id
  -- the offsets 2 and 4 of the source are the lengths of the fields before them
  have h2 : (BigEndian.writeU16 o ++ BigEndian.writeU32 q).take 2 = BigEndian.writeU16 o :=
    List.take_left' (by simp)
  have h4 : (BigEndian.writeU32 q).take 4 = BigEndian.writeU32 q :=
    List.take_of_length_le (by simp)
  have hdrop : (BigEndian.writeU16 o ++ BigEndian.writeU32 q).drop 2 = BigEndian.writeU32 q :=
    List.drop_left' (by simp)
  simp [fromSlice, asBytes, h2, h4, hdrop]

/-- Every 8-byte slice parses, and is the byte form of the id it parses to. -/
lemma fromSlice_of_length {bytes : List UInt8} (h : bytes.length = 8) :
    ∃ id, fromSlice bytes = .ok id ∧ id.asBytes = bytes := by
  -- name the 8 bytes, so that every slice and index of the source computes
  match bytes, h with
  | [s, d, o0, o1, q0, q1, q2, q3], _ =>
    have hw16 := BigEndian.writeU16_readU16 o0 o1 []
    have hw32 := BigEndian.writeU32_readU32 q0 q1 q2 q3 []
    cases ho : BigEndian.readU16 [o0, o1] with
    | none => simp [ho] at hw16
    | some o =>
      cases hq : BigEndian.readU32 [q0, q1, q2, q3] with
      | none => simp [hq] at hw32
      | some q =>
        simp only [ho, hq, Option.map_some, Option.some.injEq] at hw16 hw32
        refine ⟨⟨⟨s⟩, ⟨d⟩, ⟨o, q⟩⟩, ?_, ?_⟩
        · simp [fromSlice, ho, hq]
        · simp [asBytes, hw16, hw32]

/-- A slice that is not 8 bytes long is refused with a decoding error. -/
lemma fromSlice_of_length_ne {bytes : List UInt8} (h : bytes.length ≠ 8) :
    fromSlice bytes = .error (.err (.decode
      ("byte slice must be exactly 8 bytes, not " ++ toString bytes.length))) := by
  simp [fromSlice, h]

end SendErrorId

/-- `client-hello`. -/
structure ClientHello where
  key : PublicKey
  deriving DecidableEq

/-- `server-hello`. -/
structure ServerHello where
  key : PublicKey
  deriving DecidableEq

/-- `client-auth`. -/
structure ClientAuth where
  yourCookie : Cookie
  subprotocols : List String
  pingInterval : UInt32
  yourKey : Option PublicKey
  deriving DecidableEq

/-- `server-auth`. -/
structure ServerAuth where
  yourCookie : Cookie
  signedKeys : Option SignedKeys
  responders : Option (List Address)
  initiatorConnected : Option Bool
  deriving DecidableEq

/-- `new-responder`. -/
structure NewResponder where
  id : Address
  deriving DecidableEq

/-- The reason of a `drop-responder` message. -/
inductive DropReason where
  | protocolError
  | internalError
  | droppedByInitiator
  | initiatorCouldNotDecrypt
  deriving DecidableEq, Repr

/-- `Into<u16> for DropReason`. -/
def DropReason.toU16 : DropReason → UInt16
  | .protocolError => 3001
  | .internalError => 3002
  | .droppedByInitiator => 3004
  | .initiatorCouldNotDecrypt => 3005

/-- `drop-responder`. -/
structure DropResponder where
  id : Address
  reason : Option UInt16
  deriving DecidableEq

/-- `DropResponder::with_reason`. -/
def DropResponder.withReason (id : Address) (reason : DropReason) : DropResponder :=
  ⟨id, some reason.toU16⟩

/-- `send-error`. -/
structure SendError where
  id : SendErrorId
  deriving DecidableEq

/-- `disconnected`. -/
structure Disconnected where
  id : Address
  deriving DecidableEq

/-- `token`. -/
structure Token where
  key : PublicKey
  deriving DecidableEq

/-- `key`. -/
structure Key where
  key : PublicKey
  deriving DecidableEq

/-- The data map of an `auth` message: task name to task data. -/
abbrev AuthData := AList (fun _ : String => Option ValueMap)

/-- `auth`. -/
structure Auth where
  yourCookie : Cookie
  tasks : Option (List String)
  task : Option String
  data : AuthData
  deriving DecidableEq

/-- `close`. -/
structure Close where
  reason : UInt16
  deriving DecidableEq

/-- `Close::from_close_code`. -/
def Close.fromCloseCode (code : CloseCode) : Close := ⟨code.asNumber⟩

/-- All messages of the handshake. -/
inductive Message where
  | clientHello (msg : ClientHello)
  | serverHello (msg : ServerHello)
  | clientAuth (msg : ClientAuth)
  | serverAuth (msg : ServerAuth)
  | newInitiator
  | newResponder (msg : NewResponder)
  | dropResponder (msg : DropResponder)
  | sendError (msg : SendError)
  | disconnected (msg : Disconnected)
  | token (msg : Token)
  | key (msg : Key)
  | auth (msg : Auth)
  | close (msg : Close)
  deriving DecidableEq

/-- `Message::get_type`. -/
def Message.getType : Message → String
  | .clientHello _ => "client-hello"
  | .serverHello _ => "server-hello"
  | .clientAuth _ => "client-auth"
  | .serverAuth _ => "server-auth"
  | .newInitiator => "new-initiator"
  | .newResponder _ => "new-responder"
  | .dropResponder _ => "drop-responder"
  | .sendError _ => "send-error"
  | .disconnected _ => "disconnected"
  | .token _ => "token"
  | .key _ => "key"
  | .auth _ => "auth"
  | .close _ => "close"

/-! ## Building `auth` messages -/

/-- `InitiatorAuthBuilder::new(..).set_task(name, data).build()`: an `auth` message naming the
chosen task, with that task's data as the only entry. -/
def InitiatorAuthBuilder.build (yourCookie : Cookie) (name : String) (data : Option ValueMap) :
    Except SignalingError Auth :=
  -- `set_task` clears the data map and inserts the one entry; `tasks` is never set
  .ok ⟨yourCookie, none, some name, (∅ : AuthData).insert name data⟩

/-- The duplicate check of `ResponderAuthBuilder::build`: sort a copy, remove adjacent repeats,
compare the lengths. -/
def ResponderAuthBuilder.hasDuplicates (names : List String) : Bool :=
  ((names.mergeSort (fun a b => decide (a ≤ b))).destutter (· ≠ ·)).length != names.length

/-- `ResponderAuthBuilder::new(cookie).add_tasks(tasks).build()`: an `auth` message offering
every task by name, with each task's data inserted under its name. -/
def ResponderAuthBuilder.build (yourCookie : Cookie) (tasks : Tasks) :
    Except SignalingError Auth :=
  let names := tasks.tasks.map Task.name
  let data := tasks.tasks.foldl (fun (d : AuthData) t => d.insert t.name t.data) ∅
  if names.isEmpty then
    .error (.invalidMessage "An `Auth` message must contain at least one task")
  else if ResponderAuthBuilder.hasDuplicates names then
    .error (.invalidMessage "An `Auth` message may not contain duplicate tasks")
  else .ok ⟨yourCookie, some names, none, data⟩

end SaltyRtc
