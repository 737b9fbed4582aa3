import SaltyRtc.Boxes

/-!
# Peer contexts and signaling state

Port of `src/protocol/context.rs` and of the state-holding structs of `src/protocol/mod.rs`
(`Common`, `InitiatorSignaling`, `ResponderSignaling`), with the environment the code runs in.

Randomness: every context a client creates draws a session key pair, the start of its outgoing
sequence number and its cookie. `Env.draw n` is the `n`-th such draw; each signaling state counts
the draws it has used (`drawn`), standing for the state of libsodium's generator.

A `PeerContext` (the trait) is seen through `Peer`, the data every context exposes; the mutable
parts reached through `get_peer_with_address_mut` and through the `RwLock` of a CSN pair are the
CSN pair and the cookie pair, written back by the `Signaling` class.
-/

namespace SaltyRtc

/-- What one context creation draws from the random number generator. -/
structure Draw where
  /-- `KeyPair::new()`. -/
  keypair : KeyPair
  /-- The random sequence number of `CombinedSequence::random()`. -/
  sequence : UInt32
  /-- The 16 random bytes of `Cookie::random()`. -/
  cookie : Cookie

/-- The environment of a client: the primitives and decisions that live outside the repository. -/
structure Env where
  sodium : Sodium
  msgpack : Msgpack
  /-- The `n`-th draw of the random number generator. -/
  draw : Nat → Draw
  /-- `Task::init`: `ok` if the task accepts the data it is given. -/
  taskInit : Task → Option ValueMap → Except String Unit
  /-- The order in which a `HashSet<Address>` collected from a list yields its elements. -/
  setOrder : List Address → List Address
  setOrder_perm : ∀ l, (setOrder l).Perm l.dedup

/-- The context of the server. -/
structure ServerContext where
  handshakeState : ServerHandshakeState
  permanentKey : Option PublicKey
  sessionKey : Option PublicKey
  csnPair : CombinedSequencePair
  cookiePair : CookiePair
  deriving DecidableEq

/-- `ServerContext::new`, from its draw; `none` where `Cookie::random` panics. -/
def ServerContext.new (d : Draw) : Option ServerContext :=
  (Cookie.random d.cookie).map fun ours =>
    ⟨.new, none, none, CombinedSequencePair.new d.sequence, ⟨ours, none⟩⟩

/-- The context of the initiator, kept by a responder. -/
structure InitiatorContext where
  handshakeState : InitiatorHandshakeState
  permanentKey : PublicKey
  sessionKey : Option PublicKey
  keypair : KeyPair
  csnPair : CombinedSequencePair
  cookiePair : CookiePair
  deriving DecidableEq

/-- `InitiatorContext::new`, from its draw; `none` where `Cookie::random` panics. -/
def InitiatorContext.new (d : Draw) (permanentKey : PublicKey) : Option InitiatorContext :=
  (Cookie.random d.cookie).map fun ours =>
    ⟨.new, permanentKey, none, d.keypair, CombinedSequencePair.new d.sequence, ⟨ours, none⟩⟩

/-- The context of a responder, kept by the initiator. -/
structure ResponderContext where
  handshakeState : ResponderHandshakeState
  /-- Used to find the oldest responders when cleaning the path. -/
  counter : UInt32
  address : Address
  permanentKey : Option PublicKey
  sessionKey : Option PublicKey
  keypair : KeyPair
  csnPair : CombinedSequencePair
  cookiePair : CookiePair
  deriving DecidableEq

/-- `ResponderContext::new`, from its draw; `none` where `Cookie::random` panics. -/
def ResponderContext.new (d : Draw) (address : Address) (counter : UInt32) :
    Option ResponderContext :=
  (Cookie.random d.cookie).map fun ours =>
    ⟨.new, counter, address, none, none, d.keypair, CombinedSequencePair.new d.sequence,
      ⟨ours, none⟩⟩

/-- The data of a `dyn PeerContext`. -/
structure Peer where
  identity : Identity
  permanentKey : Option PublicKey
  sessionKey : Option PublicKey
  keypair : Option KeyPair
  csnPair : CombinedSequencePair
  cookiePair : CookiePair
  deriving DecidableEq

/-- `impl PeerContext for ServerContext`: there is no session key pair with the server. -/
def ServerContext.toPeer (c : ServerContext) : Peer :=
  ⟨.server, c.permanentKey, c.sessionKey, none, c.csnPair, c.cookiePair⟩

/-- `impl PeerContext for InitiatorContext`. -/
def InitiatorContext.toPeer (c : InitiatorContext) : Peer :=
  ⟨.initiator, some c.permanentKey, c.sessionKey, some c.keypair, c.csnPair, c.cookiePair⟩

/-- `impl PeerContext for ResponderContext`. -/
def ResponderContext.toPeer (c : ResponderContext) : Peer :=
  ⟨.responder c.address.val, c.permanentKey, c.sessionKey, some c.keypair, c.csnPair, c.cookiePair⟩

/-- How a peer is authenticated: a one-time auth token, or a trusted public key. -/
inductive AuthProvider where
  | token (t : AuthToken)
  | trustedKey (k : PublicKey)
  deriving DecidableEq

/-- State and configuration common to both roles. -/
structure Common where
  signalingState : SignalingState
  permanentKeypair : KeyPair
  authProvider : Option AuthProvider
  identity : ClientIdentity
  server : ServerContext
  tasks : Option Tasks
  /-- The chosen task. -/
  task : Option Task
  taskSupportedTypes : Option (List String)
  /-- The ping interval, as the whole seconds of its `Duration`. -/
  pingInterval : Option UInt64
  deriving DecidableEq

/-- `Common::set_signaling_state`: only one step forward is allowed; setting the current state
again is ignored. -/
def Common.setSignalingState (c : Common) (state : SignalingState) : Except SignalingError Common :=
  if c.signalingState = state then .ok c
  else if !c.signalingState.mayTransitionTo state then
    .error (.invalidStateTransition
      ("Signaling state: " ++ c.signalingState.debug ++ " -> " ++ state.debug))
  else .ok { c with signalingState := state }

/-- The signaling data of the initiator. -/
structure InitiatorSignaling where
  common : Common
  /-- The known responders, by address. The order of the entries stands for the unspecified
  iteration order of the `HashMap`. -/
  responders : AList (fun _ : Address => ResponderContext)
  /-- The chosen responder. -/
  responder : Option ResponderContext
  /-- `ResponderCounter`: the serial given to the next responder. -/
  responderCounter : UInt32
  /-- The number of random draws used so far. -/
  drawn : Nat
  deriving DecidableEq

/-- The signaling data of a responder. -/
structure ResponderSignaling where
  common : Common
  initiator : InitiatorContext
  /-- The number of random draws used so far. -/
  drawn : Nat
  deriving DecidableEq

/-- An action to carry out after handling a message. -/
inductive Event where
  | serverHandshakeDone (peerConnected : Bool)
  | peerHandshakeDone
  | disconnected (id : UInt8)
  deriving DecidableEq

/-- `HandleAction`. -/
inductive HandleAction where
  /-- Send this message through the WebSocket. -/
  | reply (bbox : ByteBox)
  /-- Raise an error during the handshake. -/
  | handshakeError (e : SaltyError)
  /-- The server and peer handshakes are done. -/
  | handshakeDone
  | event (e : Event)
  | taskMessage (m : TaskMessage)
  deriving DecidableEq

end SaltyRtc
