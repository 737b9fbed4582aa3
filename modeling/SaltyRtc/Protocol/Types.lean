import SaltyRtc.Errors

/-!
# Protocol types and states

Port of `src/protocol/types.rs` and `src/protocol/state.rs`: addresses and the identities they
stand for, the role of a client, and the three state machines of the signaling (the overall
`SignalingState`, the server handshake and the two peer handshakes).

The conversions `From<Identity> for Address` and `From<ClientIdentity> for Address` assert that a
responder identity is above `0x01`; they return `none` where that assertion panics.
-/

namespace SaltyRtc

/-- An address: the byte a nonce carries as source or destination. -/
structure Address where
  val : UInt8
  deriving DecidableEq, Repr

namespace Address

/-- Whether this is the server address `0x00`. -/
def isServer (a : Address) : Bool := a.val == 0x00

/-- Whether this is the unknown address `0x00`. -/
def isUnknown (a : Address) : Bool := a.val == 0x00

/-- Whether this is the initiator address `0x01`. -/
def isInitiator (a : Address) : Bool := a.val == 0x01

/-- Whether this address is in the responder range `0x02..0xff`. -/
def isResponder (a : Address) : Bool := a.val ≥ 0x02

/-- One lowercase hexadecimal digit. -/
def hexDigit (n : Nat) : Char :=
  if n < 10 then Char.ofNat (48 + n) else Char.ofNat (87 + n)

/-- The `{:#04x}` rendering of a byte, as in `0x0a`. -/
def hexByte (b : UInt8) : String :=
  "0x" ++ String.ofList [hexDigit (b.toNat / 16), hexDigit (b.toNat % 16)]

/-- `Display for Address`. -/
def display (a : Address) : String := hexByte a.val

lemma isServer_of_isResponder {a : Address} (h : a.isResponder) : a.isServer = false := by
  simp only [isResponder, isServer, decide_eq_true_eq, beq_eq_false_iff_ne] at h ⊢
  intro h0
  rw [h0] at h
  exact absurd h (by decide)

end Address

/-- A peer identity. -/
inductive Identity where
  | server
  | initiator
  | responder (addr : UInt8)
  deriving DecidableEq, Repr

/-- `From<Address> for Identity`. -/
def Identity.ofAddress (a : Address) : Identity :=
  if a.val = 0x00 then .server else if a.val = 0x01 then .initiator else .responder a.val

/-- `From<Identity> for Address`; `none` where the `address > 0x01` assertion panics. -/
def Identity.toAddress : Identity → Option Address
  | .server => some ⟨0x00⟩
  | .initiator => some ⟨0x01⟩
  | .responder a => if a > 0x01 then some ⟨a⟩ else none

/-- `Display for Identity`. -/
def Identity.display : Identity → String
  | .initiator => "initiator"
  | .responder a => "responder " ++ Address.hexByte a
  | .server => "server"

/-- A client identity: like `Identity` without the server, and with `unknown` before the
server has assigned one. -/
inductive ClientIdentity where
  | unknown
  | initiator
  | responder (addr : UInt8)
  deriving DecidableEq, Repr

/-- `From<ClientIdentity> for Address`; `none` where the `address > 0x01` assertion panics. -/
def ClientIdentity.toAddress : ClientIdentity → Option Address
  | .unknown => some ⟨0x00⟩
  | .initiator => some ⟨0x01⟩
  | .responder a => if a > 0x01 then some ⟨a⟩ else none

/-- `Display for ClientIdentity`. -/
def ClientIdentity.display : ClientIdentity → String
  | .unknown => "unknown"
  | .initiator => "initiator"
  | .responder a => "responder " ++ Address.hexByte a

/-- The role of a client. -/
inductive Role where
  | initiator
  | responder
  deriving DecidableEq, Repr

/-- The state of the entire signaling instance. -/
inductive SignalingState where
  | serverHandshake
  | peerHandshake
  | task
  deriving DecidableEq, Repr

/-- `SignalingState::may_transition_to`. -/
def SignalingState.mayTransitionTo : SignalingState → SignalingState → Bool
  | .serverHandshake, .peerHandshake => true
  | .peerHandshake, .task => true
  | _, _ => false

/-- The `{:?}` rendering of a signaling state. -/
def SignalingState.debug : SignalingState → String
  | .serverHandshake => "ServerHandshake"
  | .peerHandshake => "PeerHandshake"
  | .task => "Task"

/-- The states of the handshake with the server. -/
inductive ServerHandshakeState where
  | new
  | clientInfoSent
  | done
  deriving DecidableEq, Repr

/-- The `{:?}` rendering of a server handshake state. -/
def ServerHandshakeState.debug : ServerHandshakeState → String
  | .new => "New"
  | .clientInfoSent => "ClientInfoSent"
  | .done => "Done"

/-- The states of the handshake with the initiator (kept by a responder). -/
inductive InitiatorHandshakeState where
  | new
  | keySent
  | keyReceived
  | authSent
  | authReceived
  deriving DecidableEq, Repr

/-- The `{:?}` rendering of an initiator handshake state. -/
def InitiatorHandshakeState.debug : InitiatorHandshakeState → String
  | .new => "New"
  | .keySent => "KeySent"
  | .keyReceived => "KeyReceived"
  | .authSent => "AuthSent"
  | .authReceived => "AuthReceived"

/-- The states of the handshake with a responder (kept by the initiator). -/
inductive ResponderHandshakeState where
  | new
  | tokenReceived
  | keyReceived
  | keySent
  | authReceived
  | authSent
  deriving DecidableEq, Repr

/-- The `{:?}` rendering of a responder handshake state. -/
def ResponderHandshakeState.debug : ResponderHandshakeState → String
  | .new => "New"
  | .tokenReceived => "TokenReceived"
  | .keyReceived => "KeyReceived"
  | .keySent => "KeySent"
  | .authReceived => "AuthReceived"
  | .authSent => "AuthSent"

/-- The only transitions allowed are one step forward: server handshake to peer handshake, and
peer handshake to task. -/
lemma SignalingState.mayTransitionTo_iff {a b : SignalingState} :
    a.mayTransitionTo b = true ↔
      (a = .serverHandshake ∧ b = .peerHandshake) ∨ (a = .peerHandshake ∧ b = .task) := by
  cases a <;> cases b <;> simp [mayTransitionTo]

/-- An identity read off an address converts back to that address without panicking. -/
lemma Identity.toAddress_ofAddress (a : Address) : (Identity.ofAddress a).toAddress = some a := by
  unfold Identity.ofAddress
  split
  · rename_i h
    simp [toAddress, ← h]
  · split
    · rename_i _ h
      simp [toAddress, ← h]
    · rename_i h0 h1
      have : (0x01 : UInt8) < a.val := by
        rw [UInt8.lt_iff_toNat_lt]
        have h0' : a.val.toNat ≠ 0 := fun e => h0 (UInt8.toNat_inj.mp e)
        have h1' : a.val.toNat ≠ 1 := fun e => h1 (UInt8.toNat_inj.mp e)
        simp only [UInt8.reduceToNat]
        omega
      simp [toAddress, this]

end SaltyRtc
