import SaltyRtc.Lib.Reach
import SaltyRtc.Protocol.Initiator
import SaltyRtc.Protocol.Responder

/-!
# Runs of a client

A client is created by `new`; then the task loop of `lib.rs` calls `handle_message` on every byte
box the WebSocket delivers, and the first error ends the loop. `handleAll` is that loop over a
list of byte boxes. `OkStep` is one call that returned `Ok` without a `HandshakeError` action,
and the reachable states of a role are those such calls lead to from a state `new` built.

The last section is a concrete environment, used by the statements about particular runs:
sealing prefixes a tag byte and opening removes it, and the MessagePack codec knows a table of
messages and writes each as its index.
-/

namespace SaltyRtc

/-- Whether an action reports a failed handshake. -/
def HandleAction.isHandshakeError : HandleAction → Bool
  | .handshakeError _ => true
  | _ => false

/-- The actions of a call contain no `HandshakeError`. -/
def NoHandshakeError (actions : List HandleAction) : Prop :=
  ∀ a ∈ actions, a.isHandshakeError = false

instance (actions : List HandleAction) : Decidable (NoHandshakeError actions) :=
  inferInstanceAs (Decidable (∀ a ∈ actions, _))

section Runs

variable {σ : Type} [Handlers σ] (env : Env)

/-- One call of `handle_message` that returned `Ok` without a `HandshakeError` action. -/
def OkStep (s : σ) (bbox : ByteBox) (s' : σ) : Prop :=
  ∃ actions, Handlers.handleMessage env bbox s = .ok actions s' ∧ NoHandshakeError actions

/-- The task loop over a list of byte boxes: `handle_message` on each in turn, until the first
error. -/
def handleAll : List ByteBox → σ → EStateM.Result (Fault SignalingError) σ (List (List HandleAction))
  | [], s => .ok [] s
  | bbox :: rest, s =>
    match Handlers.handleMessage env bbox s with
    | .ok actions s₁ =>
      match handleAll rest s₁ with
      | .ok more s₂ => .ok (actions :: more) s₂
      | .error e s₂ => .error e s₂
    | .error e s₁ => .error e s₁

/-- A loop over a first byte box and the rest that handled them all: the first call returned, and
so did the loop over the rest from where it left the state. -/
lemma handleAll_cons_eq_ok {bbox : ByteBox} {rest : List ByteBox} {s s' : σ}
    {actionss : List (List HandleAction)} :
    handleAll env (bbox :: rest) s = .ok actionss s' ↔
      ∃ actions s₁ more, Handlers.handleMessage env bbox s = .ok actions s₁ ∧
        handleAll env rest s₁ = .ok more s' ∧ actionss = actions :: more := by
  simp only [handleAll]
  constructor
  · intro h
    split at h
    next actions s₁ hstep =>
      split at h
      next more s₂ hrest =>
        simp only [EStateM.Result.ok.injEq] at h
        obtain ⟨rfl, rfl⟩ := h
        exact ⟨actions, s₁, more, hstep, hrest, rfl⟩
      next => cases h
    next => cases h
  · rintro ⟨actions, s₁, more, hstep, hrest, rfl⟩
    simp only [hstep, hrest]

/-- A loop that handled every byte box, none with a `HandshakeError` action. -/
def RunOk : EStateM.Result (Fault SignalingError) σ (List (List HandleAction)) → Prop
  | .ok actions _ => ∀ as ∈ actions, NoHandshakeError as
  | .error _ _ => False

instance (r : EStateM.Result (Fault SignalingError) σ (List (List HandleAction))) :
    Decidable (RunOk r) :=
  match r with
  | .ok actions _ => inferInstanceAs (Decidable (∀ as ∈ actions, NoHandshakeError as))
  | .error _ _ => isFalse id

/-- A successful loop is a run of steps: from a reachable state it ends in a reachable state. -/
lemma reachable_handleAll {init : σ → Prop} {s : σ} (bboxes : List ByteBox)
    (hs : Reach.Reachable (OkStep env) init s) (hrun : RunOk (handleAll env bboxes s)) :
    Reach.Reachable (OkStep env) init (handleAll env bboxes s).state := by
  induction bboxes generalizing s with
  | nil => exact hs
  | cons bbox rest ih =>
    simp only [handleAll] at hrun ⊢
    cases hstep : Handlers.handleMessage env bbox s with
    | error e s₁ => rw [hstep] at hrun; exact hrun.elim
    | ok actions s₁ =>
      rw [hstep] at hrun
      dsimp only at hrun ⊢
      cases hrest : handleAll env rest s₁ with
      | error e s₂ => rw [hrest] at hrun; exact hrun.elim
      | ok more s₂ =>
        rw [hrest] at hrun
        have hok : OkStep env s bbox s₁ := ⟨actions, hstep, hrun actions (by simp)⟩
        have hmore : RunOk (handleAll env rest s₁) := by
          rw [hrest]
          exact fun as has => hrun as (List.mem_cons_of_mem _ has)
        have hend := ih (.step bbox hs hok) hmore
        rw [hrest] at hend
        exact hend

end Runs

/-! ## Reachable states of each role -/

/-- The states `InitiatorSignaling::new` creates. -/
def InitiatorSignaling.Initial (env : Env) (s : InitiatorSignaling) : Prop :=
  ∃ (permanentKeypair : KeyPair) (tasks : Tasks)
    (responderTrustedPubkey serverPublicPermanentKey : Option PublicKey)
    (pingInterval : Option UInt64) (token : AuthToken),
    InitiatorSignaling.new env permanentKeypair tasks responderTrustedPubkey
      serverPublicPermanentKey pingInterval token = some s

/-- The states an initiator reaches by successful calls of `handle_message`. -/
def InitiatorSignaling.Reachable (env : Env) : InitiatorSignaling → Prop :=
  Reach.Reachable (OkStep env) (InitiatorSignaling.Initial env)

/-- The states `ResponderSignaling::new` creates. -/
def ResponderSignaling.Initial (env : Env) (s : ResponderSignaling) : Prop :=
  ∃ (permanentKeypair : KeyPair) (initiatorPubkey : PublicKey) (authToken : Option AuthToken)
    (serverPublicPermanentKey : Option PublicKey) (tasks : Tasks) (pingInterval : Option UInt64),
    ResponderSignaling.new env permanentKeypair initiatorPubkey authToken serverPublicPermanentKey
      tasks pingInterval = some s

/-- The states a responder reaches by successful calls of `handle_message`. -/
def ResponderSignaling.Reachable (env : Env) : ResponderSignaling → Prop :=
  Reach.Reachable (OkStep env) (ResponderSignaling.Initial env)

/-! ## A concrete environment -/

namespace Toy

/-- A public key whose 32 bytes are all `b`. -/
def publicKey (b : UInt8) : PublicKey := ⟨List.replicate 32 b, by simp⟩

/-- A private key whose 32 bytes are all `b`. -/
def privateKey (b : UInt8) : PrivateKey := ⟨List.replicate 32 b, by simp⟩

/-- The key pair of seed `b`. -/
def keyPair (b : UInt8) : KeyPair := ⟨publicKey b, privateKey b⟩

/-- An auth token whose 32 bytes are all `b`. -/
def authToken (b : UInt8) : AuthToken := ⟨⟨List.replicate 32 b, by simp⟩⟩

/-- A cookie whose 16 bytes are all `b`. -/
def cookie (b : UInt8) : Cookie := ⟨List.replicate 16 b, by simp⟩

/-- The draw of seed `b`: its key pair and cookie, and the given start of the sequence. -/
def draw (b : UInt8) (sequence : UInt32) : Draw := ⟨keyPair b, sequence, cookie b⟩

/-- Sealing prefixes a tag byte (1 for public-key boxes, 2 for secret boxes); opening removes
it, and fails on anything else. -/
def sodium : Sodium where
  boxSeal m _ _ _ := 1 :: m
  boxOpen c _ _ _ := match c with
    | 1 :: m => some m
    | _ => none
  secretboxSeal m _ _ := 2 :: m
  secretboxOpen c _ _ := match c with
    | 2 :: m => some m
    | _ => none

/-- A codec for a table of messages and values, each written as its index in the table. -/
def msgpack (messages : List Message) (values : List Value) : Msgpack where
  encodeMessage m := [UInt8.ofNat (messages.idxOf m)]
  decodeMessage b := match b with
    | [i] => match messages[i.toNat]? with
      | some m => .ok m
      | none => .error "unknown message"
    | _ => .error "invalid message"
  encodeValue v := [UInt8.ofNat (values.idxOf v)]
  decodeValue b := match b with
    | [i] => match values[i.toNat]? with
      | some v => .ok v
      | none => .error "unknown value"
    | _ => .error "invalid value"

/-- The concrete environment: every task accepts its data, and a set yields its elements in the
order of the list it was built from. -/
def env (messages : List Message) (values : List Value) (draws : Nat → Draw) : Env where
  sodium := sodium
  msgpack := msgpack messages values
  draw := draws
  taskInit _ _ := .ok ()
  setOrder l := l.dedup
  setOrder_perm _ := List.Perm.refl _

/-- A task that supports no message types beyond the built-in ones. -/
def task (name : String) : Task := ⟨name, none, [], none⟩

/-- The one task both concrete clients offer. -/
def tasks : Tasks := ⟨[task "v1.test"], by simp⟩

/-! ### The concrete server and clients

The initiator has permanent key pair 1 and draws seeds 10, 11, ...; the responder has permanent
key pair 2 and draws seeds 20, 21, .... The server's session key is `publicKey 100`, its cookie
`cookie 200`. -/

/-- The messages of the concrete server: `server-hello`, the `server-auth` for the initiator
(one responder, at `0x02`), the `server-auth` for the responder (initiator connected), and
`new-initiator`. -/
def messages : List Message :=
  [.serverHello ⟨publicKey 100⟩,
   .serverAuth ⟨cookie 10, none, some [⟨2⟩], none⟩,
   .serverAuth ⟨cookie 20, none, none, some true⟩,
   .newInitiator]

/-- The draws from seed `base` on; draw `n` starts its sequence at `sequence n`. -/
def draws (base : UInt8) (sequence : Nat → UInt32) : Nat → Draw :=
  fun n => draw (base + UInt8.ofNat n) (sequence n)

/-- The initiator's environment. -/
def initiatorEnv : Env := env messages [] (draws 10 fun _ => 1)

/-- The responder's environment; draw `n` starts its sequence at `sequence n`. -/
def responderEnv (sequence : Nat → UInt32) : Env := env messages [] (draws 20 sequence)

/-- A nonce of the server to `destination`, with sequence number `sequence`. -/
def serverNonce (destination : UInt8) (sequence : UInt32) : Nonce :=
  ⟨cookie 200, ⟨0⟩, ⟨destination⟩, ⟨0, sequence⟩⟩

/-- `server-hello`, unencrypted, to a client without identity. -/
def helloBox : ByteBox := ⟨[0], serverNonce 0 5⟩

/-- `server-auth` to the initiator, assigning it `0x01`. -/
def initiatorAuthBox : ByteBox := ⟨[1, 1], serverNonce 1 6⟩

/-- `server-auth` to the responder, assigning it `0x02`. -/
def responderAuthBox : ByteBox := ⟨[1, 2], serverNonce 2 6⟩

/-- `new-initiator` to the responder. -/
def newInitiatorBox : ByteBox := ⟨[1, 3], serverNonce 2 7⟩

/-- The initiator `new` creates with auth token 3, or trusting the responder's key. -/
def initiator (trusted : Bool) : InitiatorSignaling :=
  (InitiatorSignaling.new initiatorEnv (keyPair 1) tasks
    (if trusted then some (publicKey 2) else none) none none (authToken 3)).get
    (by cases trusted <;> decide +kernel)

/-- The responder `new` creates with auth token 3, or trusting the initiator's key; draw `n`
starts its sequence at `sequence n`. -/
def responder (trusted : Bool) (sequence : Nat → UInt32) : ResponderSignaling :=
  (ResponderSignaling.new (responderEnv sequence) (keyPair 2) (publicKey 1)
    (if trusted then none else some (authToken 3)) none tasks none).get
    (by cases trusted <;> simp [ResponderSignaling.new, ServerContext.new, InitiatorContext.new,
      Cookie.random, responderEnv, env, draws, draw, cookie])

lemma initiator_initial (trusted : Bool) :
    InitiatorSignaling.Initial initiatorEnv (initiator trusted) :=
  ⟨keyPair 1, tasks, _, none, none, authToken 3, (Option.some_get _).symm⟩

lemma responder_initial (trusted : Bool) (sequence : Nat → UInt32) :
    ResponderSignaling.Initial (responderEnv sequence) (responder trusted sequence) :=
  ⟨keyPair 2, publicKey 1, _, none, tasks, none, (Option.some_get _).symm⟩

end Toy

end SaltyRtc
