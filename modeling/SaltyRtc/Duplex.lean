import Mathlib
import SaltyRtc.Reader
import SaltyRtc.Transformer

/-!
# Two clients exchanging task messages

Once their handshake is done, both clients run the task loop of `src/lib.rs`: the transformer of
one sends what its task puts on the outgoing channel, the server relays each binary message to the
other client, and the reader there hands what `handle_message` makes of it to its task. The two
directions share each client's state: sending stores our next CSN towards the peer
(`csn_pair.ours`), receiving stores the CSN accepted from it (`csn_pair.theirs`), both in the one
record of the chosen peer.

An exchange is a list of messages, each one the first client's task sends (`Sum.inl`) or the
second's (`Sum.inr`), in the order in which they cross. The server is a relay that hands on each
binary message unchanged and in order. The close frame the transformer sends after a `close` is
not relayed: the exchange ends with the `close`, after which the sender's transformer and the
receiver's reader both stop.

Between two clients with a channel each way, in any interleaving, each reader hands its task
exactly the messages the other task sent, in the order sent, up to the first `close`, and the
channels stay open (`exchange_delivers`): nothing is lost, duplicated or reordered, for as long as
the senders' counters last. The step lemma is `relay_delivers`: a relayed message keeps both
channels, since what it changes in each record (the sender's counter, the receiver's last CSN) is
what the link the other way does not read (`Link.crossing`).
-/

namespace SaltyRtc

open Signaling Handlers

/-- What an exchange leaves: the two clients' states, and the task messages each reader handed
to its task, in order. -/
structure Exchanged (σ τ : Type) where
  first : σ
  second : τ
  toFirst : List TaskMessage
  toSecond : List TaskMessage

section Relay

variable {σ τ : Type} [Handlers σ] [Handlers τ] (env : Env)

/-- A message of the task of `s` to the client `r`: the transformer of `s` turns it into WebSocket
messages, the server relays the first, a binary one, and the reader of `r` takes it. The two new
states, the task messages the reader handed on, and whether the transformer or the reader stops
after it; `none` if either fails. -/
def relay (msg : TaskMessage) (s : σ) (r : τ) : Option (σ × τ × List TaskMessage × Bool) :=
  match transform env msg s with
  | .ok (.binary bytes :: _, stop) s' =>
    let t := readerTurn env (.binary bytes) r
    match t.next with
    | .ok next => some (s', t.state, t.incoming, stop || next == .stop)
    | .error _ => none
  | _ => none

/-- The exchange of task messages between the clients `s` and `r`, in the order given, until a
message stops it or fails. -/
def exchange : List (TaskMessage ⊕ TaskMessage) → σ → τ → Option (Exchanged σ τ)
  | [], s, r => some ⟨s, r, [], []⟩
  | .inl msg :: rest, s, r =>
    match relay env msg s r with
    | none => none
    | some (s', r', got, stop) =>
      if stop then some ⟨s', r', [], got⟩
      else (exchange rest s' r').map fun e => { e with toSecond := got ++ e.toSecond }
  | .inr msg :: rest, s, r =>
    match relay env msg r s with
    | none => none
    | some (r', s', got, stop) =>
      if stop then some ⟨s', r', got, []⟩
      else (exchange rest s' r').map fun e => { e with toFirst := got ++ e.toFirst }

end Relay

/-- The messages of an exchange up to its first `close`, which ends it. -/
def untilClose : List (TaskMessage ⊕ TaskMessage) → List (TaskMessage ⊕ TaskMessage)
  | [] => []
  | x :: rest => x :: if (Sum.elim id id x : TaskMessage).isClose then [] else untilClose rest

/-- A message arrives as a `close` exactly when it was sent as one. -/
lemma TaskMessage.Received.isClose_eq {m m' : TaskMessage} (h : m.Received m') :
    m'.isClose = m.isClose := by
  cases m <;> cases m' <;> first | rfl | exact h.elim

namespace Signaling

variable {σ : Type} [Signaling σ] (env : Env)

/-- Our counter towards the chosen peer lasts for `n` more messages before it would pass the
48 bits of a CSN. -/
def CounterLasts (s : σ) (n : Nat) : Prop :=
  ∀ p, getPeer s = some p → p.csnPair.ours.combinedSequenceNumber.toNat + n < 2 ^ 48

/-- The transformer stops after a `close`, and only then. -/
lemma transform_stop {msg : TaskMessage} {s s' : σ} {out : List OwnedMessage × Bool}
    (h : transform env msg s = .ok out s') : out.2 = msg.isClose := by
  cases msg with
  | value map =>
    obtain ⟨_, _, -, h⟩ := EStateM.bind_eq_ok.mp h
    cases h
    rfl
  | application data =>
    obtain ⟨_, _, -, h⟩ := EStateM.bind_eq_ok.mp h
    cases h
    rfl
  | close reason =>
    obtain ⟨_, _, -, h⟩ := EStateM.bind_eq_ok.mp h
    cases h
    rfl

end Signaling

namespace Signaling

variable {σ : Type} [Handlers σ] {env : Env}

/-- Sending to the chosen peer writes back its CSN pair and leaves the common data as it was. -/
lemma SendsTo.common_eq (R : TaskRole σ) {s s' : σ} {payload : List UInt8} {bbox : ByteBox}
    (hsend : SendsTo env s payload bbox s') : common s' = common s := by
  obtain ⟨_, _, _, _, _, _, _, -, -, -, -, -, -, -, rfl⟩ := hsend
  exact R.common_setPeerCsnPair _ _

end Signaling

/-- The link in the other direction does not read what a message changes: the last CSN the
sender accepted from the receiver, and the receiver's own counter. -/
lemma Link.crossing {pub : PrivateKey → PublicKey} {src dst : ClientIdentity} {p q : Peer}
    (hl : Link pub src dst p q) (theirs : Option CombinedSequenceSnapshot) (ours : CombinedSequence) :
    Link pub src dst { p with csnPair := { p.csnPair with theirs } }
      { q with csnPair := { q.csnPair with ours } } :=
  ⟨hl.destination, hl.source, hl.keys, hl.cookie, hl.csn⟩

section Pair

variable {σ τ : Type} [Signaling σ] [Signaling τ]

/-- Two clients between the messages of an exchange: a channel each way, each in a phase its
role reaches, and counters that last for `ns` and `nr` more messages. -/
structure Duplex (pub : PrivateKey → PublicKey) (s : σ) (r : τ) (ns nr : Nat) : Prop where
  forward : Channel pub s r
  backward : Channel pub r s
  invFirst : Stage.Inv (role σ) (common s).stage
  invSecond : Stage.Inv (role τ) (common r).stage
  lastsFirst : CounterLasts s ns
  lastsSecond : CounterLasts r nr

/-- The two clients the other way round. -/
lemma Duplex.symm {pub : PrivateKey → PublicKey} {s : σ} {r : τ} {ns nr : Nat}
    (h : Duplex pub s r ns nr) : Duplex pub r s nr ns :=
  ⟨h.backward, h.forward, h.invSecond, h.invFirst, h.lastsSecond, h.lastsFirst⟩

/-- The receiver `r` has accepted the CSN the sender `s` last used: the last CSN in its record of
`s` is the counter of `s` towards it. -/
def Caught (s : σ) (r : τ) : Prop :=
  ∃ p q last, getPeer s = some p ∧ getPeer r = some q ∧ q.csnPair.theirs = some last ∧
    last.combinedSequenceNumber.toNat = p.csnPair.ours.combinedSequenceNumber.toNat

end Pair

section Deliver

variable {σ τ : Type} [Handlers σ] [Handlers τ] (env : Env)

/-- A binary message that `handle_message` makes into one task message is a turn of the reader
that hands it on, and stops the reader if it is a `close`. -/
lemma readerTurn_of_receiveBinary {bytes : List UInt8} {r r' : τ} {m : TaskMessage}
    (h : receiveBinary env bytes r = .ok [.taskMessage m] r') :
    readerTurn env (.binary bytes) r =
      ⟨r', [], [], [m], .ok (if m.isClose then .stop else .proceed)⟩ := by
  obtain ⟨bbox, r₁, hbox, hhandle⟩ := EStateM.bind_eq_ok.mp h
  cases hslice : ByteBox.fromSlice bytes with
  | error e => simp [liftFault, hslice] at hbox
  | ok b =>
    simp only [liftFault, hslice, EStateM.pure_apply, EStateM.Result.ok.injEq] at hbox
    obtain ⟨rfl, rfl⟩ := hbox
    simp [readerTurn, decodeWsMessage, hslice, readByteBox, hhandle, receiveActions,
      Received.empty]

variable {pub : PrivateKey → PublicKey} (Rs : TaskRole σ) (Rr : TaskRole τ)
  (hna : env.sodium.Ideal pub)
include Rs Rr hna

/-- One message relayed from `s` to `r`: the reader of `r` hands on the message sent, the message
stops the exchange if it is a `close`, the common data of both clients is kept, and the two
clients stay linked both ways with one message less on the sender's counter. The receiver has then
accepted the CSN the sender last used, and a CSN it had accepted the other way is left as it was:
the message changes the sender's counter and the receiver's last CSN, in the one record each
client keeps of the other. -/
theorem relay_delivers {s : σ} {r : τ} {msg : TaskMessage} {n k : Nat}
    (hd : Duplex pub s r (n + 1) k) (hcodec : env.msgpack.ReadsBack msg)
    (hdeliv : msg.Deliverable (common r).taskSupportedTypes) :
    ∃ s' r' m', relay env msg s r = some (s', r', [m'], msg.isClose) ∧ msg.Received m' ∧
      common s' = common s ∧ common r' = common r ∧ Duplex pub s' r' n k ∧
      Caught s' r' ∧ (Caught r s → Caught r' s') := by
  obtain ⟨p, q, hp, hq, hl⟩ := hd.forward.link
  obtain ⟨src, hsrc, -⟩ := hl.source
  obtain ⟨dst, hdst, -⟩ := hl.destination
  obtain ⟨kp, kp', hkp, -, -, -, hkey, -⟩ := hl.keys
  obtain ⟨⟨out, stop⟩, s', hrun⟩ := transform_ok env msg hd.backward.task hp hsrc hdst hkp hkey
    (by have := hd.lastsFirst p hp; omega)
  have hstop : stop = msg.isClose := transform_stop env hrun
  -- the sender: one box under its next CSN, which it stores
  obtain ⟨bbox, rest, hout, hsend⟩ := EStateM.of_triple (transform_spec env msg s) rfl hrun
  obtain ⟨ours, hp', hcsn, hours⟩ := hsend.csn Rs hp
  have hcs : common s' = common s := hsend.common_eq Rs
  -- the receiver: the message sent, in a record of the sender that stored the CSN of the nonce
  obtain ⟨r', hrecv, hdecode, hserver, hcr, hch', q₀, hq₀, hq'⟩ :=
    hd.forward.receive env Rs Rr hna hd.invSecond hsend hcodec
  obtain rfl : q = q₀ := Option.some.inj (hq.symm.trans hq₀)
  obtain ⟨m', hhandle, hreceived⟩ :=
    Handlers.handleTaskPeerMessage_wireValue env hserver hdecode (hcr ▸ hdeliv)
  have hturn := readerTurn_of_receiveBinary env (hrecv.trans hhandle)
  have hrelay : relay env msg s r = some (s', r', [m'], msg.isClose) := by
    simp only at hout
    subst hout hstop
    simp only [relay, hrun, hturn, hreceived.isClose_eq]
    cases msg.isClose <;> rfl
  obtain ⟨q₁, p₁, hq₁, hp₁, hl'⟩ := hd.backward.link
  obtain rfl : q = q₁ := Option.some.inj (hq.symm.trans hq₁)
  obtain rfl : p = p₁ := Option.some.inj (hp.symm.trans hp₁)
  have hback' : Channel pub r' s' := by
    refine ⟨hcs ▸ hd.backward.task, _, _, hq', hp', ?_⟩
    rw [hcr, hcs]
    exact hl'.crossing _ ours
  have hlasts : CounterLasts s' n := by
    intro p'' hp''
    obtain rfl := Option.some.inj (hp''.symm.trans hp')
    have := hd.lastsFirst p hp
    simp only [hours]
    omega
  have hlastr : CounterLasts r' k := by
    intro q'' hq''
    obtain rfl := Option.some.inj (hq''.symm.trans hq')
    exact hd.lastsSecond q hq
  refine ⟨s', r', m', hrelay, hreceived, hcs, hcr,
    ⟨hch', hback', by rw [hcs]; exact hd.invFirst, by rw [hcr]; exact hd.invSecond, hlasts,
      hlastr⟩,
    ⟨_, _, _, hp', hq', rfl, hcsn.trans hours.symm⟩, ?_⟩
  -- a CSN accepted the other way is where it was
  rintro ⟨q₂, p₂, last, hq₂, hp₂, hlast, hnum⟩
  obtain rfl : q = q₂ := Option.some.inj (hq.symm.trans hq₂)
  obtain rfl : p = p₂ := Option.some.inj (hp.symm.trans hp₂)
  exact ⟨_, _, last, hq', hp', hlast, hnum⟩

/-- Each reader hands its task what the other task sent, in order, up to the first `close`, and
both channels stay open; in each direction that carried a message, the receiver has accepted the
CSN the sender last used, and a direction where that held before keeps it. The induction is on
the exchange, with one case for each direction of its first message; that message is one
`relay_delivers`, after which the common data and `Duplex` carry the hypotheses over to the
rest. -/
theorem exchange_delivers_of {sends : List (TaskMessage ⊕ TaskMessage)} {s : σ} {r : τ}
    (hd : Duplex pub s r (sends.filterMap Sum.getLeft?).length
      (sends.filterMap Sum.getRight?).length)
    (hfirst : ∀ m ∈ sends.filterMap Sum.getLeft?,
      env.msgpack.ReadsBack m ∧ m.Deliverable (common r).taskSupportedTypes)
    (hsecond : ∀ m ∈ sends.filterMap Sum.getRight?,
      env.msgpack.ReadsBack m ∧ m.Deliverable (common s).taskSupportedTypes) :
    ∃ e, exchange env sends s r = some e ∧
      List.Forall₂ TaskMessage.Received ((untilClose sends).filterMap Sum.getLeft?) e.toSecond ∧
      List.Forall₂ TaskMessage.Received ((untilClose sends).filterMap Sum.getRight?) e.toFirst ∧
      Channel pub e.first e.second ∧ Channel pub e.second e.first ∧
      ((∃ m, Sum.inl m ∈ untilClose sends) ∨ Caught s r → Caught e.first e.second) ∧
      ((∃ m, Sum.inr m ∈ untilClose sends) ∨ Caught r s → Caught e.second e.first) := by
  induction sends generalizing s r with
  | nil =>
    refine ⟨_, rfl, .nil, .nil, hd.forward, hd.backward, ?_, ?_⟩
    · rintro (⟨m, hm⟩ | hc)
      · cases hm
      · exact hc
    · rintro (⟨m, hm⟩ | hc)
      · cases hm
      · exact hc
  | cons x rest ih =>
    cases x with
    | inl msg =>
      simp only [List.filterMap_cons, Sum.getLeft?_inl, Sum.getRight?_inl, List.mem_cons,
        forall_eq_or_imp, List.length_cons] at hd hfirst hsecond
      obtain ⟨⟨hcodec, hdeliv⟩, hfirst⟩ := hfirst
      obtain ⟨s', r', m', hrelay, hrec, hcs, hcr, hd', hcaught, hkeep⟩ :=
        relay_delivers env Rs Rr hna hd hcodec hdeliv
      cases hclose : msg.isClose
      · -- the exchange goes on from the new states
        obtain ⟨e, he, hto₂, hto₁, hche, hbacke, hc₁, hc₂⟩ :=
          ih hd' (by rwa [hcr]) (by rwa [hcs])
        refine ⟨{ e with toSecond := [m'] ++ e.toSecond }, ?_, ?_, ?_, hche, hbacke,
          fun _ => hc₁ (.inr hcaught), ?_⟩
        · simp [exchange, hrelay, hclose, he]
        · simpa [untilClose, hclose, List.filterMap_cons] using List.Forall₂.cons hrec hto₂
        · simpa [untilClose, hclose, List.filterMap_cons] using hto₁
        · rintro (⟨m, hm⟩ | hc)
          · simp only [untilClose, Sum.elim_inl, id, hclose, List.mem_cons, reduceCtorEq,
              false_or, Bool.false_eq_true, ↓reduceIte] at hm
            exact hc₂ (.inl ⟨m, hm⟩)
          · exact hc₂ (.inr (hkeep hc))
      · -- a `close` ends it
        refine ⟨⟨s', r', [], [m']⟩, ?_, ?_, ?_, hd'.forward, hd'.backward,
          fun _ => hcaught, ?_⟩
        · simp [exchange, hrelay, hclose]
        · simpa [untilClose, hclose, List.filterMap_cons] using List.Forall₂.cons hrec .nil
        · simp [untilClose, hclose, List.filterMap_cons]
        · rintro (⟨m, hm⟩ | hc)
          · simp [untilClose, hclose] at hm
          · exact hkeep hc
    | inr msg =>
      simp only [List.filterMap_cons, Sum.getLeft?_inr, Sum.getRight?_inr, List.mem_cons,
        forall_eq_or_imp, List.length_cons] at hd hfirst hsecond
      obtain ⟨⟨hcodec, hdeliv⟩, hsecond⟩ := hsecond
      obtain ⟨r', s', m', hrelay, hrec, hcr, hcs, hd', hcaught, hkeep⟩ :=
        relay_delivers env Rr Rs hna hd.symm hcodec hdeliv
      cases hclose : msg.isClose
      · obtain ⟨e, he, hto₂, hto₁, hche, hbacke, hc₁, hc₂⟩ :=
          ih hd'.symm (by rwa [hcr]) (by rwa [hcs])
        refine ⟨{ e with toFirst := [m'] ++ e.toFirst }, ?_, ?_, ?_, hche, hbacke, ?_,
          fun _ => hc₂ (.inr hcaught)⟩
        · simp [exchange, hrelay, hclose, he]
        · simpa [untilClose, hclose, List.filterMap_cons] using hto₂
        · simpa [untilClose, hclose, List.filterMap_cons] using List.Forall₂.cons hrec hto₁
        · rintro (⟨m, hm⟩ | hc)
          · simp only [untilClose, Sum.elim_inr, id, hclose, List.mem_cons, reduceCtorEq,
              false_or, Bool.false_eq_true, ↓reduceIte] at hm
            exact hc₁ (.inl ⟨m, hm⟩)
          · exact hc₁ (.inr (hkeep hc))
      · refine ⟨⟨s', r', [m'], []⟩, ?_, ?_, ?_, hd'.backward, hd'.forward, ?_,
          fun _ => hcaught⟩
        · simp [exchange, hrelay, hclose]
        · simp [untilClose, hclose, List.filterMap_cons]
        · simpa [untilClose, hclose, List.filterMap_cons] using List.Forall₂.cons hrec .nil
        · rintro (⟨m, hm⟩ | hc)
          · simp [untilClose, hclose] at hm
          · exact hkeep hc

end Deliver

/-- Between an initiator and a responder with a channel each way, in any interleaving of the
messages their tasks send, each reader hands its task exactly the messages the other task sent,
in the order sent, each as it was sent, up to the first `close`; and both channels stay open. The
tasks send messages the codec reads back and the receiving task takes, and each counter lasts
for the messages its client sends. -/
theorem exchange_delivers (env : Env) (pub : PrivateKey → PublicKey) (hna : env.sodium.Ideal pub)
    (sends : List (TaskMessage ⊕ TaskMessage)) (s : InitiatorSignaling) (r : ResponderSignaling)
    (hch : Channel pub s r) (hback : Channel pub r s)
    (hinvs : Stage.Inv .initiator s.common.stage) (hinvr : Stage.Inv .responder r.common.stage)
    (hfirst : ∀ m ∈ sends.filterMap Sum.getLeft?,
      env.msgpack.ReadsBack m ∧ m.Deliverable r.common.taskSupportedTypes)
    (hsecond : ∀ m ∈ sends.filterMap Sum.getRight?,
      env.msgpack.ReadsBack m ∧ m.Deliverable s.common.taskSupportedTypes)
    (hlasts : Signaling.CounterLasts s (sends.filterMap Sum.getLeft?).length)
    (hlastr : Signaling.CounterLasts r (sends.filterMap Sum.getRight?).length) :
    ∃ e, exchange env sends s r = some e ∧
      List.Forall₂ TaskMessage.Received ((untilClose sends).filterMap Sum.getLeft?) e.toSecond ∧
      List.Forall₂ TaskMessage.Received ((untilClose sends).filterMap Sum.getRight?) e.toFirst ∧
      Channel pub e.first e.second ∧ Channel pub e.second e.first := by
  obtain ⟨e, he, hto₂, hto₁, hch', hback', -⟩ :=
    exchange_delivers_of env InitiatorSignaling.taskRole ResponderSignaling.taskRole hna
      ⟨hch, hback, hinvs, hinvr, hlasts, hlastr⟩ hfirst hsecond
  exact ⟨e, he, hto₂, hto₁, hch', hback'⟩

namespace Toy

/-- The concrete initiator has a channel to the concrete responder. -/
lemma initiator_responder_channel : Channel Toy.pub Toy.initiatorInTask Toy.responderInTask :=
  ⟨rfl, _, _, rfl, rfl, ⟨⟨⟨2⟩, by decide, by decide⟩, ⟨⟨1⟩, rfl, rfl⟩,
    ⟨_, _, rfl, rfl, rfl, rfl, rfl, rfl⟩, rfl, ⟨_, rfl, le_refl _⟩⟩⟩

/-- The concrete responder has a channel to the concrete initiator. -/
lemma responder_initiator_channel : Channel Toy.pub Toy.responderInTask Toy.initiatorInTask :=
  ⟨rfl, _, _, rfl, rfl, ⟨⟨⟨1⟩, rfl, rfl⟩, ⟨⟨2⟩, by decide, by decide⟩,
    ⟨_, _, rfl, rfl, rfl, rfl, rfl, rfl⟩, rfl, ⟨_, rfl, le_refl _⟩⟩⟩

/-- The concrete initiator is in a phase its role reaches. -/
lemma initiatorInTask_inv : Stage.Inv .initiator Toy.initiatorInTask.common.stage :=
  Toy.taskCommon_inv (show ClientIdentity.initiator.Fits .initiator from trivial) 1

/-- The concrete responder is in a phase its role reaches. -/
lemma responderInTask_inv : Stage.Inv .responder Toy.responderInTask.common.stage :=
  Toy.taskCommon_inv (by simp [ClientIdentity.Fits]) 2

/-- A ping each way: the initiator's first. -/
def pings : List (TaskMessage ⊕ TaskMessage) := [.inl Toy.ping, .inr Toy.ping]

/-- The codec of the concrete channel reads back the ping, which any task takes. -/
lemma ping_sendable (ts : Option (List String)) :
    Toy.channelEnv.msgpack.ReadsBack Toy.ping ∧ Toy.ping.Deliverable ts :=
  ⟨Msgpack.ofRmp_readsBack Toy.ping rfl, trivial⟩

/-- The concrete initiator's counter lasts for its ping. -/
lemma initiatorInTask_lasts : Signaling.CounterLasts Toy.initiatorInTask 1 := by
  intro p hp
  cases hp
  decide

/-- The concrete responder's counter lasts for its ping. -/
lemma responderInTask_lasts : Signaling.CounterLasts Toy.responderInTask 1 := by
  intro p hp
  cases hp
  decide

end Toy

/-- A ping each way between the concrete initiator and responder. -/
theorem exchange_delivers_pings :
    ∃ e, exchange Toy.channelEnv Toy.pings Toy.initiatorInTask Toy.responderInTask = some e ∧
      List.Forall₂ TaskMessage.Received ((untilClose Toy.pings).filterMap Sum.getLeft?)
        e.toSecond ∧
      List.Forall₂ TaskMessage.Received ((untilClose Toy.pings).filterMap Sum.getRight?)
        e.toFirst ∧
      Channel Toy.pub e.first e.second ∧ Channel Toy.pub e.second e.first :=
  exchange_delivers Toy.channelEnv Toy.pub (Toy.sodium_ideal Toy.pub) Toy.pings _ _
    Toy.initiator_responder_channel Toy.responder_initiator_channel Toy.initiatorInTask_inv
    Toy.responderInTask_inv (by simpa [Toy.pings] using Toy.ping_sendable _)
    (by simpa [Toy.pings] using Toy.ping_sendable _) Toy.initiatorInTask_lasts
    Toy.responderInTask_lasts

end SaltyRtc
