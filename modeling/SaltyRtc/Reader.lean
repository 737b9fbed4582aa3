import Mathlib
import SaltyRtc.Handshake

/-!
# The reader of the task loop

Port of the `reader` future of `task_loop` in `src/lib.rs`: once the handshake is done, it takes
the server's WebSocket messages one at a time (`decode_ws_message`), hands each byte box to
`handle_message`, and passes over the actions of the call (`receiveActions`): replies go to the
raw outgoing channel, task messages to the user, events to the event channel. A `HandshakeDone` or
a `HandshakeError` in the task loop is a crash. After a call that handed a `Close` to the user the
reader stops, without an error; a ping is answered by a pong, and a close frame or any other
message is passed over. The reader ends without an error when the stream does.

As for the handshake loop, the futures, channels and locks are not modelled, and the local
disconnect the reader races against (`disconnect_rx`) is left out: a turn is a function of the
client's state and of the next message, the stream a list.

From a reachable state in the task state, whatever the server sends (`reader_shape`): the reader
never crashes for a `HandshakeDone` or a `HandshakeError`; and every turn is a successful call of
`handle_message` without a handshake error, or leaves the client as it was, in the task state. A
`Close` is the last task message the reader hands to the user.
-/

namespace SaltyRtc

/-- `TaskMessage::Close`. -/
def TaskMessage.isClose : TaskMessage → Bool
  | .close _ => true
  | _ => false

/-- What the reader collects from the actions of one call: the messages for the server, the task
messages for the user, whether one of them is a `close`, and the events sent so far. -/
structure Received where
  outMessages : List (List UInt8)
  inMessages : List TaskMessage
  closeStream : Bool
  events : List Event

/-- Nothing collected yet. -/
def Received.empty : Received := ⟨[], [], false, []⟩

/-- The crash of a `HandshakeDone` in the task loop. -/
def handshakeDoneCrash : SaltyError := .crash "Got HandleAction::HandshakeDone in task loop"

/-- The crash of a `HandshakeError` in the task loop. -/
def handshakeErrorCrash : SaltyError := .crash "Got HandleAction::HandshakeError in task loop"

/-- The pass of the reader over the actions of one call, from what earlier actions collected; a
`HandshakeDone` or a `HandshakeError` stops it with a crash, after the events already sent. -/
def receiveActions : List HandleAction → Received → Received × Option SaltyError
  | [], acc => (acc, none)
  | .reply bbox :: rest, acc =>
    receiveActions rest { acc with outMessages := acc.outMessages ++ [bbox.intoBytes] }
  | .taskMessage msg :: rest, acc =>
    receiveActions rest
      { acc with inMessages := acc.inMessages ++ [msg], closeStream := acc.closeStream || msg.isClose }
  | .event e :: rest, acc => receiveActions rest { acc with events := acc.events ++ [e] }
  | .handshakeDone :: _, acc => (acc, some handshakeDoneCrash)
  | .handshakeError _ :: _, acc => (acc, some handshakeErrorCrash)

/-- One turn of the reader: the client's state after it, the events sent, the messages put on the
raw outgoing channel and the task messages handed to the user, and whether the reader goes on
(`Ok(())`), stops (`Err(Ok(()))`) or fails. -/
structure ReaderTurn (σ : Type) where
  state : σ
  events : List Event
  outgoing : List WsMessage
  incoming : List TaskMessage
  next : Except (Fault SaltyError) Loop

/-- What the reader leaves: the client's state, what it sent on each channel, in order, and
whether it ended (`ok`) or failed. -/
structure ReaderOutcome (σ : Type) where
  state : σ
  events : List Event
  outgoing : List WsMessage
  incoming : List TaskMessage
  result : Except (Fault SaltyError) Unit

section Reader

variable {σ : Type} [Handlers σ] (env : Env)

/-- The turn of the reader on a byte box: `handle_message`, the pass over its actions, then the
replies and the task messages sent, after which a `close` stops the reader. -/
def readByteBox (bbox : ByteBox) (s : σ) : ReaderTurn σ :=
  match Handlers.handleMessage env bbox s with
  | .error e s' => ⟨s', [], [], [], .error (e.map SaltyError.ofSignalingError)⟩
  | .ok actions s' =>
    match receiveActions actions .empty with
    | (acc, some e) => ⟨s', acc.events, [], [], .error (.err e)⟩
    | (acc, none) => ⟨s', acc.events, acc.outMessages.map .binary, acc.inMessages,
        .ok (if acc.closeStream then .stop else .proceed)⟩

/-- The closure the reader runs on each message of the stream. -/
def readerTurn (msg : WsMessage) (s : σ) : ReaderTurn σ :=
  match decodeWsMessage msg with
  | .error e => ⟨s, [], [], [], .error e⟩
  | .ok (.byteBox bbox) => readByteBox env bbox s
  | .ok (.ping payload) => ⟨s, [], [.pong payload], [], .ok .proceed⟩
  | .ok (.close _) => ⟨s, [], [], [], .ok .proceed⟩
  | .ok .ignore => ⟨s, [], [], [], .ok .proceed⟩

/-- The reader on the messages the server sends: turns until one stops or fails it, or the
stream ends. -/
def reader : List WsMessage → σ → ReaderOutcome σ
  | [], s => ⟨s, [], [], [], .ok ()⟩
  | msg :: rest, s =>
    let t := readerTurn env msg s
    match t.next with
    | .ok .proceed =>
      let o := reader rest t.state
      ⟨o.state, t.events ++ o.events, t.outgoing ++ o.outgoing, t.incoming ++ o.incoming, o.result⟩
    | next => ⟨t.state, t.events, t.outgoing, t.incoming, next.map fun _ => ()⟩

/-- A turn that goes on is followed by the rest of the reader. -/
lemma reader_cons_proceed {msg : WsMessage} {rest : List WsMessage} {s : σ} {t : ReaderTurn σ}
    (ht : readerTurn env msg s = t) (h : t.next = .ok .proceed) :
    reader env (msg :: rest) s =
      ⟨(reader env rest t.state).state, t.events ++ (reader env rest t.state).events,
        t.outgoing ++ (reader env rest t.state).outgoing,
        t.incoming ++ (reader env rest t.state).incoming, (reader env rest t.state).result⟩ := by
  simp only [reader, ht, h]

/-- A turn that stops or fails the reader is its last. -/
lemma reader_cons_of_ne {msg : WsMessage} {rest : List WsMessage} {s : σ} {t : ReaderTurn σ}
    (ht : readerTurn env msg s = t) (h : t.next ≠ .ok .proceed) :
    reader env (msg :: rest) s =
      ⟨t.state, t.events, t.outgoing, t.incoming, t.next.map fun _ => ()⟩ := by
  simp only [reader, ht]

end Reader

/-! ## The pass over the actions -/

/-- Replies and events add messages for the server and events, and nothing else. -/
lemma receiveActions_signals {l : List HandleAction} (h : ∀ a ∈ l, a.isSignal = true)
    (acc : Received) : ∃ msgs evs, receiveActions l acc =
      ({ acc with outMessages := acc.outMessages ++ msgs, events := acc.events ++ evs }, none) := by
  induction l generalizing acc with
  | nil => exact ⟨[], [], by simp [receiveActions]⟩
  | cons a l ih =>
    have hl := ih fun b hb => h b (by simp [hb])
    cases a with
    | reply bbox =>
      obtain ⟨msgs, evs, heq⟩ := hl { acc with outMessages := acc.outMessages ++ [bbox.intoBytes] }
      exact ⟨bbox.intoBytes :: msgs, evs, by simp [receiveActions, heq]⟩
    | event e =>
      obtain ⟨msgs, evs, heq⟩ := hl { acc with events := acc.events ++ [e] }
      exact ⟨msgs, e :: evs, by simp [receiveActions, heq]⟩
    | handshakeError => simp at h
    | handshakeDone => simp at h
    | taskMessage => simp [HandleAction.isSignal] at h

/-! ## The reader from a reachable state in the task state -/

section Run

variable {σ : Type} [Handlers σ] {env : Env}

open Signaling

/-- What one turn of the reader does from a state in the task state. -/
inductive ReaderTurn.Shape (env : Env) (s : σ) (t : ReaderTurn σ) : Prop
  /-- The reader goes on, in the task state, after handing no `Close` to the user. -/
  | proceeds : t.next = .ok .proceed → Steps env s t.state →
      (common t.state).signalingState = .task → (∀ code, .close code ∉ t.incoming) →
      ReaderTurn.Shape env s t
  /-- The reader stops after handing one `Close` to the user. -/
  | closed {code} : t.next = .ok .stop → Steps env s t.state →
      (common t.state).signalingState = .task → t.incoming = [.close code] →
      ReaderTurn.Shape env s t
  /-- The reader fails, not for a handshake action, and hands nothing to the user. -/
  | fails {e} : t.next = .error e → e ≠ .err handshakeDoneCrash → e ≠ .err handshakeErrorCrash →
      t.incoming = [] → ReaderTurn.Shape env s t

/-- What the reader does from a state in the task state, over all its turns. -/
inductive ReaderOutcome.Shape (env : Env) (s : σ) (o : ReaderOutcome σ) : Prop
  /-- The reader ends in the task state; a `Close` is the last task message it hands on. -/
  | ends : o.result = .ok () → Steps env s o.state → (common o.state).signalingState = .task →
      (∀ code, .close code ∈ o.incoming → o.incoming.getLast? = some (.close code)) →
      ReaderOutcome.Shape env s o
  /-- The reader fails, not for a handshake action, after handing on no `Close`. -/
  | fails {e} : o.result = .error e → e ≠ .err handshakeDoneCrash → e ≠ .err handshakeErrorCrash →
      (∀ code, .close code ∉ o.incoming) → ReaderOutcome.Shape env s o

/-- No error of `handle_message` becomes the crash of a `HandshakeDone` in the task loop. -/
lemma ofSignalingError_ne_handshakeDoneCrash (e : Fault SignalingError) :
    e.map SaltyError.ofSignalingError ≠ .err handshakeDoneCrash :=
  SaltyError.ofSignalingError_ne_crash e (by simp) (by simp)

/-- No error of `handle_message` becomes the crash of a `HandshakeError` in the task loop. -/
lemma ofSignalingError_ne_handshakeErrorCrash (e : Fault SignalingError) :
    e.map SaltyError.ofSignalingError ≠ .err handshakeErrorCrash :=
  SaltyError.ofSignalingError_ne_crash e (by simp) (by simp)

/-- A turn that leaves the client as it is and hands nothing on. -/
lemma ReaderTurn.Shape.of_idle {s : σ} {t : ReaderTurn σ} (hnext : t.next = .ok .proceed)
    (hstate : t.state = s) (hin : t.incoming = []) (ht : (common s).signalingState = .task) :
    ReaderTurn.Shape env s t := by
  refine .proceeds hnext ?_ (by rwa [hstate]) (by simp [hin])
  rw [hstate]
  exact .refl

variable {init : σ → Prop} (A : Handlers.ActionRole σ env) (hinit : ∀ s, init s → A.I s)

include A hinit

/-- The turn of the reader on a byte box from a reachable state in the task state. -/
lemma readByteBox_shape {bbox : ByteBox} {s : σ} (hs : Reach.Reachable (OkStep env) init s)
    (ht : (common s).signalingState = .task) : ReaderTurn.Shape env s (readByteBox env bbox s) := by
  cases hrun : Handlers.handleMessage env bbox s with
  | error e s' =>
    simp only [readByteBox, hrun]
    exact .fails rfl (ofSignalingError_ne_handshakeDoneCrash e)
      (ofSignalingError_ne_handshakeErrorCrash e) rfl
  | ok actions s' =>
    obtain ⟨hacts, hok, ht'⟩ := A.handleMessage_task (A.inv_of_reachable hinit hs) ht hrun
    have hsteps : Steps env s s' := .single ⟨bbox, hok⟩
    -- replies and events, nothing, or one task message
    rcases hacts with hsig | rfl | ⟨m, rfl⟩
    · obtain ⟨msgs, evs, hc⟩ := receiveActions_signals hsig .empty
      simp only [readByteBox, hrun, hc]
      exact .proceeds rfl hsteps ht' (by simp [Received.empty])
    · simp only [readByteBox, hrun]
      exact .proceeds rfl hsteps ht' (by simp [receiveActions, Received.empty])
    · cases m with
      | close code =>
        simp only [readByteBox, hrun]
        exact .closed rfl hsteps ht' rfl
      | value map =>
        simp only [readByteBox, hrun]
        exact .proceeds rfl hsteps ht' (by simp [receiveActions, Received.empty])
      | application data =>
        simp only [readByteBox, hrun]
        exact .proceeds rfl hsteps ht' (by simp [receiveActions, Received.empty])

/-- One turn of the reader from a reachable state in the task state. -/
lemma readerTurn_shape (msg : WsMessage) {s : σ} (hs : Reach.Reachable (OkStep env) init s)
    (ht : (common s).signalingState = .task) : ReaderTurn.Shape env s (readerTurn env msg s) := by
  cases hdec : decodeWsMessage msg with
  | error e =>
    simp only [readerTurn, hdec]
    refine .fails rfl ?_ ?_ rfl <;>
      rcases decodeWsMessage_eq_error hdec with ⟨m, rfl⟩ | ⟨m, rfl⟩ <;>
      simp [handshakeDoneCrash, handshakeErrorCrash]
  | ok decoded =>
    cases decoded with
    | byteBox bbox =>
      simp only [readerTurn, hdec]
      exact readByteBox_shape A hinit hs ht
    | ping payload =>
      simp only [readerTurn, hdec]
      exact .of_idle rfl rfl rfl ht
    | close code =>
      simp only [readerTurn, hdec]
      exact .of_idle rfl rfl rfl ht
    | ignore =>
      simp only [readerTurn, hdec]
      exact .of_idle rfl rfl rfl ht

/-- The reader from a reachable state in the task state, over any messages of the server. The
induction is on the messages; the turns that go on keep the state reachable and in the task
state, and hand on no `Close`. -/
theorem reader_shape (msgs : List WsMessage) {s : σ} (hs : Reach.Reachable (OkStep env) init s)
    (ht : (common s).signalingState = .task) : ReaderOutcome.Shape env s (reader env msgs s) := by
  induction msgs generalizing s with
  | nil => exact .ends rfl .refl ht (by simp [reader])
  | cons msg rest ih =>
    obtain ⟨t, htu⟩ : ∃ t, readerTurn env msg s = t := ⟨_, rfl⟩
    have hturn := readerTurn_shape A hinit msg hs ht
    rw [htu] at hturn
    cases hturn with
    | proceeds hnext hsteps ht' hnone =>
      rw [reader_cons_proceed env htu hnext]
      cases ih (hsteps.reachable hs) ht' with
      | ends hr hst htask hlast =>
        refine .ends hr (hsteps.trans hst) htask fun code hmem => ?_
        -- the `Close` comes from the rest of the run
        have hrest := (List.mem_append.mp hmem).resolve_left (hnone code)
        simp [List.getLast?_append, hlast code hrest]
      | fails hr hdone herr hno =>
        exact .fails hr hdone herr fun code hmem =>
          (List.mem_append.mp hmem).elim (hnone code) (hno code)
    | closed hnext hsteps htask hin =>
      rw [reader_cons_of_ne env htu (by simp [hnext]), hnext]
      refine .ends rfl hsteps htask fun code' hmem => ?_
      simp_all
    | fails hnext hdone herr hin =>
      rw [reader_cons_of_ne env htu (by simp [hnext]), hnext]
      exact .fails rfl hdone herr (by simp [hin])

end Run

/-- The reader of the task loop from every state either role reaches in the task state, whatever
the server sends: it never crashes for a `HandshakeDone` or a `HandshakeError`; when it ends,
every turn was a call of `handle_message` without a handshake error, or left the client as it
was, and the client is still in the task state; and a `Close` is the last task message it hands
to the user, none if it fails. -/
theorem task_loop_reader (env : Env) :
    (∀ (msgs : List WsMessage) (s : InitiatorSignaling), InitiatorSignaling.Reachable env s →
      (Signaling.common s).signalingState = .task → ReaderOutcome.Shape env s (reader env msgs s)) ∧
    (∀ (msgs : List WsMessage) (s : ResponderSignaling), ResponderSignaling.Reachable env s →
      (Signaling.common s).signalingState = .task → ReaderOutcome.Shape env s (reader env msgs s)) :=
  ⟨fun msgs _ hs ht => reader_shape (InitiatorSignaling.actionRole env)
      (fun _ => InitiatorSignaling.Inv.initial) msgs hs ht,
    fun msgs _ hs ht => reader_shape (ResponderSignaling.actionRole env)
      (fun _ => ResponderSignaling.Inv.initial) msgs hs ht⟩

end SaltyRtc
