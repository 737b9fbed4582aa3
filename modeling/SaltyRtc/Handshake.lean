import Mathlib
import SaltyRtc.Protocol.NoSharedTask

/-!
# The handshake loop

Port of `do_handshake` in `src/lib.rs`, with `decode_ws_message` and `preprocess_ws_message`. The
loop reads the server's WebSocket messages one at a time: a ping is answered by a pong, a text or
pong message is ignored, a close frame ends the loop, and a binary message is parsed into a byte
box and handed to `handle_message`. The loop then passes over the actions of the call
(`collectActions`): it collects the replies to send, forwards the events, notes `HandshakeDone`,
which ends the loop after this turn, and keeps the first `HandshakeError`, which fails the loop
once the replies are sent; a task message is a crash. An error of `handle_message` fails the loop
with the `SaltyError` it converts to.

The futures, the lock on the client, the channel of events and the timer are not modelled: a turn
is a function of the client's state and of the next message, the stream a list, and its end the
end of the list. Sending never fails here, and the channel of events stays open.

From a reachable state outside the task state, whatever the server sends (`doHandshake_shape`):
the loop never fails for a task message; and if it returns `Ok`, every turn that went on was a
successful call of `handle_message` without a handshake error, or left the client as it was, and
the client is in the task state with `PeerHandshakeDone` the last event sent, or the server sent a
close frame. No handshake error is dropped on the way: a turn that returns one goes on only if it
has no message to send, and in a reachable state such an error always comes with the `close`.
-/

namespace SaltyRtc

/-- A WebSocket message as the client receives and sends it (`OwnedMessage` of the `websocket`
crate); a close frame carries its status code and reason, if any. -/
inductive WsMessage where
  | text (payload : String)
  | binary (bytes : List UInt8)
  | close (data : Option (UInt16 × String))
  | ping (payload : List UInt8)
  | pong (payload : List UInt8)
  deriving DecidableEq

/-- `WsMessageDecoded`: a byte box, a ping to answer, a close frame, or a message to ignore. -/
inductive WsMessageDecoded where
  | byteBox (bbox : ByteBox)
  | ping (payload : List UInt8)
  | close (code : Option CloseCode)
  | ignore

/-- `decode_ws_message`: a binary message is parsed into a byte box, the status code of a close
frame into a close code. -/
def decodeWsMessage : WsMessage → Except (Fault SaltyError) WsMessageDecoded
  | .binary bytes =>
    match ByteBox.fromSlice bytes with
    | .ok bbox => .ok (.byteBox bbox)
    | .error (.err e) => .error (.err (.protocol e.display))
    | .error (.panic m) => .error (.panic m)
  | .ping payload => .ok (.ping payload)
  | .pong _ => .ok .ignore
  | .close (some (statusCode, _)) => .ok (.close (some (CloseCode.fromNumber statusCode)))
  | .close none => .ok (.close none)
  | .text _ => .ok .ignore

/-- `futures::future::Loop`: take the next message (`Continue`) or end the loop (`Break`). -/
inductive Loop where
  | proceed
  | stop
  deriving DecidableEq

/-- What the loop collects from the actions of one call: the messages to send back, whether the
handshake is done, the first handshake error, and the events sent to the user so far. -/
structure Collected where
  messages : List (List UInt8)
  handshakeDone : Bool
  lateError : Option SaltyError
  events : List Event

/-- Nothing collected yet. -/
def Collected.empty : Collected := ⟨[], false, none, []⟩

/-- The crash of a task message during the handshake. -/
def taskMessageCrash : SaltyError := .crash "Received task message during handshake"

/-- The pass of `do_handshake` over the actions of one call, from what earlier actions collected;
a task message stops it with a crash, after the events already sent. -/
def collectActions : List HandleAction → Collected → Collected × Option SaltyError
  | [], acc => (acc, none)
  | .reply bbox :: rest, acc =>
    collectActions rest { acc with messages := acc.messages ++ [bbox.intoBytes] }
  | .handshakeDone :: rest, acc =>
    collectActions rest
      { acc with handshakeDone := true, events := acc.events ++ [.peerHandshakeDone] }
  | .taskMessage _ :: _, acc => (acc, some taskMessageCrash)
  | .event e :: rest, acc => collectActions rest { acc with events := acc.events ++ [e] }
  | .handshakeError e :: rest, acc =>
    -- a later error is only logged
    collectActions rest (if acc.lateError.isSome then acc else { acc with lateError := some e })

/-- One turn of the loop: the client's state after it, the events sent to the user and the
messages sent to the server, and what the loop does next. -/
structure Turn (σ : Type) where
  state : σ
  events : List Event
  sent : List WsMessage
  next : Except (Fault SaltyError) Loop

/-- What `do_handshake` leaves: the client's state, the events sent and the messages sent, in
order, and whether the loop ended (`ok`) or failed. -/
structure Outcome (σ : Type) where
  state : σ
  events : List Event
  sent : List WsMessage
  result : Except (Fault SaltyError) Unit

section Loop

variable {σ : Type} [Handlers σ] (env : Env)

/-- The turn on a byte box: `handle_message`, the pass over its actions, and the replies sent,
after which the first handshake error fails the loop. -/
def handleByteBox (bbox : ByteBox) (s : σ) : Turn σ :=
  match Handlers.handleMessage env bbox s with
  | .error e s' => ⟨s', [], [], .error (e.map SaltyError.ofSignalingError)⟩
  | .ok actions s' =>
    match collectActions actions .empty with
    | (acc, some e) => ⟨s', acc.events, [], .error (.err e)⟩
    | (acc, none) =>
      let next := if acc.handshakeDone then Loop.stop else Loop.proceed
      -- with no message to send, the handshake error is not looked at
      if acc.messages.isEmpty then ⟨s', acc.events, [], .ok next⟩
      else ⟨s', acc.events, acc.messages.map .binary,
        match acc.lateError with
        | some e => .error (.err e)
        | none => .ok next⟩

/-- One turn of the loop of `do_handshake` on the next message of the stream, `none` at its
end. -/
def handshakeTurn (msg : Option WsMessage) (s : σ) : Turn σ :=
  match msg with
  | none => ⟨s, [], [], .error (.err (.network "Server message stream ended without close message"))⟩
  | some msg =>
    match decodeWsMessage msg with
    | .error e => ⟨s, [], [], .error e⟩
    | .ok (.byteBox bbox) => handleByteBox env bbox s
    | .ok (.ping payload) => ⟨s, [], [.pong payload], .ok .proceed⟩
    | .ok (.close _) => ⟨s, [], [], .ok .stop⟩
    | .ok .ignore => ⟨s, [], [], .ok .proceed⟩

/-- `do_handshake` on the messages the server sends: turns until one ends or fails the loop. -/
def doHandshake : List WsMessage → σ → Outcome σ
  | [], s =>
    let t := handshakeTurn env none s
    ⟨t.state, t.events, t.sent, t.next.map fun _ => ()⟩
  | msg :: rest, s =>
    let t := handshakeTurn env (some msg) s
    match t.next with
    | .ok .proceed =>
      let o := doHandshake rest t.state
      ⟨o.state, t.events ++ o.events, t.sent ++ o.sent, o.result⟩
    | next => ⟨t.state, t.events, t.sent, next.map fun _ => ()⟩

/-- A turn that goes on is followed by the rest of the loop. -/
lemma doHandshake_cons_proceed {msg : WsMessage} {rest : List WsMessage} {s : σ} {t : Turn σ}
    (ht : handshakeTurn env (some msg) s = t) (h : t.next = .ok .proceed) :
    doHandshake env (msg :: rest) s =
      ⟨(doHandshake env rest t.state).state, t.events ++ (doHandshake env rest t.state).events,
        t.sent ++ (doHandshake env rest t.state).sent, (doHandshake env rest t.state).result⟩ := by
  simp only [doHandshake, ht, h]

/-- A turn that ends or fails the loop is its last. -/
lemma doHandshake_cons_of_ne {msg : WsMessage} {rest : List WsMessage} {s : σ} {t : Turn σ}
    (ht : handshakeTurn env (some msg) s = t) (h : t.next ≠ .ok .proceed) :
    doHandshake env (msg :: rest) s = ⟨t.state, t.events, t.sent, t.next.map fun _ => ()⟩ := by
  simp only [doHandshake, ht]

/-- The turns that go on: successful calls of `handle_message` without a handshake error, and
turns that leave the client as it is. -/
def Steps : σ → σ → Prop :=
  Relation.ReflTransGen fun s s' => ∃ bbox, OkStep env s bbox s'

end Loop

/-! ## Decoding -/

/-- A message fails to decode only as a binary message that is no byte box, with a protocol
error. -/
lemma decodeWsMessage_eq_error {msg : WsMessage} {e : Fault SaltyError}
    (h : decodeWsMessage msg = .error e) :
    (∃ m, e = .err (.protocol m)) ∨ ∃ m, e = .panic m := by
  cases msg with
  | binary bytes =>
    simp only [decodeWsMessage] at h
    split at h <;> cases h
    · exact .inl ⟨_, rfl⟩
    · exact .inr ⟨_, rfl⟩
  | close data => rcases data with _ | ⟨_, _⟩ <;> cases h
  | text | ping | pong => cases h

/-- Only a close frame decodes as one. -/
lemma decodeWsMessage_eq_close {msg : WsMessage} {code : Option CloseCode}
    (h : decodeWsMessage msg = .ok (.close code)) : ∃ data, msg = .close data := by
  cases msg with
  | binary bytes =>
    simp only [decodeWsMessage] at h
    split at h <;> cases h
  | close data => exact ⟨data, rfl⟩
  | text | ping | pong => cases h

/-! ## The pass over the actions -/

/-- The pass over two lists of actions is the pass over the first, then over the second from
what the first collected, unless the first crashed. -/
lemma collectActions_append (l₁ l₂ : List HandleAction) (acc : Collected) :
    collectActions (l₁ ++ l₂) acc =
      match collectActions l₁ acc with
      | (acc', none) => collectActions l₂ acc'
      | r => r := by
  fun_induction collectActions l₁ acc <;> simp_all [collectActions]

/-- Replies and events add messages and events, and nothing else. -/
lemma collectActions_signals {l : List HandleAction} (h : ∀ a ∈ l, a.isSignal = true)
    (acc : Collected) : ∃ msgs evs, collectActions l acc =
      ({ acc with messages := acc.messages ++ msgs, events := acc.events ++ evs }, none) := by
  induction l generalizing acc with
  | nil => exact ⟨[], [], by simp [collectActions]⟩
  | cons a l ih =>
    have hl := ih fun b hb => h b (by simp [hb])
    -- a reply or an event, then the rest
    cases a with
    | reply bbox =>
      obtain ⟨msgs, evs, heq⟩ := hl { acc with messages := acc.messages ++ [bbox.intoBytes] }
      exact ⟨bbox.intoBytes :: msgs, evs, by simp [collectActions, heq]⟩
    | event e =>
      obtain ⟨msgs, evs, heq⟩ := hl { acc with events := acc.events ++ [e] }
      exact ⟨msgs, e :: evs, by simp [collectActions, heq]⟩
    | handshakeError => simp at h
    | handshakeDone => simp at h
    | taskMessage => simp [HandleAction.isSignal] at h

/-- Replies and events, then `HandshakeDone`: the handshake is done, and `PeerHandshakeDone` is
the last event. -/
lemma collectActions_done {replies : List HandleAction} (h : ∀ a ∈ replies, a.isSignal = true) :
    ∃ msgs evs, collectActions (replies ++ [.handshakeDone]) .empty =
      (⟨msgs, true, none, evs ++ [.peerHandshakeDone]⟩, none) := by
  obtain ⟨msgs, evs, heq⟩ := collectActions_signals h .empty
  refine ⟨msgs, evs, ?_⟩
  rw [collectActions_append, heq]
  simp [collectActions, Collected.empty]

/-! ## The turn on a byte box -/

section ByteBox

variable {σ : Type} [Handlers σ] {env : Env} {bbox : ByteBox} {s s' : σ}
  {actions : List HandleAction} {acc : Collected}

/-- Actions that collect without a crash or a handshake error: the turn sends the replies, and
goes on unless the handshake is done. -/
lemma handleByteBox_of_collected (hrun : Handlers.handleMessage env bbox s = .ok actions s')
    (hc : collectActions actions .empty = (acc, none)) (hlate : acc.lateError = none) :
    handleByteBox env bbox s = ⟨s', acc.events, acc.messages.map .binary,
      .ok (if acc.handshakeDone then .stop else .proceed)⟩ := by
  -- with no message to send, the two branches agree
  by_cases hempty : acc.messages = []
  · simp [handleByteBox, hrun, hc, hempty]
  · simp [handleByteBox, hrun, hc, hlate, hempty]

/-- Actions with a handshake error and a reply: the turn sends the replies, then fails with the
first error. -/
lemma handleByteBox_of_lateError {e : SaltyError}
    (hrun : Handlers.handleMessage env bbox s = .ok actions s')
    (hc : collectActions actions .empty = (acc, none)) (hlate : acc.lateError = some e)
    (hmsgs : acc.messages ≠ []) :
    handleByteBox env bbox s = ⟨s', acc.events, acc.messages.map .binary, .error (.err e)⟩ := by
  simp [handleByteBox, hrun, hc, hlate, hmsgs]

end ByteBox

/-! ## The loop from a reachable state -/

section Run

variable {σ : Type} [Handlers σ] {env : Env}

open Signaling

/-- The turns that go on keep a state reachable. -/
lemma Steps.reachable {init : σ → Prop} {s s' : σ} (h : Steps env s s')
    (hs : Reach.Reachable (OkStep env) init s) : Reach.Reachable (OkStep env) init s' := by
  induction h with
  | refl => exact hs
  | tail _ hstep ih =>
    obtain ⟨bbox, hok⟩ := hstep
    exact .step bbox ih hok

/-- What one turn of the loop does from a state outside the task state. -/
inductive Turn.Shape (env : Env) (s : σ) (msg : Option WsMessage) (t : Turn σ) : Prop
  /-- The loop goes on from a state outside the task state. -/
  | proceeds : t.next = .ok .proceed → Steps env s t.state →
      (common t.state).signalingState ≠ .task → Turn.Shape env s msg t
  /-- The handshake is done: `PeerHandshakeDone` is the last event of the turn. -/
  | done : t.next = .ok .stop → Steps env s t.state → (common t.state).signalingState = .task →
      t.events.getLast? = some .peerHandshakeDone → Turn.Shape env s msg t
  /-- The server closed the connection. -/
  | closed {data} : msg = some (.close data) → t.next = .ok .stop → t.state = s →
      Turn.Shape env s msg t
  /-- The loop fails, not for a task message. -/
  | fails {e} : t.next = .error e → e ≠ .err taskMessageCrash → Turn.Shape env s msg t

/-- What the loop does from a state outside the task state, over all its turns. -/
inductive Outcome.Shape (env : Env) (s : σ) (msgs : List WsMessage) (o : Outcome σ) : Prop
  /-- The handshake is done: `PeerHandshakeDone` is the last event sent. -/
  | done : o.result = .ok () → Steps env s o.state → (common o.state).signalingState = .task →
      o.events.getLast? = some .peerHandshakeDone → Outcome.Shape env s msgs o
  /-- The server closed the connection before the handshake was done. -/
  | closed {data} : o.result = .ok () → Steps env s o.state →
      (common o.state).signalingState ≠ .task → WsMessage.close data ∈ msgs →
      Outcome.Shape env s msgs o
  /-- The loop fails, not for a task message. -/
  | fails {e} : o.result = .error e → e ≠ .err taskMessageCrash → Outcome.Shape env s msgs o

/-- No error of `handle_message` becomes the crash of a task message. -/
lemma ofSignalingError_ne_taskMessageCrash (e : Fault SignalingError) :
    e.map SaltyError.ofSignalingError ≠ .err taskMessageCrash :=
  SaltyError.ofSignalingError_ne_crash e (by simp) (by simp)

variable {init : σ → Prop} (A : Handlers.ActionRole σ env) (hinit : ∀ s, init s → A.I s)
  (herr : ∀ s bbox actions s', Reach.Reachable (OkStep env) init s →
    Handlers.handleMessage env bbox s = .ok actions s' →
    NoHandshakeError actions ∨ ∃ close, actions = [.reply close, .handshakeError .noSharedTask])

include A hinit herr

/-- The turn on a byte box from a reachable state outside the task state. The one handshake
error a successful call returns there, `NoSharedTask`, comes with the `close`, so the turn sends
it and fails. -/
lemma handleByteBox_shape {bbox : ByteBox} {s : σ} (hs : Reach.Reachable (OkStep env) init s)
    (hnt : (common s).signalingState ≠ .task) (msg : Option WsMessage) :
    Turn.Shape env s msg (handleByteBox env bbox s) := by
  cases hrun : Handlers.handleMessage env bbox s with
  | error e s' =>
    simp only [handleByteBox, hrun]
    exact .fails rfl (ofSignalingError_ne_taskMessageCrash e)
  | ok actions s' =>
    cases A.handleMessage_shape (A.inv_of_reachable hinit hs) hrun with
    | signals hsig htask =>
      have hok : OkStep env s bbox s' := ⟨actions, hrun, .of_signals hsig⟩
      obtain ⟨msgs, evs, hc⟩ := collectActions_signals hsig .empty
      rw [handleByteBox_of_collected hrun hc rfl]
      exact .proceeds rfl (.single ⟨bbox, hok⟩) fun ht => hnt (htask ht)
    | task htask => exact absurd htask hnt
    | done hsig _ htask =>
      have hok : OkStep env s bbox s' := ⟨_, hrun, .of_done hsig⟩
      obtain ⟨msgs, evs, hc⟩ := collectActions_done hsig
      rw [handleByteBox_of_collected hrun hc rfl]
      exact .done rfl (.single ⟨bbox, hok⟩) htask (by simp)
    | noSharedTask =>
      -- in a reachable state the error comes with the `close`
      rcases herr s bbox _ s' hs hrun with hno | ⟨close, hclose⟩
      · exact absurd (hno (.handshakeError .noSharedTask) (by simp)) (by simp [HandleAction.isHandshakeError])
      rw [hclose] at hrun
      have hc : collectActions [.reply close, .handshakeError .noSharedTask] .empty =
          (⟨[close.intoBytes], false, some .noSharedTask, []⟩, none) := rfl
      rw [handleByteBox_of_lateError hrun hc rfl (by simp)]
      exact .fails rfl (by simp [taskMessageCrash])

/-- One turn of the loop from a reachable state outside the task state. -/
lemma handshakeTurn_shape (msg : Option WsMessage) {s : σ}
    (hs : Reach.Reachable (OkStep env) init s) (hnt : (common s).signalingState ≠ .task) :
    Turn.Shape env s msg (handshakeTurn env msg s) := by
  -- the end of the stream, then each kind of message
  rcases msg with _ | msg
  · exact .fails rfl (by simp [taskMessageCrash])
  cases hdec : decodeWsMessage msg with
  | error e =>
    simp only [handshakeTurn, hdec]
    refine .fails rfl ?_
    rcases decodeWsMessage_eq_error hdec with ⟨m, rfl⟩ | ⟨m, rfl⟩ <;> simp [taskMessageCrash]
  | ok decoded =>
    cases decoded with
    | byteBox bbox =>
      simp only [handshakeTurn, hdec]
      exact handleByteBox_shape A hinit herr hs hnt _
    | ping payload =>
      simp only [handshakeTurn, hdec]
      exact .proceeds rfl .refl hnt
    | close code =>
      obtain ⟨data, rfl⟩ := decodeWsMessage_eq_close hdec
      simp only [handshakeTurn, hdec]
      exact .closed rfl rfl rfl
    | ignore =>
      simp only [handshakeTurn, hdec]
      exact .proceeds rfl .refl hnt

/-- The loop from a reachable state outside the task state, over any messages of the server. The
induction is on the messages; the turns that go on keep the state reachable and outside the
task state. -/
theorem doHandshake_shape (msgs : List WsMessage) {s : σ}
    (hs : Reach.Reachable (OkStep env) init s) (hnt : (common s).signalingState ≠ .task) :
    Outcome.Shape env s msgs (doHandshake env msgs s) := by
  induction msgs generalizing s with
  | nil => exact .fails rfl (by simp [taskMessageCrash])
  | cons msg rest ih =>
    obtain ⟨t, ht⟩ : ∃ t, handshakeTurn env (some msg) s = t := ⟨_, rfl⟩
    have hturn := handshakeTurn_shape A hinit herr (some msg) hs hnt
    rw [ht] at hturn
    cases hturn with
    | proceeds hnext hsteps hnt' =>
      rw [doHandshake_cons_proceed env ht hnext]
      cases ih (hsteps.reachable hs) hnt' with
      | done hr hst htask hlast =>
        exact .done hr (hsteps.trans hst) htask (by simp [List.getLast?_append, hlast])
      | closed hr hst htask hmem => exact .closed hr (hsteps.trans hst) htask (.tail _ hmem)
      | fails hr hne => exact .fails hr hne
    | done hnext hsteps htask hlast =>
      rw [doHandshake_cons_of_ne env ht (by simp [hnext]), hnext]
      exact .done rfl hsteps htask hlast
    | closed hmsg hnext hstate =>
      rw [doHandshake_cons_of_ne env ht (by simp [hnext]), hnext]
      obtain rfl := Option.some.inj hmsg
      have hsteps : Steps env s t.state := by
        rw [hstate]
        exact .refl
      exact .closed rfl hsteps (by rwa [hstate]) (.head _)
    | fails hnext hne =>
      rw [doHandshake_cons_of_ne env ht (by simp [hnext]), hnext]
      exact .fails rfl hne

end Run

/-- `do_handshake` from every state either role reaches outside the task state, whatever the
server sends: the loop never fails for a task message; and when it returns, every turn that went
on was a call of `handle_message` without a handshake error, and the handshake is done with
`PeerHandshakeDone` the last event, or the server sent a close frame and the client is still
outside the task state. -/
theorem do_handshake_outcome (env : Env) :
    (∀ (msgs : List WsMessage) (s : InitiatorSignaling), InitiatorSignaling.Reachable env s →
      (Signaling.common s).signalingState ≠ .task →
      Outcome.Shape env s msgs (doHandshake env msgs s)) ∧
    (∀ (msgs : List WsMessage) (s : ResponderSignaling), ResponderSignaling.Reachable env s →
      (Signaling.common s).signalingState ≠ .task →
      Outcome.Shape env s msgs (doHandshake env msgs s)) :=
  ⟨fun msgs _ hs hnt => doHandshake_shape (InitiatorSignaling.actionRole env)
      (fun _ => InitiatorSignaling.Inv.initial)
      (fun _ _ _ _ hs h => InitiatorSignaling.reachable_handshakeError env hs h) msgs hs hnt,
    fun msgs _ hs hnt => doHandshake_shape (ResponderSignaling.actionRole env)
      (fun _ => ResponderSignaling.Inv.initial)
      (fun _ _ _ _ hs h => .inl (ResponderSignaling.reachable_noHandshakeError env hs h)) msgs hs hnt⟩

end SaltyRtc
