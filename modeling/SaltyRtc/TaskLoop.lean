import SaltyRtc.Protocol.Handle

/-!
# The task loop

Port of the parts of `task_loop` in `src/lib.rs` that carry task messages once the handshake is
done. The transformer turns each message the task puts on the outgoing channel into WebSocket
messages: a task's map and an application message become a map value sent with
`encrypt_task_message`, a close becomes a `close` message sent with `encrypt_close_message`,
followed by a WebSocket close frame, after which the transformer ends. The reader parses each
binary WebSocket message into a byte box (`decode_ws_message`) and hands it to `handle_message`.

The futures, channels and locks around these steps are not modelled: a call here is one turn of
the loop on the client's state. A failed step ends the loop in the source; here it is the error
of the call.
-/

namespace SaltyRtc

/-- A WebSocket message the transformer forwards: a binary message, or a close frame with its
status code. -/
inductive OwnedMessage where
  | binary (bytes : List UInt8)
  | close (statusCode : UInt16)
  deriving DecidableEq

namespace Signaling

variable {σ : Type} [Signaling σ] (env : Env)

/-- `SaltyClient::encrypt_task_message`: encode a value for the chosen peer and frame it. -/
def encryptTaskMessage (val : Value) : SignalingM σ (List UInt8) := do
  let bbox ← encodeTaskMessage env val
  return bbox.intoBytes

/-- `SaltyClient::encrypt_close_message`: encode a `close` message for the chosen peer and frame
it. -/
def encryptCloseMessage (reason : CloseCode) : SignalingM σ (List UInt8) := do
  let bbox ← encodeCloseMessage env reason none
  return bbox.intoBytes

/-- The value the transformer sends for a task's map: its entries, each key as a string. -/
def valueMessage (map : ValueMap) : Value :=
  .map (map.entries.map fun e => (.ofString e.1, e.2))

/-- The value the transformer sends for an application message. -/
def applicationMessage (data : Value) : Value :=
  .map [(.ofString "type", .ofString "application"), (.ofString "data", data)]

/-- The transformer on one message of the outgoing channel: the WebSocket messages it forwards,
and whether it ends after them (its `Err(Ok(()))` after a close). -/
def transform : TaskMessage → SignalingM σ (List OwnedMessage × Bool)
  | .value map => do
    let bytes ← encryptTaskMessage env (valueMessage map)
    return ([.binary bytes], false)
  | .application data => do
    let bytes ← encryptTaskMessage env (applicationMessage data)
    return ([.binary bytes], false)
  | .close reason => do
    let bytes ← encryptCloseMessage env reason
    return ([.binary bytes, .close reason.asNumber], true)

end Signaling

namespace Handlers

variable {σ : Type} [Handlers σ] (env : Env)

/-- The reader on a binary WebSocket message: `decode_ws_message` parses it into a byte box, and
`handle_message` handles the box. -/
def receiveBinary (bytes : List UInt8) : SignalingM σ (List HandleAction) := do
  let bbox ← liftFault (ByteBox.fromSlice bytes)
  handleMessage env bbox

end Handlers

end SaltyRtc
