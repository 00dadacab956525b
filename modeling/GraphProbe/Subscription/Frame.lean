import GraphProbe.Subscription.State
import GraphProbe.Log

/-!
# Frames from the server

A frame from the server is a JSON object with a `type`. A subscription acts on three kinds:
`complete` ends the stream, `connection_ack` acknowledges the connection, and `data` or
`error` carry an answer in their `payload`. A payload that is no object is an error list:
an array as it is, anything else as the single error. Frames of other types are ignored.

`State.receive` applies one frame to an attempt and says what it logged. A frame that breaks
these rules is a failure; `State.dispatch` is the client's wrapper around it, which keeps the
first failure in the state, logs it, and lets every other fault through.

Both sides of a subscription call its attempt: the client marks its progress and drains the
buffer, the session delivers frames and the notice that it closed. Each such `Call` runs whole
under the attempt's lock, so however the two sides interleave, what happens to an attempt is
a sequence of calls (`State.call`).
-/

namespace GraphProbe.Subscription

/-- What a server frame tells a subscription. -/
inductive ServerMessage where
  | complete
  | acknowledge
  | answer (r : Response)
  | ignored
  deriving Inhabited

/-- The failure of a frame without a type. -/
def typeMissing : Fault := Fault.fail "GraphQL messages should have a type field."

/-- The payload of a data or error frame as an answer payload: objects as they are, arrays
as the error list, anything else as the single error. -/
def answerPayload : Value → Value
  | .obj fs => .obj fs
  | .arr xs => .obj [("errors", .arr xs)]
  | v => .obj [("errors", .arr [v])]

namespace ServerMessage

/-- Read a frame's text. -/
def ofText (text : String) : Except Fault ServerMessage := do
  let fs ← match ← Response.decode text with
    | .obj fs => pure fs
    | _ => throw typeMissing
  match fs.lookup "type" with
  | none => throw typeMissing
  | some .null => throw (Fault.fail "GraphQL messages type should not be null.")
  | some (.str "complete") => pure .complete
  | some (.str "connection_ack") => pure .acknowledge
  | some (.str "data") | some (.str "error") =>
    match fs.lookup "payload" with
    | none | some .null => throw (Fault.fail "Data/error messages must have a payload.")
    | some p => pure (.answer (← Response.make (answerPayload p)))
  | some _ => pure .ignored

end ServerMessage

/-- A record of the frame handler. -/
def handlerRecord (text : String) (context : List (String × Value)) : LogRecord :=
  LogRecord.ofKit "subscription.handler" .debug text context

/-- What one attempt does with a frame: the records it logs and the new state, or the
failure the frame causes. -/
def State.receive (s : State) (text : String) : List LogRecord × Except Fault State :=
  let about := [("subscription_id", Value.int s.id)]
  let heard := handlerRecord "received message from web socket"
    [("subscription_id", .int s.id), ("message", .str text)]
  match ServerMessage.ofText text with
  | .error f => ([heard], .error f)
  | .ok .complete =>
    ([heard, handlerRecord "subscription completed" about], .ok (s.mark .completed))
  | .ok .acknowledge =>
    ([heard, handlerRecord "web socket connection acknowledged by the graphql server" about],
      .ok (s.mark .acknowledged))
  | .ok (.answer r) =>
    match s.append r with
    | (true, s') => ([heard, handlerRecord "new response recorded" about], .ok s')
    | (false, s') =>
      ([heard, handlerRecord "response discarded because subscription was stopped or completed"
        about], .ok s')
  | .ok .ignored => ([heard], .ok s)

/-- The client's handling of a frame: a failure is kept in the state and logged, every other
fault is passed on. -/
def State.dispatch (s : State) (text : String) : List LogRecord × Except Fault State :=
  match s.receive text with
  | (logs, .error f) =>
    if f.isFailure then
      (logs ++ [LogRecord.ofKit "subscription.driver" .error
          "invalid message received from graphql server"
          [("subscription_id", .int s.id), ("error", .str f.text)]],
        .ok (s.recordFailure f))
    else (logs, .error f)
  | r => r

/-! ### Calls on an attempt -/

/-- A call on an attempt, made by the client or by a session. -/
inductive Call where
  | markInitialized
  | markAcknowledged
  | markStarted
  | markStopped
  | markCompleted
  | recordFailure (f : Fault)
  | append (r : Response)
  | bufferedCount
  /-- Take up to a count of answers from the front of the buffer; all without a count. -/
  | drain (count : Option Int)
  /-- A frame, handled by the handler itself. -/
  | handle (text : String)
  /-- A frame, handled through the client's wrapper. -/
  | dispatch (text : String)
  deriving Inhabited

/-- What a call answers. -/
inductive Answer where
  | done
  | kept (b : Bool)
  | count (n : Nat)
  | taken (rs : List Response)
  deriving Inhabited

/-- The outcome of handling a frame as a call: a fault leaves the state as it was. -/
def State.settle (s : State) : List LogRecord × Except Fault State →
    List LogRecord × Except Fault Answer × State
  | (logs, .ok s') => (logs, .ok .done, s')
  | (logs, .error f) => (logs, .error f, s)

/-- Run a call: what it logs, what it answers or raises, and the state after it. -/
def State.call (s : State) : Call → List LogRecord × Except Fault Answer × State
  | .markInitialized => ([], .ok .done, s.mark .initialized)
  | .markAcknowledged => ([], .ok .done, s.mark .acknowledged)
  | .markStarted =>
    match s.markStarted with
    | .ok s' => ([], .ok .done, s')
    | .error f => ([], .error f, s)
  | .markStopped => ([], .ok .done, s.mark .stopped)
  | .markCompleted => ([], .ok .done, s.mark .completed)
  | .recordFailure f => ([], .ok .done, s.recordFailure f)
  | .append r => let (b, s') := s.append r; ([], .ok (.kept b), s')
  | .bufferedCount => ([], .ok (.count s.buffered), s)
  | .drain count => let (rs, s') := s.drain count; ([], .ok (.taken rs), s')
  | .handle text => s.settle (s.receive text)
  | .dispatch text => s.settle (s.dispatch text)

end GraphProbe.Subscription
