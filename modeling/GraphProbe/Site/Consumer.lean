import GraphProbe.Site.Schema
import GraphProbe.Fault

/-!
# The subscription endpoint

The site answers subscriptions over a web socket in the `graphql-ws` protocol. Each frame
from the client is a JSON object with a `type`:

* `connection_init` is acknowledged with `connection_ack`; a second one is refused with a
  `connection_error` and the socket is closed with code 4429.
* `start` needs an acknowledged connection (else close 4401), an id that is a text or an
  integer and a payload that is an object (else close 4403). A missing query text, variables
  that are no object and an operation name that is no text are refused with an `error` and a
  `complete`; so are syntax errors and the errors of subscribing. Otherwise the operation's
  event source is streamed: a `data` frame per event, an `error` frame if the source fails,
  a `complete` frame at the end. Starting an id that streams already stops that stream first.
* `stop` cancels the stream of an id that is a text, an integer or a truth value (which still
  sends its `complete`).
* `connection_terminate` closes the socket.
* Any other type is answered with an `error` naming it.

A frame that is not a JSON object breaks the endpoint down: it stops handling the session.

The endpoint is a state machine: handling a frame gives the frames to send back, and the
streams it runs advance one step at a time when the session lets them.
-/

namespace GraphProbe.Site

open Graphql

/-- What a session application sends to the client. -/
inductive Outgoing where
  /-- Accept the connection, choosing a sub-protocol or none. -/
  | accept (subprotocol : Option String)
  | text (t : String)
  | bytes (data : List UInt8)
  /-- A send that carries neither text nor bytes. -/
  | empty
  /-- Close the connection, with a code or without. -/
  | close (code : Option Nat)
  deriving Inhabited, Repr

/-- What an application sends, as the message it hands over. -/
def Outgoing.toValue : Outgoing → Value
  | .accept sp => .obj [("type", .str "websocket.accept"),
      ("subprotocol", match sp with | some p => .str p | none => .null)]
  | .text t => .obj [("type", .str "websocket.send"), ("text", .str t)]
  | .bytes b => .obj [("type", .str "websocket.send"), ("bytes", .bytes b)]
  | .empty => .obj [("type", .str "websocket.send")]
  | .close (some c) => .obj [("type", .str "websocket.close"), ("code", .int c)]
  | .close none => .obj [("type", .str "websocket.close")]

/-- A frame as JSON text, the way the endpoint writes it. -/
def frameOf (v : Value) : Outgoing := .text ((Json.write .plain v).toOption.getD "")

/-- One subscription being streamed. -/
structure Stream where
  /-- The operation id the client chose. -/
  id : Value
  source : EventSource
  /-- How many events were emitted. -/
  emitted : Nat := 0
  doc : Document
  body : Array Char
  operationName : Option String
  vars : List (String × Value)
  /-- Whether the stream's next step is due (otherwise it pauses or waits forever). -/
  ready : Bool := true
  /-- The number that tells this stream from earlier ones. -/
  token : Nat
  deriving Inhabited

/-- The endpoint's state on one session. -/
structure Consumer where
  acknowledged : Bool := false
  /-- The streams in the order they were started. -/
  streams : List Stream := []
  nextToken : Nat := 0
  deriving Inhabited

/-- The sub-protocol the endpoint speaks. -/
def graphqlWs : String := "graphql-ws"

/-- How the endpoint accepts a connection offering these sub-protocols. -/
def acceptFor (subprotocols : List String) : Outgoing :=
  .accept (if subprotocols.contains graphqlWs then some graphqlWs else none)

/-- Whether two operation ids are the same key: equal texts, or equal integers, where a truth
value is the integer 1 or 0. -/
def sameId : Value → Value → Bool
  | .str a, .str b => a == b
  | .int a, .int b => a == b
  | .int a, .bool b | .bool b, .int a => a == if b then 1 else 0
  | .bool a, .bool b => a == b
  | _, _ => false

/-- The `complete` frame of an id. -/
def completeFrame (id : Value) : Outgoing :=
  frameOf (.obj [("type", .str "complete"), ("id", id)])

/-- The `error` frame of an id with a payload. -/
def errorFrame (id : Value) (payload : Value) : Outgoing :=
  frameOf (.obj [("type", .str "error"), ("id", id), ("payload", payload)])

/-- Refuse a start: an `error` with the payload, then `complete`. -/
def reject (id : Value) (payload : Value) : List Outgoing :=
  [errorFrame id payload, completeFrame id]

/-- A refusal with a message. -/
def rejectWith (id : Value) (message : String) : List Outgoing :=
  reject id (.obj [("message", .str message)])

/-- The payload of an answer: its data, and its errors when there are any. -/
def answerPayload (body : Array Char) (r : ExecutionResult) : Value :=
  .obj ([("data", r.data.getD .null)] ++
    (if r.errors.isEmpty then [] else [("errors", .arr (r.errors.map (·.toValue body)))]))

namespace Consumer

/-- Cancel the stream of an id, if one runs: it sends its `complete`. -/
def stopStream (c : Consumer) (id : Value) : Consumer × List Outgoing :=
  match c.streams.find? (sameId ·.id id) with
  | some s => ({ c with streams := c.streams.filter (·.token != s.token) }, [completeFrame s.id])
  | none => (c, [])

/-- Handle a `start` frame: the new state and the frames to send, or the fault that breaks
the endpoint down while it subscribes. -/
def start (c : Consumer) (content : List (String × Value)) :
    Except Fault (Consumer × List Outgoing) :=
  if !c.acknowledged then .ok (c, [.close (some 4401)]) else
  let id := (content.lookup "id").getD .null
  let payload := (content.lookup "payload").getD (.obj [])
  match id, payload with
  | .str _, .obj p | .int _, .obj p =>
    match p.lookup "query" with
    | some (.str query) =>
      let vars := (p.lookup "variables").getD .null
      let operationName := (p.lookup "operationName").getD .null
      match vars with
      | .null | .obj _ =>
        match operationName with
        | .null | .str _ =>
          let name := match operationName with | .str n => some n | _ => none
          let vars := match vars with | .obj fs => fs | _ => []
          let body := Text.view query
          match parse query with
          | .error e => .ok (c, reject id (e.toError.toValue body))
          | .ok doc =>
            match subscribe schema doc name vars with
            | .failed errs =>
              match errs.head? with
              | some e => .ok (c, reject id (e.toValue body))
              | none => .ok (c, [])
            | .breakdown f => .error f
            | .stream source =>
              let (c, stopped) := c.stopStream id
              let s : Stream := { id, source, doc, body, operationName := name,
                                  vars := vars, token := c.nextToken }
              .ok ({ c with streams := c.streams ++ [s], nextToken := c.nextToken + 1 }, stopped)
        | _ => .ok (c, rejectWith id "The operation name must be a string when provided.")
      | _ => .ok (c, rejectWith id "Variables must be provided as an object.")
    | _ => .ok (c, rejectWith id "A GraphQL query string is required.")
  | _, _ => .ok (c, [.close (some 4403)])

/-- Handle a frame's content, the object the client sent: the new state and the frames to
send, or the fault that breaks the endpoint down. -/
def receiveJson (c : Consumer) (content : List (String × Value)) :
    Except Fault (Consumer × List Outgoing) :=
  match (content.lookup "type").getD .null with
  | .str "connection_init" =>
    if c.acknowledged then
      pure (c, [frameOf (.obj [("type", .str "connection_error"),
        ("payload", .obj [("message", .str "Too many initialisation requests.")])]),
        .close (some 4429)])
    else pure ({ c with acknowledged := true }, [frameOf (.obj [("type", .str "connection_ack")])])
  | .str "start" => c.start content
  | .str "stop" =>
    match (content.lookup "id").getD .null with
    | .str _ | .int _ | .bool _ => pure (c.stopStream ((content.lookup "id").getD .null))
    | _ => pure (c, [])
  | .str "connection_terminate" => pure (c, [.close none])
  | other =>
    pure (c, [errorFrame ((content.lookup "id").getD .null)
      (.obj [("message", .str s!"Unsupported message type: {other.literal}")])])

/-- Handle a frame's text: its content, which must be a JSON object. -/
def receive (c : Consumer) (text : String) : Except Fault (Consumer × List Outgoing) := do
  if text.isEmpty then
    throw (Fault.simple .invalidValue "No text section for incoming WebSocket frame!")
  let content ← match Json.read text with
    | .ok (.obj fs) => pure fs
    | .ok v => throw (Fault.simple .missingAttribute s!"'{v.kindName}' object has no attribute 'get'")
    | .error e => throw (Fault.ofReadError e)
  c.receiveJson content

/-- The session ends: every stream is cancelled and sends its `complete`, in order. -/
def disconnect (c : Consumer) : Consumer × List Outgoing :=
  ({ c with streams := [] }, c.streams.map (completeFrame ·.id))

/-- Take the next step of the stream with a token: the new state, the frames to send, and
the pause before the stream's following step when it pauses for a while. -/
def stepStream (c : Consumer) (token : Nat) : Consumer × List Outgoing × Option Float :=
  match c.streams.find? (·.token == token) with
  | none => (c, [], none)
  | some s =>
    let drop := { c with streams := c.streams.filter (·.token != token) }
    match s.source.step s.emitted with
    | .emit payload pause =>
      let r := execute schema s.doc s.operationName s.vars payload
      let frame := frameOf (.obj [("type", .str "data"), ("id", s.id),
        ("payload", answerPayload s.body r)])
      let waits := pause > 0
      let s' := { s with emitted := s.emitted + 1, ready := !waits }
      ({ c with streams := c.streams.map fun t => if t.token == token then s' else t },
        [frame], if waits then some pause else none)
    | .finish => (drop, [completeFrame s.id], none)
    | .fail message =>
      (drop, [errorFrame s.id (.obj [("message", .str message)]), completeFrame s.id], none)
    | .hang =>
      ({ c with streams := c.streams.map fun t =>
          if t.token == token then { t with ready := false } else t }, [], none)

/-- Mark the stream with a token due again after its pause. -/
def wake (c : Consumer) (token : Nat) : Consumer :=
  { c with streams := c.streams.map fun t => if t.token == token then { t with ready := true } else t }

/-- The token of the first stream that is due, if any. -/
def readyToken (c : Consumer) : Option Nat := (c.streams.find? (·.ready)).map (·.token)

end Consumer

end GraphProbe.Site
