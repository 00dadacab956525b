import GraphProbe.Exercise.Client

/-!
# Exercises of sessions to applications

`sessions` opens one session to an application, watched by a recorder, and runs steps on
it: connecting, sending (then waiting for a number of frames or for the close), waiting,
closing, and describing the session's scope or a session another factory would make. Each
step's record holds its outcome, the frames received since the step before and the number
of close notices so far. When the steps are done the session is closed once more, and what
arrives meanwhile is recorded apart.

`sockets` does the same with one session over the network, to an endpoint the request
describes or to a network that cannot be reached; its record adds the sockets that were
made, with what was sent on them and how often they were closed.
-/

namespace GraphProbe.Exercise

open Session

/-- How long a step waits for frames or a close by default, in milliseconds. -/
def waitDefaultMs : Float := 5000

/-- The headers of a request: pairs of texts, refused unless every one is Latin-1. -/
def headersOf (v : Option Value) : Except Fault (List (String × String)) := do
  let pairs := match v with
    | some (.arr xs) => xs.map fun
      | .arr [k, w] => (k.display, w.display)
      | _ => ("", "")
    | _ => []
  for (k, w) in pairs do
    let _ ← latin1 k
    let _ ← latin1 w
  pure pairs

/-- The headers as pairs of Latin-1 bytes. -/
def headerBytes (hs : List (String × String)) : Value :=
  .arr (hs.map fun (k, w) =>
    .arr [.bytes ((latin1 k).toOption.getD []), .bytes ((latin1 w).toOption.getD [])])

/-- The sub-protocols of a request, or a default. -/
def subprotocolsOr (req : Value) (d : List String) : List String :=
  match req.field? "subprotocols" with
  | some (.arr xs) => xs.map Value.display
  | _ => d

/-- Wait as a step asks: for the number of frames received in all to reach `count`, or for
the close to be noticed, at most `timeoutMs`. A step that asks for neither waits only when
`always` holds. -/
def awaitFrames (step : Value) (countKey : String) (timeoutMs : Float) (always : Bool) :
    Sim Unit := do
  let count := match step.field? countKey with
    | some v => v.asInt?
    | none => none
  let untilClose := boolOr step "until_close" false
  if count.isNone && !untilClose && !always then return
  let cond (w : World) : Bool :=
    (match count with
      | some n => (w.received.length : Int) ≥ n
      | none => false) || (untilClose && w.closes > 0)
  waitUntil cond timeoutMs

/-- The record of a session another factory would make. -/
def factoryRecord (step : Value) : Value :=
  .obj [("class", .str "ASGIWebSocketTransport"),
    ("uri", .str (textOr step "uri" "")),
    ("subprotocols", .arr ((subprotocolsOr step []).map Value.str)),
    ("headers", headerBytes ((headersOf (step.field? "headers")).toOption.getD [])),
    ("connect_timeout", (step.field? "connect_timeout").getD (.float 60))]

/-- Run a step's effect on the session. -/
def sessionStep (step : Value) : Sim Value := do
  match textOr step "do" "" with
  | "connect" => do
    let sp ← connectLink 0
    pure (.obj [("accepted_subprotocol", match sp with | some p => .str p | none => .null)])
  | "send" => do
    let text ← match step.field? "text" with
      | some (.str t) => pure t
      | _ => liftExcept (frameText ((step.field? "frame").getD .null))
    send 0 text
    awaitFrames step "wait_count" waitDefaultMs false
    pure .null
  | "wait" => do
    awaitFrames step "count" (millisOr step "timeout_ms" waitDefaultMs) true
    pure .null
  | "close" => close 0; pure .null
  | "scope" => do
    let l ← linkAt 0
    let scope ← liftExcept (Scope.ofUri l.uri l.peer.headers l.subprotocols)
    pure scope.toValue
  | "factory" => pure (factoryRecord step)
  | other => throw (.raised .missingKey [.str other])
where
  /-- A result lifted into a run. -/
  liftExcept {α : Type} : Except Fault α → Sim α
    | .ok a => pure a
    | .error f => throw f

/-- Run steps on a session, with the record of each. -/
def sessionSteps (run : Value → Sim Value) : World → List Value → List Value × World
  | w, [] => ([], w)
  | w, step :: rest =>
    let seen := w.received.length
    let act : Sim Value := tryFinally (run step) runAllDue
    let (r, w1) := act.run w |>.run
    let record := withMembers (outcome r)
      [("received", .arr ((w1.received.drop seen).map Value.str)), ("closes", .int w1.closes)]
    let (records, w2) := sessionSteps run w1 rest
    (record :: records, w2)

/-- Run steps on the one session of a world, close it once more, and record the steps and
what arrived during that last close. -/
def sessionRecord (run : Value → Sim Value) (w : World) (steps : List Value) :
    List (String × Value) × World :=
  let (steps, w) := sessionSteps run w steps
  let seen := w.received.length
  let cleanup : Sim Unit := tryCatch (tryFinally (close 0) runAllDue) fun _ => pure ()
  let (_, w) := cleanup.run w |>.run
  ([("steps", .arr steps),
    ("after_cleanup", .obj [("closes", .int w.closes),
      ("received", .arr ((w.received.drop seen).map Value.str))])], w)

/-- Open a session to an application and run steps on it. -/
def sessions (req : Value) : Value :=
  let kind := (Site.AppKind.ofName? (textOr req "app" "example")).getD .site
  match headersOf (req.field? "headers") with
  | .error f => faultRecord f
  | .ok headers =>
    let timeout := (req.field? "connect_timeout").getD (.int 5)
    let w := World.start (.application kind headers timeout) 1
    let opening : Sim Nat :=
      newLink (textOr req "uri" "ws://testserver/subscriptions")
        (subprotocolsOr req ["graphql-ws"]) true
    let (_, w) := opening.run w |>.run
    .obj (sessionRecord sessionStep w (listOf req "steps")).1

/-! ### Sessions over the network -/

/-- The endpoint a request describes. -/
def endpointOf (v : Value) : Endpoint where
  opens := boolOr v "open" true
  refuse := boolOr v "refuse" false
  errors := match v.field? "errors" with
    | some (.arr xs) => xs.map Value.display
    | _ => ["refused"]
  crash := boolOr v "crash" false

/-- The texts of a list member of a request. -/
def textsOf (req : Value) (k : String) : List String :=
  match req.field? k with
  | some (.arr xs) => xs.map Value.display
  | _ => []

/-- What a session over the network was made with. -/
def socketInfo (req : Value) (uri : String) (timeout : Value) : List (String × Value) :=
  [("uri", .str uri), ("subprotocols", .arr ((textsOf req "subprotocols").map Value.str)),
   ("headers", .arr ((textsOf req "headers").map Value.str)), ("connect_timeout", timeout)]

/-- Run a step's effect on a session over the network. -/
def socketStep (req : Value) (step : Value) : Sim Value := do
  match textOr step "do" "" with
  | "connect" => do let _ ← connectLink 0; pure .null
  | "send" => do send 0 (textOr step "text" ""); pure .null
  | "close" => close 0; pure .null
  | "info" => do
    let l ← linkAt 0
    pure (.obj (socketInfo req l.uri ((req.field? "connect_timeout").getD (.int 5))))
  | "factory" =>
    pure (.obj ([("class", .str "WebSocketClientTransport")] ++
      socketInfo step (textOr step "uri" "") ((step.field? "connect_timeout").getD (.float 60))))
  | other => throw (.raised .missingKey [.str other])

/-- Open a session over the network, to an endpoint a request describes or to a network
that cannot be reached, and run steps on it. -/
def sockets (req : Value) : Value :=
  let reachable := textOr req "mode" "" != "real"
  let endpoint := if reachable then some (endpointOf ((req.field? "app").getD (.obj []))) else none
  let timeout := (req.field? "connect_timeout").getD (.int 5)
  let uri := textOr req "uri" ""
  let w := World.start (.network endpoint timeout) 1
  let opening : Sim Nat := newLink uri (textsOf req "subprotocols") true
  let (_, w) := opening.run w |>.run
  let (fields, w) := sessionRecord (socketStep req) w (listOf req "steps")
  let sockets := (w.links.toList.filter (·.net.started)).map fun l =>
    Value.obj [("url", .str l.uri), ("header", .arr ((textsOf req "headers").map Value.str)),
      ("subprotocols", .arr (l.subprotocols.map Value.str)),
      ("sent", .arr (l.sent.map Value.str)), ("close_calls", .int l.closeCalls)]
  .obj (fields ++ if reachable then [("apps", .arr sockets)] else [])

end GraphProbe.Exercise
