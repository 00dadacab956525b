import GraphProbe.Exercise.Sessions
import GraphProbe.Site.Documents

/-!
# Exercises of the subscription client against the site

`live` runs a subscription client under the site's settings against an application (the
site by default) or against a network that cannot be reached. Its steps are those of the
scripted client, less the ones that act on a script, plus `transport_info` (what the
client's session is) and `sleep`. Each step's record holds its outcome, the flags of the
client's state the step asks to report, and the texts sent meanwhile. When the steps are
done the client is reset.
-/

namespace GraphProbe.Exercise

open Subscription Session

/-- The steps that act on a script, which this exercise does not know. -/
def scriptSteps : List String := ["deliver", "server_close", "advance", "drop_transport"]

/-- The flags a step reports by default. -/
def defaultReport : List String := ["initialized", "acknowledged", "started", "stopped"]

/-- A flag of the client's state, by its name. -/
def flagOf (w : World) : String → Option Value
  | "initialized" => some (.bool w.state.initialized)
  | "acknowledged" => some (.bool w.state.acknowledged)
  | "started" => some (.bool w.state.started)
  | "stopped" => some (.bool w.state.stopped)
  | "completed" => some (.bool w.state.completed)
  | "buffered" => some (.int w.state.buffered)
  | "failure" => some (match w.state.failure with | some f => .str f.text | none => .null)
  | _ => none

/-- The flags a step asks to report. -/
def reportOf (step : Value) (w : World) : Value :=
  let names := match step.field? "report" with
    | some (.arr xs) => xs.map Value.display
    | _ => defaultReport
  .obj (names.filterMap fun n => (flagOf w n).map (n, ·))

/-- What the client's session is, if it holds one. -/
def sessionInfo : Sim Value := do
  let w ← get
  match w.link with
  | none => pure .null
  | some i =>
    let l ← linkAt i
    pure (.obj [("class", .str "ASGIWebSocketTransport"), ("uri", .str l.uri),
      ("subprotocols", .arr (l.subprotocols.map Value.str)),
      ("accepted_subprotocol", match l.peer.accepted with | some p => .str p | none => .null)])

/-- Run a step's effect. -/
def liveStep (c : Client) (step : Value) : Sim Value := do
  match textOr step "do" "" with
  | "transport_info" => sessionInfo
  | "sleep" => advance (millisOr step "ms" 0); pure .null
  | name =>
    if scriptSteps.contains name then throw (.raised .missingKey [.str name])
    else clientStep c step

/-- Run steps, with the record of each. -/
def liveSteps (c : Client) : World → List Value → List Value × World
  | w, [] => ([], w)
  | w, step :: rest =>
    let w0 := { w with sentNow := [], logs := [], lateFaults := [] }
    let (r, w1) := (liveStep c step).run w0 |>.run
    if w1.exhausted then ([], w1) else
    let record := withMembers (outcome r)
      [("state", reportOf step w1), ("sent", .arr (w1.sentNow.map fun (_, t) => .str t))]
    let (records, w2) := liveSteps c w1 rest
    (record :: records, w2)

/-- The server a request names: the network, or an application. -/
def serverOf (req : Value) (headers : List (String × String)) : Server :=
  if textOr req "transport" "asgi" == "websocket" then .network none (.int 0)
  else
    .application ((Site.AppKind.ofName? (textOr req "app" "example")).getD .site) headers
      ((req.field? "connect_timeout").getD (.float 60))

/-- The loader of a request under the site's settings: its table of documents, or the
site's files. -/
def siteLoader (req : Value) : Loader :=
  match req.field? "resources" with
  | some (.obj fs) => .table (fs.map fun (k, v) => (k, v.display))
  | _ => .files Site.documents Site.modulePath (Site.settings.get .resourceDirs).elements

/-- Drive a subscription client against the site. -/
def live (req : Value) : Value :=
  let r : Except Fault (Client × List (String × String)) := do
    let c ← clientWith req Site.settings (siteLoader req)
    let headers ← headersOf (req.field? "headers")
    pure (c, headers)
  match r with
  | .error f => faultRecord f
  | .ok (c, headers) =>
    let w := World.start (serverOf req headers) (intOr req "id_start" 1)
    let (steps, w) := liveSteps c w (listOf req "steps")
    if w.exhausted then
      .obj [("error", .str "HarnessError"), ("message", .str "too many sleeps")]
    else .obj [("uri", .str c.uri), ("steps", .arr steps)]

end GraphProbe.Exercise
