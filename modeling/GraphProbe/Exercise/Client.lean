import GraphProbe.Exercise.Attempt
import GraphProbe.Exercise.Setup
import GraphProbe.Subscription.Client

/-!
# Exercises of the subscription client

`client` builds a subscription client against scripted sessions on a virtual clock and runs
steps on it. Each step's record holds its outcome, the faults raised meanwhile by events
that came due, the client's state and session, the clock, the frames sent, and, when asked
for, the records logged. The whole record adds the address, the polling settings and every
session that was made.
-/

namespace GraphProbe.Exercise

open Subscription Session

/-- A number of milliseconds in a request. -/
def millisOr (req : Value) (k : String) (d : Float) : Float :=
  match (req.field? k).bind Num.ofValue? with
  | some n => n.toFloat
  | none => d

/-- How a script breaks a call, from its request value. -/
def breakdownOf (v : Option Value) (allowRuntime : Bool) : Option Breakdown :=
  match v with
  | some (.bool true) => some .transport
  | some (.str "os") => some .system
  | some (.str "runtime") => if allowRuntime then some .runtime else some .transport
  | some (.str _) => some .transport
  | _ => none

/-- One reply of a script. -/
def replyOf (v : Value) : Reply :=
  let action := match v.field? "frame" with
    | some f => .frame ((frameText f).toOption.getD "")
    | none => .close
  ⟨millisOr v "after_ms" 0, action⟩

/-- The script a request describes. -/
def scriptOf (t : Value) : Script where
  autoAck := boolOr t "auto_ack" true
  ackDelayMs := millisOr t "ack_delay_ms" 0
  replies := match t.field? "replies" with
    | some (.obj fs) => fs.map fun (k, v) => (k, match v with
      | .arr xs => xs.map replyOf
      | _ => [])
    | _ => []
  refuse := breakdownOf (t.field? "refuse_connection") true
  failSend := breakdownOf (t.field? "fail_send") false
  failSendTypes := match t.field? "fail_send_types" with
    | some (.arr xs) => some (xs.map Value.display)
    | _ => none
  closeOnClose := boolOr t "close_on_close" true
  closeDelayMs := millisOr t "close_delay_ms" 0
  failClose := breakdownOf (t.field? "fail_close") false

/-- A constructor field of a request, or the setting it defaults to. -/
def fieldOrSetting (req : Value) (k : String) (s : Settings) (n : SettingName) : Value :=
  match req.field? k with
  | some .null | none => s.get n
  | some v => v

/-- A number field of a request, or the integer of the setting it defaults to. -/
def numberOrSetting (req : Value) (k : String) (s : Settings) (n : SettingName) :
    Except Fault Value :=
  match req.field? k with
  | some .null | none => Value.int <$> (s.get n).toInteger
  | some v => .ok v

/-- The document loader a request describes. -/
def loaderOf (req : Value) (s : Settings) : Except Fault Loader :=
  if textOr req "loader" "" == "files" then do
    let dirs := match req.field? "search_dirs" with
      | some .null | none => (s.get .resourceDirs).elements
      | some v => v.elements
    pure (.files (← treeOf req) Site.modulePath dirs)
  else
    pure (.table (match req.field? "resources" with
      | some (.obj fs) => fs.map fun (k, v) => (k, v.display)
      | _ => []))

/-- The client a request describes, under settings, loading documents with a loader. -/
def clientWith (req : Value) (s : Settings) (loader : Loader) : Except Fault Client := do
  let port := match fieldOrSetting req "port" s .port with
    | .null => none
    | v => some v.display
  let poll ← numberOrSetting req "poll_interval_ms" s .pollIntervalMs
  let ack ← numberOrSetting req "acknowledgement_timeout_ms" s .acknowledgementTimeoutMs
  let path ← match fieldOrSetting req "path" s .subscriptionPath with
    | .str p => pure p
    | v => throw (Fault.simple .missingAttribute
        s!"{Text.quote v.kindName} object has no attribute 'lstrip'")
  pure { path
         host := (fieldOrSetting req "host" s .host).display
         port, pollMs := poll, ackTimeoutMs := ack, loader }

/-- The client a request describes. -/
def clientOf (req : Value) : Except Fault Client := do
  let s ← settingsOf req
  clientWith req s (← loaderOf req s)

/-- A time on the clock: whole numbers as integers. -/
def clockValue (x : Float) : Value :=
  if Number.isFinite x && x == x.floor then
    match (Value.float x).toInteger with
    | .ok n => .int n
    | .error _ => .float x
  else .float x

/-- The record of the client's state. -/
def clientState (w : World) : Value :=
  let s := w.state
  .obj [("subscription_id", .int s.id), ("initialized", .bool s.initialized),
    ("acknowledged", .bool s.acknowledged), ("started", .bool s.started),
    ("stopped", .bool s.stopped), ("completed", .bool s.completed),
    ("buffered", .int s.buffered),
    ("failure", match s.failure with | some f => .str f.text | none => .null),
    ("transport", match w.link with | some i => .int i | none => .null)]

/-- The index of a session a step names, counted from the end when negative; the last one
by default. -/
def linkIndex (step : Value) (w : World) : Except Fault Nat :=
  let n : Int := w.links.size
  let i : Int := match step.field? "transport" with
    | some v => (v.asInt?).getD (-1)
    | none => -1
  let j := if i < 0 then i + n else i
  if 0 ≤ j && j < n then .ok j.toNat else .error noSuchLink

/-- Run a step's effect. -/
def clientStep (c : Client) (step : Value) : Sim Value := do
  let stopAfter := ((step.field? "stop_after").map Value.truthy).getD true
  let timeout : Sim Value := liftExcept (need step "timeout_ms")
  let responses (rs : List Response) : Value := responsesRecord rs
  match textOr step "do" "" with
  | "init" =>
    let payload := match ← MonadExcept.ofExcept (dataField? step "payload") with
      | some .null | none => none
      | some v => some v
    c.init payload
    pure (.str "self")
  | "start" =>
    let vars := match ← MonadExcept.ofExcept (dataField? step "variables") with
      | some .null | none => none
      | some v => some v
    c.start (textOr step "resource" "") vars
    pure (.str "self")
  | "stop" => c.stop; pure (.str "self")
  | "reset" | "exit" => c.reset; pure .null
  | "await_next_responses" =>
    let t ← timeout
    let count ← liftExcept (need step "count")
    responses <$> c.awaitResponses t count stopAfter
  | "await_next_response" => do
    let rs ← c.awaitResponses (← timeout) (.int 1) stopAfter
    pure (match rs with | r :: _ => responseRecord r | [] => .null)
  | "await_all" => do
    let t ← timeout
    responses <$> c.awaitResponses t (.int (-1)) stopAfter
  | "expect_none" => do
    let _ ← c.awaitResponses (← timeout) (.int 0) stopAfter
    pure (.str "self")
  | "remaining" => responses <$> Client.remaining
  | "deliver" => do
    let i ← liftExcept (linkIndex step (← get))
    let text ← liftExcept (frameText ((step.field? "frame").getD .null))
    deliverNow i text
    pure .null
  | "server_close" => do
    let i ← liftExcept (linkIndex step (← get))
    closeNow i
    pure .null
  | "advance" => advance (millisOr step "ms" 0); pure .null
  | "drop_transport" => modify (fun w => { w with link := none }); pure .null
  | "uri" => pure (.str c.uri)
  | "repr" => .str <$> c.literal
  | other => throw (.raised .missingKey [.str other])
where
  /-- A result lifted into a run. -/
  liftExcept {α : Type} : Except Fault α → Sim α
    | .ok a => pure a
    | .error f => throw f

/-- Run steps, with the record of each. -/
def clientSteps (c : Client) (withLogs : Bool) : World → List Value → List Value × World
  | w, [] => ([], w)
  | w, step :: rest =>
    let w0 := { w with sentNow := [], logs := [], lateFaults := [] }
    let (r, w1) := (clientStep c step).run w0 |>.run
    if w1.exhausted then ([], w1) else
    let extra :=
      (if w1.lateFaults.isEmpty then [] else
        [("async_errors", Value.arr (w1.lateFaults.map faultRecord))]) ++
      [("state", clientState w1), ("clock_ms", clockValue w1.clock),
       ("sent", .arr (w1.sentNow.map fun (i, t) => .arr [.int i, .str t]))] ++
      (if withLogs then [("logs", Value.arr (w1.logs.map LogRecord.toValue))] else [])
    let record := withMembers (outcome r) extra
    let (records, w2) := clientSteps c withLogs w1 rest
    (record :: records, w2)

/-- The record of a session. -/
def linkRecord (l : Link) : Value :=
  .obj [("uri", .str l.uri), ("subprotocols", .arr (l.subprotocols.map Value.str)),
    ("sent", .arr (l.sent.map Value.str)), ("close_calls", .int l.closeCalls)]

/-- Drive a subscription client against scripted sessions. -/
def client (req : Value) : Value :=
  match clientOf req with
  | .error f => faultRecord f
  | .ok c =>
    let script := scriptOf ((req.field? "transport").getD (.obj []))
    let w := World.start (.scripted script) (intOr req "id_start" 1)
    let (steps, w) := clientSteps c (boolOr req "logs" false) w (listOf req "steps")
    if w.exhausted then refusedRun
    else
      .obj [("uri", .str c.uri), ("poll_interval_ms", c.pollMs),
        ("acknowledgement_timeout_ms", c.ackTimeoutMs), ("steps", .arr steps),
        ("transports", .arr (w.links.toList.map linkRecord))]
where
  /-- The record of a run that slept too often. -/
  refusedRun : Value :=
    .obj [("error", .str "HarnessError"), ("message", .str "too many sleeps")]

end GraphProbe.Exercise
