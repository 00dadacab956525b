import GraphProbe.Exercise.Encoding
import GraphProbe.Log

/-!
# Exercises of loggers and failures

`logging` makes calls through the logger of a component enabled at a level, and records what
each call wrote. `failure` builds a failure with a cause and shows how it reads.
-/

namespace GraphProbe.Exercise

/-- The level a logging method writes at; `log` takes it from the call's `level`, which
must name one. -/
def methodLevel (call : Value) : Except Fault Level :=
  match textOr call "method" "" with
  | "debug" => .ok .debug
  | "info" => .ok .info
  | "warning" => .ok .warning
  | "error" | "exception" => .ok .error
  | "critical" => .ok .critical
  | _ => do
    let name ← need call "level"
    match name with
    | .str t =>
      match Level.ofName? t with
      | some l => pure l
      | none => throw (.raised .missingKey [name])
    | v => throw (.raised .missingKey [v])

/-- The logging call a request describes, its context and extra members unfolded. -/
def logCall (call : Value) : Except Fault LogCall := do
  let context ← dataField? call "context"
  let extra ← dataField? call "extra"
  pure {
    level := ← methodLevel call
    format := ← need call "msg"
    args := listOf call "args"
    context := match context with
      | some .null | none => none
      | some v => some v
    extra := extra.getD .null }

/-- The record of one logging call. -/
def logCallRecord (component : String) (threshold : Level) (call : Value) : Value :=
  let written := do Logger.emit component threshold (← logCall call)
  match written with
  | .ok written => .obj [("ok", outgoing (.arr (written.toList.map LogRecord.toValue)))]
  | .error f => withMembers (faultRecord f) [("records", .arr [])]

/-- Make logging calls through a component's logger. The contexts and extra members of all
calls are unfolded before the first call. -/
def logging (req : Value) : Value :=
  let component := textOr req "component" ""
  let threshold := (Level.ofName? (textOr req "level" "")).getD .debug
  let calls := listOf req "calls"
  let unfolded : Except Fault Unit := calls.forM fun c => do
    let _ ← dataField? c "context"
    let _ ← dataField? c "extra"
  match unfolded with
  | .error f => faultRecord f
  | .ok () =>
    .obj [("logger", .str (loggerName component)),
      ("extra", .obj [("component", .str component)]),
      ("calls", .arr (calls.map (logCallRecord component threshold)))]

/-- The cause a request describes. -/
def causeOf (v : Value) : Option Fault :=
  match textOr v "kind" "" with
  | "transport" => some (.transport (textOr v "uri" "") (textOr v "reason" ""))
  | "value" => some (Fault.simple .invalidValue (textOr v "message" ""))
  | "key" => some (.raised .missingKey [.str (textOr v "message" "")])
  | _ => none

/-- Build a failure and show how it reads. -/
def failure (req : Value) : Value :=
  let message := textOr req "message" ""
  let cause := (req.field? "cause").bind causeOf
  let f := Fault.failure message cause
  .obj [("error", .str f.kindName), ("message", .str f.text),
    ("failure_message", .str message), ("is_assertion_error", .bool true),
    ("cause_str", match cause with | some c => .str c.text | none => .null),
    ("cause_chained", .bool true)]

end GraphProbe.Exercise
