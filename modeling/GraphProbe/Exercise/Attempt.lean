import GraphProbe.Exercise.Answers
import GraphProbe.Subscription.Frame

/-!
# Exercises of a subscription attempt

`attempt` runs steps on one attempt: frames handled directly or through the client's
wrapper, lifecycle marks, answers appended and drained. Each step's record holds its outcome
and the attempt's state after it, and, when asked for, the records it logged.
-/

namespace GraphProbe.Exercise

open Subscription

/-- The record of an attempt's state. -/
def attemptRecord (s : State) : Value :=
  .obj [("id", .int s.id), ("initialized", .bool s.initialized),
    ("acknowledged", .bool s.acknowledged), ("started", .bool s.started),
    ("stopped", .bool s.stopped), ("completed", .bool s.completed),
    ("buffered", .int s.buffered),
    ("failure", match s.failure with | some f => .str f.text | none => .null)]

/-- The record of answers. -/
def responsesRecord (rs : List Response) : Value := .arr (rs.map responseRecord)

/-- The text of a frame in a request: texts as they are, other values as JSON. -/
def frameText (v : Value) : Except Fault String :=
  match v with
  | .str s => .ok s
  | v => (Json.write .plain v).mapError Fault.ofWriteError

/-- The count of a drain: an integer, or none for all. -/
def countOf (req : Value) : Option Int :=
  match req.field? "count" with
  | some v => v.asInt?
  | none => none

/-- The call a step names. -/
def callOf (step : Value) : Except Fault Call :=
  match textOr step "do" "" with
  | "frame" => .handle <$> frameText ((step.field? "frame").getD .null)
  | "dispatch" => .dispatch <$> frameText ((step.field? "frame").getD .null)
  | "mark_initialized" => .ok .markInitialized
  | "mark_acknowledged" => .ok .markAcknowledged
  | "mark_started" => .ok .markStarted
  | "mark_stopped" => .ok .markStopped
  | "mark_completed" => .ok .markCompleted
  | "append" => do
    let r ← Response.make ((← dataField? step "payload").getD .null)
    pure (.append r)
  | "drain" => .ok (.drain (countOf step))
  | "buffered_count" => .ok .bufferedCount
  | "record_failure" => .ok (.recordFailure (Fault.fail (textOr step "message" "")))
  | other => .error (Fault.raised .missingKey [.str other])

/-- The record of what a call answers. -/
def answerRecord : Answer → Value
  | .done => .null
  | .kept b => .bool b
  | .count n => .int n
  | .taken rs => responsesRecord rs

/-- One step on an attempt: its outcome, the new state, and the records logged. -/
def attemptStep (s : State) (step : Value) : Except Fault Value × State × List LogRecord :=
  if textOr step "do" "" == "repr" then (.ok (.str s.literal), s, []) else
  match callOf step with
  | .error f => (.error f, s, [])
  | .ok c => let (logs, r, s') := s.call c; (answerRecord <$> r, s', logs)

/-- Run steps on an attempt, with the records of each step. -/
def attemptSteps (withLogs : Bool) : State → List Value → List Value
  | _, [] => []
  | s, step :: rest =>
    let (r, s', logs) := attemptStep s step
    let extra := [("state", attemptRecord s')] ++
      (if withLogs then [("logs", Value.arr (logs.map LogRecord.toValue))] else [])
    withMembers (outcome r) extra :: attemptSteps withLogs s' rest

/-- Run the steps of a request on a fresh attempt. -/
def attempt (req : Value) : Value :=
  let s := State.fresh (intOr req "id_start" 1)
  .obj [("steps", .arr (attemptSteps (boolOr req "logs" false) s (listOf req "steps")))]

end GraphProbe.Exercise
