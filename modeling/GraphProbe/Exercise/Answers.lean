import GraphProbe.Exercise.Encoding
import GraphProbe.Response.Basic

/-!
# Exercises of paths and answers

`parsePath` reads one path text. `answer` builds an answer from a payload or a body text
and runs calls on it; the record shows the answer and each call's outcome.
-/

namespace GraphProbe.Exercise

/-- The value of a path step in a record. -/
def stepValue : Step → Value
  | .key k => .str k
  | .index i => .int i

/-- The fault `Path.parse` reports, as the kit raises it from the parser itself. -/
def pathFault (text : String) : Path.ParseError → Fault
  | .invalidAt n => Fault.simple .invalidValue s!"Invalid response path '{text}' at position {n}."
  | .indexTooLong n => Fault.ofReadError (.integerTooLong n)

/-- Read a path: `{"result": steps}` or the fault. -/
def parsePath (req : Value) : Value :=
  let text := textOr req "path" ""
  match Path.parse text with
  | .ok p => .obj [("result", .arr (p.map stepValue))]
  | .error e => faultRecord (pathFault text e)

/-- The record of an answer. -/
def responseRecord (r : Response) : Value :=
  .obj [("status_code", r.status), ("payload", r.payload)]

/-- The status a request names, 200 when absent. -/
def statusOf (req : Value) : Except Fault Value :=
  return (← dataField? req "status_code").getD (.int 200)

/-- One call on an answer. -/
def answerCall (r : Response) (call : Value) : Except Fault Value := do
  let method := textOr call "method" ""
  match method with
  | "get" => r.get (← needText call "path")
  | "assert_that_field" => r.get (← needText call "path")
  | "get_or_none" => pure ((← r.getOrNone (← needText call "path")).getD .null)
  | "raw" => pure r.payload
  | "errors" => pure (.arr (← r.errors))
  | "is_ok" => pure (.bool (← r.isOk))
  | "status_code" => pure r.status
  | "assert_no_errors" => do
    let _ ← r.assertNoErrors
    pure (.bool true)
  | "to_json" => pure (.str r.canonical)
  | "repr" => pure (.str r.literal)
  | "eq" => do
    let other ← Response.make ((← dataField? call "payload").getD .null) (← statusOf call)
    let same ← r.sameKey other
    pure (.obj [("eq", .bool (r.looseEq other)), ("hash_eq", .bool same)])
  | "eq_value" => pure (.bool false)
  | "setattr" => throw (Fault.simple .missingAttribute "GraphQLResponse is immutable.")
  | m => throw (Fault.raised .missingKey [.str m])

/-- Build an answer and run the calls on it. -/
def answer (req : Value) : Value :=
  let built : Except Fault Response := do
    match req.field? "text" with
    | some (.str t) => Response.ofText t (← statusOf req)
    | _ => Response.make ((← dataField? req "payload").getD .null) (← statusOf req)
  match built with
  | .error f => faultRecord f
  | .ok r =>
    .obj [("response", outgoing (responseRecord r)),
          ("calls", .arr ((listOf req "calls").map fun c => outcome (answerCall r c)))]

end GraphProbe.Exercise
