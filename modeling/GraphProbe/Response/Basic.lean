import GraphProbe.Fault
import GraphProbe.Response.Path

/-!
# Answers

An answer of a GraphQL server is a JSON payload with the status under which it came: HTTP
answers keep their status, subscription frames get 200. The payload is kept as a copy of
the caller's value through its JSON text, so an answer can be built only from a value that
has one.

Lookups go by path (`Response.get`, `Response.getOrNone`); a malformed path is a failure
caused by the parse error, a path that does not resolve is a failure that shows the
payload's canonical text (`Response.canonical`: keys sorted).

Two answers are equal when their statuses and payloads are loosely equal; their *hash keys*
are the status and the canonical text, so loosely equal payloads that differ in number kinds
(`1` and `1.0`) are equal answers with different keys.
-/

namespace GraphProbe

/-- An answer: a payload and the status it came with. -/
structure Response where
  payload : Value
  status : Value
  deriving Inhabited

namespace Response

/-- Copy a value through its JSON text: the text must exist. -/
def copyPayload (v : Value) : Except Fault Value :=
  match Json.write .plain v with
  | .error e => .error (Fault.ofWriteError e)
  | .ok t =>
    match Json.read t with
    | .ok w => .ok w
    | .error e => .error (Fault.ofReadError e)

/-- An answer with a copy of the payload. -/
def make (payload : Value) (status : Value := .int 200) : Except Fault Response := do
  let p ← copyPayload payload
  pure ⟨p, status⟩

/-- The first words of the failure for a body that is no JSON. -/
def unreadableMessage : String :=
  "Exception while parsing server response. Response is not a valid GraphQL response."

/-- The value of a body text, which must be JSON. A text that cannot be read is a failure
caused by the read error, except that texts nested too deeply are refused outright. -/
def decode (text : String) : Except Fault Value :=
  match Json.read text with
  | .ok v => pure v
  | .error e@(.nestedTooDeep _) => throw (Fault.ofReadError e)
  | .error e => throw (Fault.failBecause unreadableMessage (Fault.ofReadError e))

/-- An answer read from a body text: it must be JSON and hold an object. -/
def ofText (text : String) (status : Value := .int 200) : Except Fault Response := do
  let v ← decode text
  if !v.isObj then
    throw (Fault.fail s!"GraphQL responses must be JSON objects, got {v.kindName}.")
  make v status

/-- The canonical text of the payload: JSON with sorted keys. -/
def canonical (r : Response) : String :=
  (Json.write .sorted r.payload).toOption.getD ""

/-- The status as text. -/
def statusText (r : Response) : String := r.status.display

/-- The text an answer shows of itself. -/
def literal (r : Response) : String :=
  s!"GraphQLResponse(status_code={r.statusText}, payload={r.canonical})"

/-- The fault of comparing a number with a value of another kind. -/
def orderFault (op : String) (left : String) (right : Value) : Fault :=
  Fault.simple .wrongType
    s!"'{op}' not supported between instances of '{left}' and '{right.kindName}'"

/-- `a ≤ v` for an integer `a`, with `v` a number. -/
def intLe (a : Int) (v : Value) : Except Fault Bool :=
  match v with
  | .float x => .ok (Number.compareIntFloat a x == some .lt || Number.compareIntFloat a x == some .eq)
  | _ =>
    match v.asInt? with
    | some n => .ok (a ≤ n)
    | none => .error (orderFault "<=" "int" v)

/-- `v < b` for an integer `b`, with `v` a number. -/
def ltInt (v : Value) (b : Int) : Except Fault Bool :=
  match v with
  | .float x => .ok (Number.compareIntFloat b x == some .gt)
  | _ =>
    match v.asInt? with
    | some n => .ok (n < b)
    | none => .error (orderFault "<" (v.kindName) (.int b))

/-- Whether the status is a success: `200 ≤ status < 300`, the upper bound checked only when
the lower holds. A status that is no number cannot be compared. -/
def isOk (r : Response) : Except Fault Bool := do
  if ← intLe 200 r.status then ltInt r.status 300 else pure false

/-- The fault of asking a non-object for a member. -/
def noGetFault (v : Value) : Fault :=
  Fault.simple .missingAttribute s!"'{v.kindName}' object has no attribute 'get'"

/-- The payload's errors: its `errors` member when that is an array, else none. The payload
must be an object. -/
def errors (r : Response) : Except Fault (List Value) :=
  match r.payload with
  | .obj fs =>
    match fs.lookup "errors" with
    | some (.arr xs) => .ok xs
    | _ => .ok []
  | v => .error (noGetFault v)

/-- The message an error shows: its `message` member, or the whole error. -/
def errorMessage (e : Value) : Except Fault String :=
  match e with
  | .obj fs => .ok ((fs.lookup "message").getD e).display
  | v => .error (noGetFault v)

/-- The answer itself when its status is a success and it has no errors; otherwise a
failure saying which. -/
def assertNoErrors (r : Response) : Except Fault Response := do
  if !(← r.isOk) then
    throw (Fault.fail s!"Expected a successful response, but status was {r.statusText}.")
  let errs ← r.errors
  if !errs.isEmpty then
    let msgs ← errs.mapM errorMessage
    let shown := (Value.arr (msgs.map Value.str)).literal
    throw (Fault.fail s!"Expected no GraphQL errors, but received: {shown}")
  pure r

/-- The steps of a path text, or the failure that reports the parse error. -/
def steps (text : String) : Except Fault Path :=
  match Path.parse text with
  | .ok p => .ok p
  | .error (.invalidAt n) =>
    let msg := s!"Invalid response path '{text}' at position {n}."
    .error (Fault.failBecause msg (Fault.simple .invalidValue msg))
  | .error (.indexTooLong n) =>
    let e := Fault.ofReadError (.integerTooLong n)
    .error (Fault.failBecause e.text e)

/-- The value at a path, `none` when it does not resolve. -/
def getOrNone (r : Response) (text : String) : Except Fault (Option Value) := do
  let p ← steps text
  pure (Path.resolve r.payload p)

/-- The value at a path; a path that does not resolve is a failure. -/
def get (r : Response) (text : String) : Except Fault Value := do
  match ← r.getOrNone text with
  | some v => pure v
  | none => throw (Fault.fail s!"Path '{text}' not found in GraphQL response: {r.canonical}")

/-- Loose equality of answers: statuses and payloads. -/
def looseEq (a b : Response) : Bool :=
  a.status.looseEq b.status && a.payload.looseEq b.payload

/-- The status as part of a hash key: numbers, texts and null have one; arrays, objects and
byte strings have none. -/
def statusKey (v : Value) : Except Fault Value :=
  match v with
  | .arr _ | .obj _ => .error (Fault.simple .wrongType s!"unhashable type: '{v.kindName}'")
  | v => .ok v

/-- Whether two answers have equal hash keys: equal statuses and equal canonical texts. -/
def sameKey (a b : Response) : Except Fault Bool := do
  let ka ← statusKey a.status
  let kb ← statusKey b.status
  pure (ka.looseEq kb && a.canonical == b.canonical)

end Response

end GraphProbe
