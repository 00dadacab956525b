import GraphProbe.Exercise.Answers
import GraphProbe.Exercise.Attempt
import GraphProbe.Exercise.Logging
import GraphProbe.Exercise.Setup
import GraphProbe.Exercise.Client
import GraphProbe.Exercise.Live
import GraphProbe.Exercise.Cases

/-!
# Running exercises

`Exercise.run` sends a request to the exercise its `op` names; `Exercise.respond` does the
same for one line of JSON text and gives the record as one line of JSON text.
-/

namespace GraphProbe.Exercise

/-- The record of a request the kit cannot take. -/
def refused (message : String) : Value :=
  .obj [("error", .str "HarnessError"), ("message", .str message)]

/-- Run the exercise a request names. -/
def run (req : Value) : Value :=
  match textOr req "op" "" with
  | "parse_path" => parsePath req
  | "response" => answer req
  | "state" => attempt req
  | "log" => logging req
  | "fail" => failure req
  | "conf" => configuration req
  | "resource" => resource req
  | "driver" => client req
  | "asgi" => sessions req
  | "subscription_live" => live req
  | "ws_client" => sockets req
  | "exports" => exported req
  | "template" => queries req
  | "testcase" => testCase req
  | op => refused s!"unknown op {Text.quote op}"

/-- Run the exercise of one line of JSON text and write its record. The line's characters are
read as themselves. -/
def respond (line : String) : String :=
  let record := match Json.read (Text.spell line) with
    | .ok req => run req
    | .error e => refused (Fault.ofReadError e).text
  match Json.write .plain record with
  | .ok t => t
  | .error e => Json.write .plain (refused e.message) |>.toOption.getD "{}"

end GraphProbe.Exercise
