import GraphProbe.Graphql.Execute
import GraphProbe.Text.Case
import GraphProbe.Json.Writer

/-!
# The demonstration schema

The site the kit is exercised against serves a small schema:

* `Query.hello(name: String = "world")` greets: `Hello, <name>!`, where an explicit `null`
  shows as `None`;
* `Query.shout(text: String!)` gives the text in upper case;
* `Subscription.countdown(start: Int!, interval: Float = 0.01)` emits `start`, `start - 1`,
  …, `0`, pausing `interval` seconds after each, then finishes;
* `Subscription.silence` never emits;
* `Subscription.failing` emits `1`, then fails with `Subscription source failed.`.

Every subscription field answers an event with the event itself, whichever field the
event came from: `countdown failing` answers each countdown value under both keys.
-/

namespace GraphProbe.Site

open Graphql

/-- The text of a value as a greeting shows it: texts as themselves, `null` as `None`. -/
def greetingName : Value → String
  | .str s => s
  | v => v.literal

/-- The query root. -/
def queryType : ObjectDef where
  name := "Query"
  fields := [
    { name := "hello", type := .named "String",
      args := [{ name := "name", type := .named "String", default := some (.str "world") }],
      resolve := fun _ args =>
        .ok (.str ("Hello, " ++ greetingName ((args.lookup "name").getD .null) ++ "!")) },
    { name := "shout", type := .named "String",
      args := [{ name := "text", type := .required "String" }],
      resolve := fun _ args =>
        match args.lookup "text" with
        | some (.str s) => .ok (.str (Text.upper s))
        | _ => .error "'NoneType' object has no attribute 'upper'" }]

/-- A countdown from `start` to zero, pausing `interval` seconds after each value. Without an
interval (an explicit `null`) the first pause fails, as a sleep of no length cannot be
compared with zero. -/
def countdownSource (start : Int) : Option Float → EventSource
  | some interval => ⟨fun n => if (n : Int) ≤ start then .emit (.int (start - n)) interval else .finish⟩
  | none => ⟨fun n =>
      if start < 0 then .finish
      else if n == 0 then .emit (.int start) 0
      else .fail "'<=' not supported between instances of 'NoneType' and 'int'"⟩

/-- A source that never emits. -/
def silentSource : EventSource where
  step _ := .hang

/-- A source that emits `1` and then fails. -/
def failingSource : EventSource where
  step n := if n == 0 then .emit (.int 1) 0 else .fail "Subscription source failed."

/-- Answer an event with the event itself. -/
def echoEvent : Value → Arguments → Except String Value := fun root _ => .ok root

/-- The seconds of a number argument; none for `null`. -/
def secondsOf : Option Value → Option Float
  | some (.float x) => some x
  | some (.int n) => some (Number.floatOfInt n)
  | some _ => none
  | none => some 0.01

/-- The subscription root. -/
def subscriptionType : ObjectDef where
  name := "Subscription"
  fields := [
    { name := "countdown", type := .named "Int",
      args := [{ name := "start", type := .required "Int" },
               { name := "interval", type := .named "Float", default := some (.float 0.01) }],
      resolve := echoEvent,
      subscribe := some fun args =>
        match args.lookup "start" with
        | some (.int s) => .ok (countdownSource s (secondsOf (args.lookup "interval")))
        | _ => .error "'NoneType' object cannot be interpreted as an integer" },
    { name := "silence", type := .named "String", resolve := echoEvent,
      subscribe := some fun _ => .ok silentSource },
    { name := "failing", type := .named "Int", resolve := echoEvent,
      subscribe := some fun _ => .ok failingSource }]

/-- The schema of the site. -/
def schema : Schema where
  query := queryType
  subscription := some subscriptionType

end GraphProbe.Site
