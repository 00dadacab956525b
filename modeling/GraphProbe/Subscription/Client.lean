import GraphProbe.Session.Calls
import GraphProbe.Resource.Loader
import GraphProbe.Json.Arithmetic

/-!
# The subscription client

A test drives one subscription through its lifecycle:

* `init` opens a session, sends the connection init and waits for the acknowledgement;
* `start` (which inits first when needed) loads the document and sends it with its variables;
* the awaits poll until enough answers are buffered or the time is up, stop the
  subscription when asked, and take the answers from the buffer;
* `stop` sends the stop message, closes the session and waits until the close is notified;
* `reset` stops what still runs and begins a fresh attempt with the next id.

Waiting is polling: check, sleep one poll interval, count it, until the condition holds or
the count reaches the timeout. Before each poll, and before each operation, a failure that
was noticed while frames were handled is raised. Every broken expectation is a failure with
a message that says which.
-/

namespace GraphProbe

/-- Load a document by its name, logging the load. -/
def Loader.load (l : Loader) (name : String) : Session.Sim String :=
  match l.read name with
  | .ok (text, record) => do
    if let some r := record then Session.log r
    pure text
  | .error f => throw f

end GraphProbe

namespace GraphProbe.Subscription

open Session

/-- A subscription client: where it connects, how it polls, where its documents are. -/
structure Client where
  path : String
  host : String
  /-- The port's text, when one is given. -/
  port : Option String
  pollMs : Value
  ackTimeoutMs : Value
  loader : Loader
  deriving Inhabited

/-- The sub-protocol the client speaks. -/
def protocolName : String := "graphql-ws"

namespace Client

/-- The address of the subscription endpoint. -/
def uri (c : Client) : String :=
  let authority := match c.port with
    | some p => c.host ++ ":" ++ p
    | none => c.host
  "ws://" ++ authority ++ "/" ++ String.ofList (c.path.toList.dropWhile (· == '/'))

/-- Raise the failure noticed while frames were handled, if any. -/
def raiseNoticed : Sim Unit := do
  match (← current).failure with
  | some f => throw f
  | none => pure ()

/-- Fail with a message. -/
def failWith {α : Type} (message : String) : Sim α := throw (Fault.fail message)

/-- Run a call on a session; a session fault becomes a failure with that message. -/
def onSession {α : Type} (message : String) (call : Sim α) : Sim α :=
  tryCatch call fun f => throw (if f.isSessionFault then Fault.failBecause message f else f)

/-- Send a message on the client's session. -/
def sendMessage (message : Value) : Sim Unit := do
  let text ← match Json.write .plain message with
    | .ok t => pure t
    | .error e => throw (Fault.failBecause
        "Test setup failure - cannot serialize subscription payload." (Fault.ofWriteError e))
  let some i := (← get).link
    | failWith "Test setup failure - no web socket session to send the message on."
  onSession "Test setup failure - cannot send subscription message." (send i text)

/-- A result lifted into a run. -/
def lift {α : Type} : Except Fault α → Sim α
  | .ok a => pure a
  | .error f => throw f

/-- Sleep one poll interval and count it: the elapsed milliseconds after it. -/
def pollOnce (c : Client) (elapsed : Value) : Sim Value := do
  sleep (← lift c.pollMs.dividend)
  lift (elapsed.plus c.pollMs)

/-- Poll until the current attempt meets a condition, at most the acknowledgement timeout.
With `surface`, a noticed failure is raised before each poll and at the end. -/
def awaitCondition (c : Client) (cond : State → Bool) (what : String) (surface : Bool) :
    Sim Unit := do
  let rec loop : Nat → Value → Sim Unit
    | 0, _ => do
      modify fun w => { w with exhausted := true }
      throw budgetSpent
    | fuel + 1, elapsed => do
      if !cond (← current) then
        if ← lift (elapsed.lessThan c.ackTimeoutMs) then
          if surface then raiseNoticed
          loop fuel (← c.pollOnce elapsed)
  loop ((← get).sleepsLeft + 1) (.int 0)
  if !cond (← current) then
    if surface then raiseNoticed
    failWith s!"Timeout: {what}"

/-- Open a session for the current attempt. -/
def openSession (c : Client) : Sim Unit := do
  clientLog "connecting to client" [("uri", .str c.uri)]
  let i ← onSession
    "Could not initialize test subscription client. No subscription defined?"
    (connect c.uri [protocolName])
  modify fun w => { w with link := some i }

/-- Send the connection init and wait for the acknowledgement. -/
def init (c : Client) (payload : Option Value) : Sim Unit := do
  raiseNoticed
  if (← current).initialized then failWith "Subscription already initialized."
  c.openSession
  sendMessage (.obj [("type", .str "connection_init"), ("payload", payload.getD (.obj []))])
  updateCurrent (·.mark .initialized)
  c.awaitCondition (·.acknowledged) "Connection was not acknowledged by the GraphQL server." true
  clientLog "subscription successfully initialized"
    [("subscription_id", .int (← current).id), ("uri", .str c.uri)]

/-- Send the document of a resource with its variables, initializing first when needed. -/
def start (c : Client) (resource : String) (vars : Option Value) : Sim Unit := do
  raiseNoticed
  if !(← current).initialized then c.init none
  if (← current).started then
    failWith "Start message already sent. To start a new subscription, please call reset first."
  let query ← c.loader.load resource
  match (← current).markStarted with
  | .ok s => updateCurrent fun _ => s
  | .error f => throw f
  let id := (← current).id
  clientLog "sending start message" [("subscription_id", .int id), ("resource", .str resource)]
  sendMessage (.obj [("type", .str "start"), ("id", .int id),
    ("payload", .obj [("query", .str query), ("variables", vars.getD (.obj []))])])

/-- Send the stop message, close the session and wait until the close is notified. -/
def stop (c : Client) : Sim Unit := do
  let s ← current
  if !s.initialized then failWith "Subscription not yet initialized."
  if s.stopped then failWith "Subscription already stopped."
  let some i := (← get).link | failWith "Test setup failure - no web socket session to stop."
  clientLog "sending stop message" [("subscription_id", .int s.id)]
  sendMessage (.obj [("type", .str "stop"), ("id", .int s.id)])
  clientLog "closing web socket session" [("uri", .str c.uri)]
  onSession "Could not close web socket session" (close i)
  c.awaitCondition (·.stopped) "Connection was not stopped in time." false
  clientLog "web socket session closed" [("uri", .str c.uri)]

/-- Stop what still runs, close the session, and begin a fresh attempt. -/
def reset (c : Client) : Sim Unit := do
  let s ← current
  if s.initialized && !s.stopped then c.stop
  if let some i := (← get).link then onSession "Could not close web socket session" (close i)
  let previous := (← current).id
  modify fun w =>
    { w with attempts := w.attempts.push (State.fresh w.nextId), current := w.attempts.size,
             nextId := w.nextId + 1, link := none }
  clientLog "test subscription client reset"
    [("previous_id", .int previous), ("subscription_id", .int (← current).id)]

/-- Wait for answers and take them from the buffer. A positive `count` waits until that
many arrived and fails if fewer did; zero waits the whole time and fails if any arrived; a
negative count waits the whole time and takes all. -/
def awaitResponses (c : Client) (timeout : Value) (count : Value) (stopAfter : Bool) :
    Sim (List Response) := do
  raiseNoticed
  if !(← current).started then failWith "Start message not sent. Please send start message first."
  if (← current).stopped then
    failWith "Subscription already stopped. Forgot to call reset after test case?"
  let zero : Value := .int 0
  let rec loop : Nat → Value → Sim Unit
    | 0, _ => do
      modify fun w => { w with exhausted := true }
      throw budgetSpent
    | fuel + 1, elapsed => do
      let s ← current
      let wanting ← if ← lift (count.atMost zero) then pure true
        else lift ((Value.int s.buffered).lessThan count)
      if wanting then
        if ← lift (elapsed.lessThan timeout) then
          raiseNoticed
          loop fuel (← c.pollOnce elapsed)
  loop ((← get).sleepsLeft + 1) zero
  if stopAfter then c.stop
  raiseNoticed
  let s ← current
  let received := s.buffered
  let nothing := (Num.ofValue? count).any fun n => n.compare? (.int 0) == some .eq
  let positive := (Num.ofValue? count).any fun n => (Num.int 0).lt n
  if nothing && received > 0 then
    failWith s!"Expected no responses in {timeout.display} MS, but received {received}"
  if positive && (← lift ((Value.int received).lessThan count)) then
    failWith s!"Expected at least {count.display} message(s) in {timeout.display} MS, but {received} received."
  let take ← if !positive then pure none else
    match count with
    | .int n => pure (some n)
    | .bool b => pure (some (if b then 1 else 0))
    | _ =>
      -- the smaller of the count and what arrived must be a whole number
      if ← lift ((Value.int received).lessThan count) then pure (some (received : Int))
      else throw (Fault.simple .wrongType
        s!"{Text.quote count.kindName} object cannot be interpreted as an integer")
  let (rs, s') := s.drain take
  updateCurrent fun _ => s'
  clientLog "returning responses" [("subscription_id", .int s.id), ("count", .int rs.length)]
  return rs

/-- Take everything still buffered, once the subscription was stopped. -/
def remaining : Sim (List Response) := do
  raiseNoticed
  if !(← current).stopped then
    failWith "get_remaining_responses should only be called after the subscription was stopped."
  let (rs, s') := (← current).drain none
  updateCurrent fun _ => s'
  return rs

/-- The text a client shows of itself. -/
def literal (c : Client) : Sim String := do
  return s!"GraphQLTestSubscription(uri={Text.quote c.uri}, state={(← current).literal})"

end Client

end GraphProbe.Subscription
