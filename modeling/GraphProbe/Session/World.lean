import GraphProbe.Subscription.Frame
import GraphProbe.Site.Apps
import GraphProbe.Session.Address

/-!
# A world of sessions on a virtual clock

A test subscription talks to its server through *sessions*: each connect attempt opens one,
bound to the subscription attempt current at that moment, so frames and closes that arrive
later on an old session change only the old attempt. A session may also be watched by a
*recorder* instead, which keeps every frame and counts the close notices.

The other end of the sessions of a world is its *server*: a script, which answers the
messages the client sends with frames or a close, at once or after a delay; an
application, which runs beside the client and answers when the client lets time pass; or
an endpoint on the network, which completes the handshake or not (or nothing at all, when
the network cannot be reached).

A `World` holds the clock, the events due later (ordered by time, then by scheduling), the
sessions, and all subscription attempts. The client's time passes only by `sleep`, which
moves the clock and then runs every event that has come due.

`Sim` is a computation in such a world that may stop with a fault; the world it leaves
behind keeps everything that happened before the fault, logs included.
-/

namespace GraphProbe.Session

open Subscription

/-! ### Scripts -/

/-- How a scripted call breaks down: with a transport fault, a system fault or a runtime
fault. -/
inductive Breakdown where
  | transport
  | system
  | runtime
  deriving BEq, Repr, Inhabited

/-- What a script does in reply to a message: send a frame or close the session. -/
inductive ReplyAction where
  | frame (text : String)
  | close
  deriving Inhabited

/-- One reply, after a delay in milliseconds; a delay of zero or less replies at once,
inside the send. -/
structure Reply where
  afterMs : Float
  action : ReplyAction
  deriving Inhabited

/-- The script of the far end of every session of a world. -/
structure Script where
  /-- Acknowledge each connection init. -/
  autoAck : Bool := true
  ackDelayMs : Float := 0
  /-- Replies by the type of the message sent. -/
  replies : List (String × List Reply) := []
  refuse : Option Breakdown := none
  failSend : Option Breakdown := none
  /-- The message types whose sending fails, all when none are named. -/
  failSendTypes : Option (List String) := none
  /-- Whether the first close of a session notifies the client. -/
  closeOnClose : Bool := true
  closeDelayMs : Float := 0
  failClose : Option Breakdown := none
  deriving Inhabited

/-- The text of the acknowledgement frame. -/
def ackText : String := "\x7b\"type\": \"connection_ack\"\x7d"

/-! ### Servers -/

/-- How an endpoint on the network behaves when a client connects to it. -/
structure Endpoint where
  /-- Whether the handshake completes. -/
  opens : Bool := true
  /-- Whether the connection is refused, reporting `errors`. -/
  refuse : Bool := false
  /-- The errors reported while a connection is refused; the first one counts. -/
  errors : List String := ["refused"]
  /-- Whether the client's socket breaks down while connecting, reporting nothing. -/
  crash : Bool := false
  deriving Inhabited

/-- The far end of the sessions of a world. -/
inductive Server where
  | scripted (script : Script)
  /-- An application, told the headers of each session, waiting `connectTimeout` seconds. -/
  | application (kind : Site.AppKind) (headers : List (String × String)) (connectTimeout : Value)
  /-- An endpoint on the network, or none when the network cannot be reached; connecting
  waits `connectTimeout` seconds for the handshake. -/
  | network (endpoint : Option Endpoint) (connectTimeout : Value)
  deriving Inhabited

/-- The script of a server, or the empty one. -/
def Server.script : Server → Script
  | .scripted s => s
  | _ => {}

/-! ### Worlds -/

/-- The state of a session to an application. -/
structure AppLink where
  kind : Site.AppKind := .site
  headers : List (String × String) := []
  /-- How long connecting and closing may wait, in seconds. -/
  connectTimeout : Value := .float 60
  /-- The application, once it was called. -/
  app : Option Site.AppInstance := none
  /-- What reached the application and waits to be handled. -/
  inbox : List Site.Incoming := []
  /-- Whether connecting began. -/
  opened : Bool := false
  /-- Whether the application was called. -/
  created : Bool := false
  /-- Whether the session's machinery stopped for good: connecting failed, or the session
  was closed. -/
  broken : Bool := false
  /-- What the application sent before the reader began to read it. -/
  pending : List Site.Outgoing := []
  /-- Whether the reader passes the application's frames to the client. -/
  reading : Bool := false
  /-- Whether the client was told the session closed. -/
  notified : Bool := false
  /-- Whether the client closed the session. -/
  closed : Bool := false
  accepted : Option String := none
  deriving Inhabited

/-- The state of a session over the network. -/
structure NetLink where
  /-- Whether connecting began: the client's socket exists. -/
  started : Bool := false
  /-- Whether the socket was closed. -/
  shut : Bool := false
  /-- Whether the client was told the session closed. -/
  notified : Bool := false
  deriving Inhabited

/-- One session: where it goes, the attempt its callbacks serve (or a recorder), and what
was done on it. -/
structure Link where
  uri : String
  subprotocols : List String
  attempt : Nat
  /-- Whether a recorder watches the session instead of an attempt. -/
  recorder : Bool := false
  connected : Bool := false
  sent : List String := []
  closeCalls : Nat := 0
  /-- The state of a session to an application. -/
  peer : AppLink := {}
  /-- The state of a session over the network. -/
  net : NetLink := {}
  deriving Inhabited

/-- What happens at a scheduled time. -/
inductive Event where
  /-- A frame reaches the client on a session. -/
  | deliver (link : Nat) (text : String)
  /-- A session tells the client it has closed. -/
  | closeNotice (link : Nat)
  /-- The application of a session runs what is due. -/
  | appRun (link : Nat)
  /-- A paused stream of a session's application is due again. -/
  | streamWake (link : Nat) (token : Nat)
  deriving Inhabited

/-- An event with its time and its place in the order of scheduling. -/
structure Scheduled where
  time : Float
  order : Nat
  event : Event
  deriving Inhabited

/-- The most sleeps a run may take. -/
def sleepBudget : Nat := 2000000

/-- A world of sessions. -/
structure World where
  clock : Float := 0
  queue : List Scheduled := []
  nextOrder : Nat := 0
  server : Server := .scripted {}
  links : Array Link := #[]
  /-- All subscription attempts; the client works on `current`. -/
  attempts : Array State
  current : Nat := 0
  /-- The session the client holds, if any. -/
  link : Option Nat := none
  /-- The id the next attempt gets. -/
  nextId : Int
  sleepsLeft : Nat := sleepBudget
  /-- Whether a run slept more than the budget allows. -/
  exhausted : Bool := false
  /-- Frames sent since the last step began. -/
  sentNow : List (Nat × String) := []
  /-- Records logged since the last step began. -/
  logs : List LogRecord := []
  /-- Faults raised by events that came due since the last step began. -/
  lateFaults : List Fault := []
  /-- The frames recorders received, in order. -/
  received : List String := []
  /-- The close notices recorders got. -/
  closes : Nat := 0
  deriving Inhabited

/-- A computation in a world that may stop with a fault. -/
abbrev Sim := ExceptT Fault (StateM World)

namespace World

/-- A world with one fresh attempt. -/
def start (server : Server) (firstId : Int) : World :=
  { server, attempts := #[State.fresh firstId], nextId := firstId + 1 }

/-- The attempt the client works on. -/
def state (w : World) : State := w.attempts[w.current]?.getD default

end World

/-- Log a record. -/
def log (r : LogRecord) : Sim Unit := modify fun w => { w with logs := w.logs ++ [r] }

/-- Log a record of the client. -/
def clientLog (text : String) (context : List (String × Value)) : Sim Unit :=
  log (LogRecord.ofKit "subscription.driver" .debug text context)

/-- The attempt the client works on. -/
def current : Sim State := return (← get).state

/-- Change an attempt. -/
def updateAttempt (i : Nat) (f : State → State) : Sim Unit :=
  modify fun w => { w with attempts := w.attempts.modify i f }

/-- Change the attempt the client works on. -/
def updateCurrent (f : State → State) : Sim Unit := do
  updateAttempt (← get).current f

/-- The fault of a session index that names no session. -/
def noSuchLink : Fault := Fault.simple .outOfRange "list index out of range"

/-- The session of an index. -/
def linkAt (i : Nat) : Sim Link := do
  match (← get).links[i]? with
  | some l => pure l
  | none => throw noSuchLink

/-- Change a session. -/
def updateLink (i : Nat) (f : Link → Link) : Sim Unit :=
  modify fun w => { w with links := w.links.modify i f }

/-- Change the state of a session over the network. -/
def updateNet (i : Nat) (f : NetLink → NetLink) : Sim Unit :=
  updateLink i fun l => { l with net := f l.net }

/-- Change the state of a session to an application. -/
def updatePeer (i : Nat) (f : AppLink → AppLink) : Sim Unit :=
  updateLink i fun l => { l with peer := f l.peer }

/-- Insert an event into a queue ordered by time, then by order of scheduling. -/
def insertScheduled (e : Scheduled) : List Scheduled → List Scheduled
  | [] => [e]
  | x :: xs => if e.time < x.time then e :: x :: xs else x :: insertScheduled e xs

/-- Schedule an event `delayMs` after now. -/
def schedule (delayMs : Float) (ev : Event) : Sim Unit :=
  modify fun w =>
    { w with queue := insertScheduled ⟨w.clock + delayMs, w.nextOrder, ev⟩ w.queue,
             nextOrder := w.nextOrder + 1 }

end GraphProbe.Session
