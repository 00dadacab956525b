import GraphProbe.Session.Delivery
import GraphProbe.Text.Utf8

/-!
# Sessions to applications

A session to an application runs the application beside the client. The application takes
what reaches it one message at a time and answers with what it sends; the site's streams
take their steps in between.

* *Connecting* calls the application with the session's scope and tells it of the
  connection. Its first answer decides: an acceptance opens the session (and names the
  sub-protocol), anything else rejects it, and an application that ended without answering
  either returned (nothing was accepted) or raised (the fault is reported). A failed connect
  stops the session's machinery for good.
* Once the session is open a *reader* passes what the application sends to the client:
  texts as they are, bytes decoded as UTF-8. When the application closes the session the
  reader tells the application the session ended and stops; when the application ends the
  reader stops. Either way it tells the client once that the session closed.
* *Sending* hands a text to the application; it is refused when the session is not open, or
  with the application's fault when the application raised.
* *Closing* tells a running application the session ended, lets it finish, and stops the
  session's machinery; a fault the application raises meanwhile is raised by the close.

The application reacts when the world runs the events of the present moment: each call
schedules a run of the application now, and a paused stream schedules its wake.
-/

namespace GraphProbe.Session

open Site

/-- The fault of a call on a session whose machinery has stopped. -/
def loopStopped : Fault := Fault.simple .runtime "Event loop is closed"

namespace Application

/-- The most turns an application takes in one run; a run that needs more goes on in a
further run at the same moment. -/
def turnBudget : Nat := 100000

/-- The reader stops and tells the client the session closed. -/
def stopReading (i : Nat) : Sim Unit := do
  updatePeer i fun p => { p with reading := false }
  notifyClosed i

/-- The reader takes one thing the application sent. -/
def read (i : Nat) : Outgoing → Sim Unit
  | .text t => deliverNow i t
  | .bytes b =>
    match Utf8.decode b with
    | .ok t => deliverNow i t
    | .error _ => stopReading i
  | .close code => do
    updatePeer i fun p => { p with inbox := p.inbox ++ [.disconnect (code.getD 1000)] }
    schedule 0 (.appRun i)
    stopReading i
  | _ => pure ()

/-- The reader takes what the application sent, in order, as long as it reads. -/
def readAll (i : Nat) : List Outgoing → Sim Unit
  | [] => pure ()
  | o :: os => do
    if (← linkAt i).peer.reading then
      read i o
      readAll i os

/-- After a turn: the reader takes what was sent, and stops when the application ended. -/
def afterTurn (i : Nat) (out : List Outgoing) : Sim Unit := do
  readAll i out
  let p := (← linkAt i).peer
  if p.reading && (p.app.map (·.ended.isSome)).getD false then stopReading i

/-- One turn of a session's application: a due stream steps, or else the next message is
handled. Whether a turn was taken. -/
def turn (i : Nat) : Sim Bool := do
  let p := (← linkAt i).peer
  if p.broken then return false
  match p.app with
  | none => return false
  | some a =>
    if a.ended.isSome then return false
    match a.consumer.readyToken with
    | some token =>
      let (a', out, pause) := a.stepStream token
      updatePeer i fun p => { p with app := some a' }
      if let some seconds := pause then schedule (seconds * 1000) (.streamWake i token)
      afterTurn i out
      return true
    | none =>
      match p.inbox with
      | m :: rest =>
        let (a', out) := a.handle m
        updatePeer i fun p => { p with app := some a', inbox := rest }
        afterTurn i out
        return true
      | [] => return false

/-- Take turns until none is left; a run that spends its budget goes on in a further run. -/
def runTurns (i : Nat) : Nat → Sim Unit
  | 0 => schedule 0 (.appRun i)
  | fuel + 1 => do if (← turn i) then runTurns i fuel

/-- Run a session's application: first the reader takes what was sent before it began,
then the application takes its turns. -/
def run (i : Nat) : Sim Unit := do
  let p := (← linkAt i).peer
  if p.broken then return
  updatePeer i fun p => { p with pending := [] }
  afterTurn i p.pending
  runTurns i turnBudget

/-- A paused stream of a session's application is due again. -/
def wake (i : Nat) (token : Nat) : Sim Unit := do
  updatePeer i fun p => { p with app := p.app.map fun a => { a with consumer := a.consumer.wake token } }
  run i

/-- Stop a session's machinery after a failed connect, with the fault. -/
def failConnect {α : Type} (i : Nat) (f : Fault) : Sim α := do
  updatePeer i fun p => { p with broken := true }
  throw f

/-- A step of connecting that may fail; a failure stops the session's machinery. -/
def orFailConnect {α : Type} (i : Nat) (uri : String) : Except Fault α → Sim α
  | .ok a => pure a
  | .error f => failConnect i (.transport uri f.literal)

/-- The application's first answer decides a connect: an acceptance opens the session and
names the sub-protocol, anything else rejects it, and an application that ended without
answering either returned or raised. -/
def accept (i : Nat) (l : Link) (a : AppInstance) : List Outgoing → Sim (Option String)
  | .accept sp :: rest => do
    updatePeer i fun p => { p with accepted := sp, reading := true, pending := rest }
    schedule 0 (.appRun i)
    pure sp
  | reply :: _ =>
    failConnect i (.transport l.uri s!"connection rejected with {reply.toValue.literal}")
  | [] =>
    match a.ended with
    | some (some f) => failConnect i (.transport l.uri f.literal)
    | some none => failConnect i (.transport l.uri "application exited before accepting")
    | none =>
      failConnect i (.transport l.uri s!"not accepted within {l.peer.connectTimeout.display}s")

/-- Connect a session to its application: the sub-protocol it accepted. -/
def connect (i : Nat) : Sim (Option String) := do
  let l ← linkAt i
  let p := l.peer
  if p.opened then throw (.transport l.uri "session already connected")
  updatePeer i fun p => { p with opened := true }
  let scope ← orFailConnect i l.uri (Scope.ofUri l.uri p.headers l.subprotocols)
  let a ← orFailConnect i l.uri (p.kind.call scope.path l.subprotocols)
  updatePeer i fun p => { p with created := true }
  let answer := a.handle .connect
  updatePeer i fun p => { p with app := some answer.1 }
  accept i l answer.1 answer.2

/-- Send a text on a session to an application. -/
def send (i : Nat) (text : String) : Sim Unit := do
  let l ← linkAt i
  let p := l.peer
  if !p.opened || !p.created || p.closed then throw (.transport l.uri "session not connected")
  if p.broken then throw loopStopped
  if let some (some (some f)) := p.app.map (·.ended) then throw (.transport l.uri f.literal)
  updateLink i fun l =>
    { l with sent := l.sent ++ [text], peer := { l.peer with inbox := l.peer.inbox ++ [.text text] } }
  modify fun w => { w with sentNow := w.sentNow ++ [(i, text)] }
  schedule 0 (.appRun i)

/-- The application of a session ends at once when it still runs: it is cancelled. -/
def cancel (i : Nat) : Sim Unit :=
  updatePeer i fun p => { p with app := p.app.map fun a =>
    if a.ended.isSome then a else a.finish none }

/-- Close a session to an application. Closing again does nothing. -/
def close (i : Nat) : Sim Unit := do
  updateLink i fun l => { l with closeCalls := l.closeCalls + 1 }
  let p := (← linkAt i).peer
  if !p.opened || p.closed then return
  updatePeer i fun p => { p with closed := true }
  if p.broken then throw loopStopped
  let running := (p.app.map (·.ended.isNone)).getD false
  if running then
    updatePeer i fun p => { p with inbox := p.inbox ++ [.disconnect 1000] }
    run i
    cancel i
  let p ← (·.peer) <$> linkAt i
  afterTurn i []
  notifyClosed i
  updatePeer i fun p => { p with broken := true, reading := false }
  if running then
    if let some (some (some f)) := p.app.map (·.ended) then throw f

end Application

end GraphProbe.Session
