import GraphProbe.Session.World

/-!
# What reaches the client

A session passes two things to its client: frames, and the notice that it closed. An
attempt handles them as the subscription state says; a recorder keeps the frames and
counts the notices. A session to an application tells its client of the close once only.
-/

namespace GraphProbe.Session

open Subscription

/-- A frame reaches the client on a session: a recorder keeps it, otherwise the attempt the
session serves handles it. -/
def deliverNow (i : Nat) (text : String) : Sim Unit := do
  let l ← linkAt i
  if l.recorder then
    modify fun w => { w with received := w.received ++ [text] }
  else
    let s := (← get).attempts[l.attempt]?.getD default
    let (records, r) := s.dispatch text
    modify fun w => { w with logs := w.logs ++ records }
    match r with
    | .ok s' => updateAttempt l.attempt fun _ => s'
    | .error f => throw f

/-- A session tells the client it has closed: a recorder counts it, otherwise the attempt it
serves is stopped. -/
def closeNow (i : Nat) : Sim Unit := do
  let l ← linkAt i
  if l.recorder then modify fun w => { w with closes := w.closes + 1 }
  else updateAttempt l.attempt (·.mark .stopped)

/-- Tell the client that a session to an application closed, unless it was told before. -/
def notifyClosed (i : Nat) : Sim Unit := do
  if !(← linkAt i).peer.notified then
    updatePeer i fun p => { p with notified := true }
    closeNow i

end GraphProbe.Session
