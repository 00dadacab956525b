import GraphProbe.Session.Application
import GraphProbe.Json.Arithmetic

/-!
# Events and the passing of time

An event is run *now* (inside a call of the client, whose faults it then raises) or
*scheduled* for later (it runs when the clock reaches it, and a fault it raises is kept
among the world's late faults). `sleep` is the only way the client lets time pass.
-/

namespace GraphProbe.Session

open Subscription

/-- Run an event now. -/
def runEvent : Event → Sim Unit
  | .deliver i text => deliverNow i text
  | .closeNotice i => closeNow i
  | .appRun i => Application.run i
  | .streamWake i token => Application.wake i token

/-- Run an event after a delay: at once when the delay is zero or less. -/
def after (delayMs : Float) (ev : Event) : Sim Unit :=
  if delayMs ≤ 0 then runEvent ev else schedule delayMs ev

/-- Run the events that have come due, in order; their faults are kept, not raised. -/
def runDue : Nat → Sim Unit
  | 0 => pure ()
  | fuel + 1 => do
    let w ← get
    match w.queue with
    | e :: rest =>
      if e.time ≤ w.clock then
        set { w with queue := rest }
        tryCatch (runEvent e.event) fun f =>
          modify fun w => { w with lateFaults := w.lateFaults ++ [f] }
        runDue fuel
      else pure ()
    | [] => pure ()

/-- The most events one moment may run. -/
def dueBudget : Nat := 1000000

/-- Run every event that has come due, also those that come due meanwhile. -/
def runAllDue : Sim Unit := runDue dueBudget

/-- The fault that stops a run that slept more than its budget. -/
def budgetSpent : Fault := Fault.simple .runtime "sleep budget exhausted"

/-- Sleep `ms / 1000` seconds, for a number `ms` of milliseconds: a negative length is
refused; otherwise the clock moves by the length in seconds times 1000, rounded to nine
decimal places, and then the events due run. -/
def sleep (ms : Num) : Sim Unit := do
  if ms.quotientNegative 1000 then
    throw (Fault.simple .invalidValue "sleep length must be non-negative")
  let w ← get
  match w.sleepsLeft with
  | 0 =>
    set { w with exhausted := true }
    throw budgetSpent
  | n + 1 =>
    set { w with sleepsLeft := n, clock := w.clock + Number.roundPlaces (ms.divBy 1000 * 1000) 9 }
    runAllDue

/-- Move the clock by `ms` milliseconds and run the events due. -/
def advance (ms : Float) : Sim Unit := do
  modify fun w => { w with clock := w.clock + ms }
  runAllDue

/-- Let time pass until a condition holds of the world or `timeoutMs` milliseconds have
passed, moving the clock from one due event to the next. -/
def waitUntil (cond : World → Bool) (timeoutMs : Float) : Sim Unit := do
  runAllDue
  let deadline := (← get).clock + timeoutMs
  let rec loop : Nat → Sim Unit
    | 0 => pure ()
    | fuel + 1 => do
      let w ← get
      if cond w then return
      match w.queue with
      | e :: _ =>
        if e.time ≤ deadline then
          set { w with clock := max w.clock e.time }
          runAllDue
          loop fuel
        else
          set { w with clock := deadline }
          runAllDue
      | [] =>
        set { w with clock := deadline }
        runAllDue
  loop dueBudget

end GraphProbe.Session
