import GraphProbe.Response.Basic

/-!
# The state of a subscription attempt

A subscription goes through a lifecycle: *initialized* (the connection was opened and the
init message sent), *acknowledged* (the server accepted it), *started* (the query was sent),
*stopped* (the session closed) and *completed* (the server ended the stream). Each flag only
ever goes from false to true. Meanwhile answers are buffered in arrival order, until the
attempt is stopped or completed; later answers are discarded.

A failure noticed while a frame is handled cannot be raised where it happens, so the first
one is kept in the state and raised by the next operation of the client.
-/

namespace GraphProbe.Subscription

/-- The state of one subscription attempt. -/
structure State where
  id : Int
  initialized : Bool := false
  acknowledged : Bool := false
  started : Bool := false
  stopped : Bool := false
  completed : Bool := false
  failure : Option Fault := none
  /-- Buffered answers, oldest first. -/
  responses : List Response := []
  deriving Inhabited

/-- The lifecycle flags of an attempt. -/
inductive Flag where
  | initialized
  | acknowledged
  | started
  | stopped
  | completed
  deriving DecidableEq, Repr

namespace State

/-- A fresh attempt with an id. -/
def fresh (id : Int) : State := { id }

/-- The value of a flag. -/
def flag (s : State) : Flag → Bool
  | .initialized => s.initialized
  | .acknowledged => s.acknowledged
  | .started => s.started
  | .stopped => s.stopped
  | .completed => s.completed

/-- Turn a flag on; nothing else changes. -/
def mark (s : State) : Flag → State
  | .initialized => { s with initialized := true }
  | .acknowledged => { s with acknowledged := true }
  | .started => { s with started := true }
  | .stopped => { s with stopped := true }
  | .completed => { s with completed := true }

/-- The failure of starting an attempt that was not initialized. -/
def startTooEarly : Fault :=
  Fault.simple .runtime "A subscription cannot start before it is initialized."

/-- Mark the attempt started: unlike the other flags, only an initialized attempt can start. -/
def markStarted (s : State) : Except Fault State :=
  if s.initialized then .ok (s.mark .started) else .error startTooEarly

/-- Keep a failure unless one is kept already. -/
def recordFailure (s : State) (f : Fault) : State :=
  match s.failure with
  | some _ => s
  | none => { s with failure := some f }

/-- Whether the attempt has ended: stopped or completed. -/
def ended (s : State) : Bool := s.stopped || s.completed

/-- Buffer an answer unless the attempt has ended; the flag says whether it was kept. -/
def append (s : State) (r : Response) : Bool × State :=
  if s.ended then (false, s) else (true, { s with responses := s.responses ++ [r] })

/-- The number of buffered answers. -/
def buffered (s : State) : Nat := s.responses.length

/-- How many answers a drain of `count` takes: all when no count is given, else at most
`count`, and none for a negative count. -/
def takeCount (s : State) (count : Option Int) : Nat :=
  match count with
  | none => s.buffered
  | some c => min c.toNat s.buffered

/-- Remove up to `count` answers from the front of the buffer. -/
def drain (s : State) (count : Option Int) : List Response × State :=
  let n := s.takeCount count
  (s.responses.take n, { s with responses := s.responses.drop n })

/-- The text of a flag. -/
def flagText (b : Bool) : String := if b then "True" else "False"

/-- The text an attempt shows of itself. -/
def literal (s : State) : String :=
  s!"SubscriptionState(id={s.id}, initialized={flagText s.initialized}, " ++
    s!"acknowledged={flagText s.acknowledged}, started={flagText s.started}, " ++
    s!"stopped={flagText s.stopped}, completed={flagText s.completed}, " ++
    s!"responses={s.buffered})"

end State

end GraphProbe.Subscription
