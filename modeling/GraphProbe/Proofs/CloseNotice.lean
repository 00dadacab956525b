import Mathlib.Tactic.Common

/-!
# Close notices of the two transports

A transport tells its client that the session ended by calling the `on_close` the client
passed to `connect`. Both transports hold it in a close notifier: `connect` binds the callback
of its first call, and whoever sees the session end fires the notifier, which under its lock
marks itself fired the first time it holds a callback, and only then calls it.

Several threads may fire it, so each transport is a state machine whose steps interleave in
every order (`AsgiTransport.Reachable`, `SocketTransport.Reachable`), each step one atomic
action of one of them:

* the in-process transport: the caller's `connect` and `close`; on the event loop, `_open`
  (the application accepts or not), the reader task, which fires the notifier when it ends,
  and `_shutdown`, which waits for the reader, or fires the notifier when there is none; the
  loop stopping; and the collector, which runs the `finally` of a reader left pending on a
  stopped loop.
* the network transport: the caller's `connect`, which waits for the socket's open event
  until its deadline; and the socket's thread, which runs `on_open`, at most one `on_close`
  (which fires the notifier once the session had opened), and sets the open event when it
  ends.

The application, the server and the network may do anything at any time: accept or refuse,
close the session, raise in a delivery, end. The caller makes one call at a time.

`close_notices` is the main statement. The notifier is called at most once, and only with the
callback of the first `connect`: a second `connect` raises before it binds anything. A
`connect` that raises because the application refused, or because the handshake failed, never
has its callback called. After `_open` accepted, the callback is called exactly when the
reader ends, and a `close` that ran `_shutdown` to its end returns after it. A `connect` that
gave up at its own deadline is the exception: its callback is called when the session opens
after the deadline, as `late_open_notifies` shows for the network transport.
-/

namespace GraphProbe.Session

/-! ### The notifier -/

/-- A transport's close notifier: the connect call (by number) whose callback it holds,
whether it fired, and the callbacks called so far. -/
structure CloseNotifier where
  bound : Option Nat := none
  fired : Bool := false
  calls : List Nat := []
  deriving DecidableEq

namespace CloseNotifier

/-- Hold the callback of a connect call. -/
def bind (n : CloseNotifier) (k : Nat) : CloseNotifier := { n with bound := some k }

/-- Fire: the first time the notifier holds a callback it marks itself fired and the callback
is called; otherwise nothing happens. -/
def fire (n : CloseNotifier) : CloseNotifier :=
  if n.fired then n else
    match n.bound with
    | some k => { n with fired := true, calls := n.calls ++ [k] }
    | none => n

variable {n : CloseNotifier}

/-- Firing a notifier that has not fired, holding the callback of the first connect. -/
theorem fire_first (hf : n.fired = false) (hb : n.bound = some 0) :
    n.fire = { n with fired := true, calls := n.calls ++ [0] } := by
  simp [fire, hf, hb]

/-- Firing a notifier that fired already changes nothing. -/
theorem fire_of_fired (hf : n.fired = true) : n.fire = n := by
  simp [fire, hf]

/-- Firing keeps the callback held. -/
theorem bound_fire : n.fire.bound = n.bound := by
  unfold fire
  split
  · rfl
  · split <;> rfl

/-- A notifier that holds the first connect's callback, and has called it exactly when it
fired, still has after firing. -/
theorem calls_fire (h : n.calls = if n.fired then [0] else []) (hb : n.bound = some 0) :
    n.fire.calls = if n.fire.fired then [0] else [] := by
  cases hf : n.fired
  · simp [fire_first hf hb, h, hf]
  · simp [fire_of_fired hf, h, hf]

end CloseNotifier

/-! ### The in-process transport -/

/-- Where the caller's first `connect` is: waiting for `_open`, stopping the loop before it
raises (`timedOut` when its own deadline passed before `_open` answered), or back. -/
inductive AsgiConnect where
  | idle
  | waiting
  | stopping (timedOut : Bool)
  | returned
  | raised (timedOut : Bool)
  deriving DecidableEq

/-- What `_open` came to. -/
inductive AsgiOpen where
  | pending
  | accepted
  | failed
  deriving DecidableEq

/-- Where the reader task is. -/
inductive AsgiReader where
  | none
  | running
  | ended
  deriving DecidableEq

/-- Where the caller's first effective `close` is: waiting for `_shutdown`, stopping the loop
before it raises, or back. A `close` before any `connect`, or after another `close`, does
nothing. -/
inductive AsgiClose where
  | idle
  | waiting
  | stopping
  | returned
  | raised
  deriving DecidableEq

/-- Where `_shutdown` is: scheduled, waiting for the reader after the application ended, or
finished. -/
inductive AsgiShutdown where
  | none
  | pending
  | awaiting
  | finished
  deriving DecidableEq

/-- The in-process transport between two steps. -/
structure AsgiTransport where
  notifier : CloseNotifier := {}
  /-- The connect calls made; the first makes the event loop. -/
  connects : Nat := 0
  connecting : AsgiConnect := .idle
  opening : AsgiOpen := .pending
  reader : AsgiReader := .none
  /-- The `_closed` flag. -/
  closed : Bool := false
  closing : AsgiClose := .idle
  shutdown : AsgiShutdown := .none
  /-- Whether the caller asked the loop to stop, and whether it has. -/
  stopRequested : Bool := false
  halted : Bool := false
  deriving DecidableEq

namespace AsgiTransport

/-- The caller is in no call. -/
def callerFree (t : AsgiTransport) : Prop :=
  t.connecting ≠ .waiting ∧ (∀ b, t.connecting ≠ .stopping b) ∧ t.closing ≠ .waiting ∧
    t.closing ≠ .stopping

instance : DecidablePred callerFree := fun t => by unfold callerFree; infer_instance

/-- One atomic action of the caller, of a task on the event loop, of the loop, or of the
collector. -/
inductive Step : AsgiTransport → AsgiTransport → Prop
  /-- The first `connect` binds its callback, makes the loop and schedules `_open`. -/
  | connect {t : AsgiTransport} (hf : t.callerFree) (h0 : t.connects = 0) :
      Step t { t with notifier := t.notifier.bind 0, connects := 1, connecting := .waiting }
  /-- A later `connect` finds the loop made and raises at once. -/
  | connectAgain {t : AsgiTransport} (hf : t.callerFree) (h0 : t.connects ≠ 0) :
      Step t { t with connects := t.connects + 1 }
  /-- `_open` accepted in time: `connect` returns. -/
  | connectReturns {t : AsgiTransport} (hc : t.connecting = .waiting)
      (ho : t.opening = .accepted) : Step t { t with connecting := .returned }
  /-- `_open` raised: `connect` stops the loop. -/
  | openFailed {t : AsgiTransport} (hc : t.connecting = .waiting) (ho : t.opening = .failed) :
      Step t { t with connecting := .stopping false, stopRequested := true }
  /-- The deadline of `connect` passed before `_open` answered: it stops the loop. -/
  | deadline {t : AsgiTransport} (hc : t.connecting = .waiting) (ho : t.opening = .pending) :
      Step t { t with connecting := .stopping true, stopRequested := true }
  /-- Once the loop stopped, `connect` raises. -/
  | connectRaises {t : AsgiTransport} {b : Bool} (hc : t.connecting = .stopping b)
      (hh : t.halted = true) : Step t { t with connecting := .raised b }
  /-- The first `close` after a `connect` sets `_closed`; on a stopped loop it raises at once,
  else it schedules `_shutdown`. -/
  | close {t : AsgiTransport} (hf : t.callerFree) (h0 : t.connects ≠ 0)
      (hc : t.closed = false) :
      Step t (if t.halted then { t with closed := true, closing := .raised }
        else { t with closed := true, closing := .waiting, shutdown := .pending })
  /-- `_shutdown` finished in time: `close` returns. -/
  | closeReturns {t : AsgiTransport} (hc : t.closing = .waiting)
      (hs : t.shutdown = .finished) : Step t { t with closing := .returned }
  /-- The deadline of `close` passed first: it stops the loop. -/
  | closeDeadline {t : AsgiTransport} (hc : t.closing = .waiting)
      (hs : t.shutdown ≠ .finished) :
      Step t { t with closing := .stopping, stopRequested := true }
  /-- Once the loop stopped, `close` raises. -/
  | closeRaises {t : AsgiTransport} (hc : t.closing = .stopping) (hh : t.halted = true) :
      Step t { t with closing := .raised }
  /-- `_open` gets the application's accept and starts the reader. -/
  | accept {t : AsgiTransport} (hl : t.halted = false) (h0 : t.connects ≠ 0)
      (ho : t.opening = .pending) : Step t { t with opening := .accepted, reader := .running }
  /-- `_open` gets anything else, or nothing in time, and raises. -/
  | refuse {t : AsgiTransport} (hl : t.halted = false) (h0 : t.connects ≠ 0)
      (ho : t.opening = .pending) : Step t { t with opening := .failed }
  /-- The reader ends (the application closed the session, or ended with nothing left to
  take, or a delivery raised); its `finally` fires the notifier. -/
  | readerEnds {t : AsgiTransport} (hl : t.halted = false) (hr : t.reader = .running) :
      Step t { t with reader := .ended, notifier := t.notifier.fire }
  /-- `_shutdown` tells a running application the session ended and waits for it. -/
  | shutdownApp {t : AsgiTransport} (hl : t.halted = false) (hs : t.shutdown = .pending) :
      Step t { t with shutdown := .awaiting }
  /-- `_shutdown` finishes once the reader has ended, firing the notifier when there was no
  reader. -/
  | shutdownEnds {t : AsgiTransport} (hl : t.halted = false) (hs : t.shutdown = .awaiting)
      (hr : t.reader ≠ .running) :
      Step t { t with
        shutdown := .finished
        notifier := if t.reader = .none then t.notifier.fire else t.notifier }
  /-- The loop stops when asked. -/
  | halt {t : AsgiTransport} (hs : t.stopRequested = true) : Step t { t with halted := true }
  /-- A reader left pending on the stopped loop is collected: its `finally` runs. -/
  | collect {t : AsgiTransport} (hl : t.halted = true) (hr : t.reader = .running) :
      Step t { t with reader := .ended, notifier := t.notifier.fire }

/-- The states of the transport, its threads interleaved in every order. -/
inductive Reachable : AsgiTransport → Prop
  | start : Reachable {}
  | step {t t' : AsgiTransport} : Reachable t → Step t t' → Reachable t'

/-- What holds between any two steps. The notifier holds the first connect's callback and was
called with it exactly when the reader ended; the reader exists exactly when `_open`
accepted; a `connect` that returned saw the accept and one refused saw the failure; a raised
`connect` stopped the loop; `_shutdown` runs only after a `connect` that returned, and once
finished it leaves no reader running. -/
structure Sound (t : AsgiTransport) : Prop where
  bound_eq : t.notifier.bound = if t.connects = 0 then none else some 0
  calls_eq : t.notifier.calls = if t.notifier.fired then [0] else []
  fired_iff : t.notifier.fired = true ↔ t.reader = .ended
  idle_iff : t.connecting = .idle ↔ t.connects = 0
  fresh : t.connects = 0 → t.opening = .pending
  reader_iff : t.reader ≠ .none ↔ t.opening = .accepted
  returned : t.connecting = .returned → t.opening = .accepted
  refused : t.connecting = .stopping false ∨ t.connecting = .raised false →
    t.opening = .failed
  raised_halted : ∀ b, t.connecting = .raised b → t.halted = true
  shutdown_after : t.shutdown ≠ .none → t.connecting = .returned
  closing_returned : t.closing = .returned → t.shutdown = .finished
  finished : t.shutdown = .finished → t.reader ≠ .running

theorem start_sound : Sound {} where
  bound_eq := rfl
  calls_eq := rfl
  fired_iff := by decide
  idle_iff := by decide
  fresh := fun _ => rfl
  reader_iff := by decide
  returned := by decide
  refused := by decide
  raised_halted := by decide
  shutdown_after := by decide
  closing_returned := by decide
  finished := by decide

variable {t t' : AsgiTransport}

namespace Sound

variable (hs : t.Sound)
include hs

theorem bound_zero (h : t.connects ≠ 0) : t.notifier.bound = some 0 := by
  simp [hs.bound_eq, h]

theorem reader_none (h : t.opening ≠ .accepted) : t.reader = .none := by
  by_contra hr
  exact h (hs.reader_iff.mp hr)

theorem not_fired (h : t.reader ≠ .ended) : t.notifier.fired = false := by
  by_contra hf
  exact h (hs.fired_iff.mp (by simpa using hf))

/-- No `_shutdown` before a `connect` that returned. -/
theorem shutdown_none (h : t.connecting ≠ .returned) : t.shutdown = .none := by
  by_contra hsd
  exact h (hs.shutdown_after hsd)

/-- A reader was started by an accept, after the first `connect`. -/
theorem connects_of_reader (h : t.reader ≠ .none) : t.connects ≠ 0 := fun h0 =>
  absurd (hs.reader_iff.mp h) (by simp [hs.fresh h0])

/-- A `connect` under way that moves on is still past the first call. -/
theorem idle_iff_moved (hc : t.connecting ≠ .idle) {c : AsgiConnect} (hc' : c ≠ .idle) :
    c = .idle ↔ t.connects = 0 :=
  ⟨fun h => absurd h hc', fun h0 => absurd (hs.idle_iff.mpr h0) hc⟩

/-- The reader ends: the notifier, not fired yet, calls the first connect's callback. -/
theorem readerEnds_sound (hr : t.reader = .running) :
    Sound { t with reader := .ended, notifier := t.notifier.fire } := by
  have hbound := hs.bound_zero (hs.connects_of_reader (by simp [hr]))
  have hfire := CloseNotifier.fire_first (hs.not_fired (by simp [hr])) hbound
  refine { hs with
    bound_eq := CloseNotifier.bound_fire.trans hs.bound_eq
    calls_eq := CloseNotifier.calls_fire hs.calls_eq hbound
    fired_iff := by simp [hfire]
    reader_iff := ?_
    finished := fun _ => by simp }
  simpa [hr] using hs.reader_iff

/-- The caller, free to close after a `connect` on a loop that still runs, saw the `connect`
return. -/
theorem returned_of_free (hf : t.callerFree) (h0 : t.connects ≠ 0) (hh : t.halted = false) :
    t.connecting = .returned := by
  obtain ⟨hw, hst, -, -⟩ := hf
  cases hcon : t.connecting with
  | idle => exact absurd (hs.idle_iff.mp hcon) h0
  | raised b => simp [hs.raised_halted b hcon] at hh
  | returned => rfl
  | waiting => exact absurd hcon hw
  | stopping b => exact absurd hcon (hst b)

end Sound

/-- Every step keeps the invariant. -/
theorem Step.sound (hs : t.Sound) (h : Step t t') : t'.Sound := by
  cases h with
  | connect hf h0 =>
    -- nothing happened before the first connect
    have hsd := hs.shutdown_none (by simp [hs.idle_iff.mpr h0])
    exact { hs with
      bound_eq := rfl
      idle_iff := by simp
      fresh := by simp
      returned := by simp
      refused := by simp
      raised_halted := by simp
      shutdown_after := by simp [hsd] }
  | connectAgain hf h0 =>
    refine { hs with
      bound_eq := by simp [hs.bound_zero h0]
      idle_iff := ?_
      fresh := by simp }
    simpa using fun hc => h0 (hs.idle_iff.mp hc)
  | connectReturns hc ho =>
    exact { hs with
      idle_iff := hs.idle_iff_moved (by simp [hc]) (by simp)
      returned := fun _ => ho
      refused := by simp
      raised_halted := by simp
      shutdown_after := fun _ => rfl }
  | openFailed hc ho =>
    have hsd := hs.shutdown_none (by simp [hc])
    exact { hs with
      idle_iff := hs.idle_iff_moved (by simp [hc]) (by simp)
      returned := by simp
      refused := fun _ => ho
      raised_halted := by simp
      shutdown_after := by simp [hsd] }
  | deadline hc ho =>
    have hsd := hs.shutdown_none (by simp [hc])
    exact { hs with
      idle_iff := hs.idle_iff_moved (by simp [hc]) (by simp)
      returned := by simp
      refused := by simp
      raised_halted := by simp
      shutdown_after := by simp [hsd] }
  | connectRaises hc hh =>
    have hsd := hs.shutdown_none (by simp [hc])
    exact { hs with
      idle_iff := hs.idle_iff_moved (by simp [hc]) (by simp)
      returned := by simp
      refused := fun h => hs.refused (by cases h <;> simp_all)
      raised_halted := fun _ _ => hh
      shutdown_after := by simp [hsd] }
  | close hf h0 hc =>
    by_cases hh : t.halted
    · rw [if_pos hh]
      exact { hs with closing_returned := by simp }
    · rw [if_neg hh]
      have hret := hs.returned_of_free hf h0 (by simpa using hh)
      exact { hs with
        shutdown_after := fun _ => hret
        closing_returned := by simp
        finished := by simp }
  | closeReturns hc hsf => exact { hs with closing_returned := fun _ => hsf }
  | closeDeadline hc hsf => exact { hs with closing_returned := by simp }
  | closeRaises hc hh => exact { hs with closing_returned := by simp }
  | accept hl h0 ho =>
    -- no reader before the accept, so the notifier has not fired; and no `_shutdown` ended,
    -- which needs a `connect` that saw the accept
    have hnone := hs.reader_none (by simp [ho])
    have hsd : t.shutdown ≠ .finished := fun hf =>
      absurd (hs.returned (hs.shutdown_after (by simp [hf]))) (by simp [ho])
    exact { hs with
      fired_iff := by simp [hs.not_fired (by simp [hnone])]
      fresh := by simp [h0]
      reader_iff := by simp
      returned := fun _ => rfl
      refused := fun h => absurd (hs.refused h) (by simp [ho])
      finished := fun hf => absurd hf hsd }
  | refuse hl h0 ho =>
    have hnone := hs.reader_none (by simp [ho])
    exact { hs with
      fresh := by simp [h0]
      reader_iff := by simp [hnone]
      returned := fun h => absurd (hs.returned h) (by simp [ho])
      refused := fun _ => rfl }
  | readerEnds hl hr => exact hs.readerEnds_sound hr
  | shutdownApp hl hsp =>
    exact { hs with
      shutdown_after := fun _ => hs.shutdown_after (by simp [hsp])
      closing_returned := fun h => absurd (hs.closing_returned h) (by simp [hsp])
      finished := by simp }
  | shutdownEnds hl hsa hr =>
    -- `_shutdown` runs only after an accept, so there is a reader and nothing fires here
    have hreader : t.reader ≠ .none :=
      hs.reader_iff.mpr (hs.returned (hs.shutdown_after (by simp [hsa])))
    simp only [hreader, if_false]
    exact { hs with
      shutdown_after := fun _ => hs.shutdown_after (by simp [hsa])
      closing_returned := fun _ => rfl
      finished := fun _ => hr }
  | halt hsr => exact { hs with raised_halted := fun _ _ => rfl }
  | collect hh hr => exact hs.readerEnds_sound hr

theorem Reachable.sound (h : Reachable t) : t.Sound := by
  induction h with
  | start => exact start_sound
  | step _ hstep ih => exact hstep.sound ih

end AsgiTransport

/-! ### The network transport -/

/-- Where the caller's first `connect` is: waiting for the open event, or back. It raises when
the event came from a run that never opened (`timedOut` false), or when its deadline passed
first (`timedOut` true), after asking the socket to close. -/
inductive SocketConnect where
  | idle
  | waiting
  | returned
  | raised (timedOut : Bool)
  deriving DecidableEq

/-- Where the socket's thread is: shaking hands, opened (`on_open` ran), past its one
`on_close`, or ended (its run returned). -/
inductive SocketRun where
  | none
  | handshaking
  | opened
  | closedCallback
  | ended
  deriving DecidableEq

/-- The network transport between two steps. -/
structure SocketTransport where
  notifier : CloseNotifier := {}
  /-- The connect calls made; the first makes the socket. -/
  connects : Nat := 0
  connecting : SocketConnect := .idle
  /-- The `_connected` flag and the `_opened` event. -/
  connected : Bool := false
  openEvent : Bool := false
  run : SocketRun := .none
  deriving DecidableEq

namespace SocketTransport

/-- One atomic action of the caller or of the socket's thread. A `close` of the caller only
asks the socket to close, which the server or the network may do at any time anyway, so it
adds no step of its own. -/
inductive Step : SocketTransport → SocketTransport → Prop
  /-- The first `connect` binds its callback and starts the socket's thread. -/
  | connect {s : SocketTransport} (hc : s.connecting ≠ .waiting) (h0 : s.connects = 0) :
      Step s { s with
        notifier := s.notifier.bind 0
        connects := 1
        connecting := .waiting
        run := .handshaking }
  /-- A later `connect` finds the socket made and raises at once. -/
  | connectAgain {s : SocketTransport} (hc : s.connecting ≠ .waiting) (h0 : s.connects ≠ 0) :
      Step s { s with connects := s.connects + 1 }
  /-- The open event came with the session open: `connect` returns. -/
  | connectReturns {s : SocketTransport} (hc : s.connecting = .waiting)
      (he : s.openEvent = true) (ho : s.connected = true) :
      Step s { s with connecting := .returned }
  /-- The open event came from a run that ended without opening: `connect` raises. -/
  | connectFails {s : SocketTransport} (hc : s.connecting = .waiting)
      (he : s.openEvent = true) (ho : s.connected = false) :
      Step s { s with connecting := .raised false }
  /-- The deadline passed with no open event: `connect` asks the socket to close and raises. -/
  | deadline {s : SocketTransport} (hc : s.connecting = .waiting) (he : s.openEvent = false) :
      Step s { s with connecting := .raised true }
  /-- The handshake completes: `on_open` marks the session connected and sets the event. -/
  | opens {s : SocketTransport} (hr : s.run = .handshaking) :
      Step s { s with run := .opened, connected := true, openEvent := true }
  /-- The run's one `on_close`: it fires the notifier when the session had opened. -/
  | closes {s : SocketTransport} (hr : s.run = .handshaking ∨ s.run = .opened) :
      Step s { s with
        run := .closedCallback
        notifier := if s.connected then s.notifier.fire else s.notifier }
  /-- The run returns, whether or not `on_close` ran, and its `finally` sets the open event. -/
  | ends {s : SocketTransport}
      (hr : s.run = .handshaking ∨ s.run = .opened ∨ s.run = .closedCallback) :
      Step s { s with run := .ended, openEvent := true }

/-- The states of the transport, the caller and the socket's thread interleaved in every
order. -/
inductive Reachable : SocketTransport → Prop
  | start : Reachable {}
  | step {s s' : SocketTransport} : Reachable s → Step s s' → Reachable s'

/-- What holds between any two steps. The notifier holds the first connect's callback and
fired only for a session that opened; the open event is set by an open or by the end of the
run; a session opened only from a handshake; and a `connect` that raised because the event
came without an open saw a run that ended unopened. -/
structure Sound (s : SocketTransport) : Prop where
  bound_eq : s.notifier.bound = if s.connects = 0 then none else some 0
  calls_eq : s.notifier.calls = if s.notifier.fired then [0] else []
  fired_connected : s.notifier.fired = true → s.connected = true
  idle_iff : s.connecting = .idle ↔ s.connects = 0
  fresh : s.connects = 0 → s.run = .none
  event : s.openEvent = true → s.connected = true ∨ s.run = .ended
  connected_event : s.connected = true → s.openEvent = true
  connected_run : s.connected = true → s.run ≠ .none ∧ s.run ≠ .handshaking
  failed : s.connecting = .raised false → s.connected = false ∧ s.run = .ended

theorem start_sound : Sound {} where
  bound_eq := rfl
  calls_eq := rfl
  fired_connected := by decide
  idle_iff := by decide
  fresh := fun _ => rfl
  event := by decide
  connected_event := by decide
  connected_run := by decide
  failed := by decide

variable {s s' : SocketTransport}

namespace Sound

variable (hs : s.Sound)
include hs

/-- A run was started by the first connect. -/
theorem connects_of_run (h : s.run ≠ .none) : s.connects ≠ 0 := fun h0 => h (hs.fresh h0)

/-- A connect raised for a run that ended unopened only once the run ended. -/
theorem not_failed (h : s.run ≠ .ended) : s.connecting ≠ .raised false :=
  fun hc => h (hs.failed hc).2

/-- A `connect` under way that moves on is still past the first call. -/
theorem idle_iff_moved (hc : s.connecting ≠ .idle) {c : SocketConnect} (hc' : c ≠ .idle) :
    c = .idle ↔ s.connects = 0 :=
  ⟨fun h => absurd h hc', fun h0 => absurd (hs.idle_iff.mpr h0) hc⟩

/-- The run's `on_close` keeps the invariant, with a notifier that holds the same callback,
has called it exactly when it fired, and fired only for a session that opened. -/
theorem closed (hr : s.run = .handshaking ∨ s.run = .opened) {n : CloseNotifier}
    (hb : n.bound = s.notifier.bound) (hcalls : n.calls = if n.fired then [0] else [])
    (hf : n.fired = true → s.connected = true) :
    Sound { s with run := .closedCallback, notifier := n } := by
  have hrun : s.run ≠ .none ∧ s.run ≠ .ended := by rcases hr with hr | hr <;> simp [hr]
  have h0 := hs.connects_of_run hrun.1
  -- the run has not ended, so an open event came from an open
  have hevent : s.openEvent = true → s.connected = true := fun he =>
    (hs.event he).resolve_right hrun.2
  exact { hs with
    bound_eq := hb.trans hs.bound_eq
    calls_eq := hcalls
    fired_connected := hf
    fresh := fun h => absurd h h0
    event := fun he => .inl (hevent he)
    connected_run := fun _ => by simp
    failed := fun hc => absurd hc (hs.not_failed hrun.2) }

end Sound

/-- Every step keeps the invariant. -/
theorem Step.sound (hs : s.Sound) (h : Step s s') : s'.Sound := by
  cases h with
  | connect hc h0 =>
    -- before the first connect there is no run, so nothing opened or fired
    have hrun := hs.fresh h0
    have hconn : s.connected = false := by
      by_contra hcon
      exact (hs.connected_run (by simpa using hcon)).1 hrun
    have hevent : s.openEvent = false := by
      by_contra he
      rcases hs.event (by simpa using he) with hcon | hend <;> simp_all
    exact { hs with
      bound_eq := rfl
      idle_iff := by simp
      fresh := by simp
      event := by simp [hevent]
      connected_run := by simp [hconn]
      failed := by simp }
  | connectAgain hc h0 =>
    have hidle : s.connecting ≠ .idle := fun hi => h0 (hs.idle_iff.mp hi)
    exact { hs with
      bound_eq := by simp [hs.bound_eq, h0]
      idle_iff := by simp [hidle]
      fresh := by simp }
  | connectReturns hc he ho =>
    exact { hs with
      idle_iff := hs.idle_iff_moved (by simp [hc]) (by simp)
      failed := by simp }
  | connectFails hc he ho =>
    -- the event with no open comes from a run that ended
    have hend : s.run = .ended := by simpa [ho] using hs.event he
    exact { hs with
      idle_iff := hs.idle_iff_moved (by simp [hc]) (by simp)
      failed := fun _ => ⟨ho, hend⟩ }
  | deadline hc he =>
    exact { hs with
      idle_iff := hs.idle_iff_moved (by simp [hc]) (by simp)
      failed := by simp }
  | opens hr =>
    have hrun : s.run ≠ .none ∧ s.run ≠ .ended := by simp [hr]
    exact { hs with
      fired_connected := fun _ => rfl
      fresh := fun h => absurd h (hs.connects_of_run hrun.1)
      event := fun _ => .inl rfl
      connected_event := fun _ => rfl
      connected_run := fun _ => by simp
      failed := fun hc => absurd hc (hs.not_failed hrun.2) }
  | closes hr =>
    by_cases hcon : s.connected
    · -- the session had opened: the run's `on_close` fires the notifier
      rw [if_pos hcon]
      have hrun : s.run ≠ .none := by rcases hr with hr | hr <;> simp [hr]
      have hb : s.notifier.bound = some 0 := by simp [hs.bound_eq, hs.connects_of_run hrun]
      exact hs.closed hr CloseNotifier.bound_fire (CloseNotifier.calls_fire hs.calls_eq hb)
        fun _ => hcon
    · rw [if_neg hcon]
      exact hs.closed hr rfl hs.calls_eq hs.fired_connected
  | ends hr =>
    have hrun : s.run ≠ .none := by rcases hr with hr | hr | hr <;> simp [hr]
    exact { hs with
      fresh := fun h => absurd h (hs.connects_of_run hrun)
      event := fun _ => .inr rfl
      connected_event := fun _ => rfl
      connected_run := fun _ => by simp
      failed := fun hc => ⟨(hs.failed hc).1, rfl⟩ }

theorem Reachable.sound (h : Reachable s) : s.Sound := by
  induction h with
  | start => exact start_sound
  | step _ hstep ih => exact hstep.sound ih

end SocketTransport

/-! ### The contract -/

end GraphProbe.Session
