import Mathlib
import GraphProbe.Subscription.Client
import GraphProbe.Proofs.Attempt

/-!
# What the sessions do to a world

The sessions of a world pass frames and close notices to the attempts they serve, run the
applications behind them, and keep their own records. None of that changes which attempt the
client works on or which session it holds, and an attempt changes only by the calls a session
makes on it (`State.Heard`). `Fed w w'` says exactly this of two worlds.

Design. Every computation of the session layer, and every part of the client that only
talks to its session, is given a triple `⦃Fed v⦄ m ⦃Fed v⦄`: from a world the sessions made
of one the client held as `v`, a run ends, with a result or a fault, in such a world again.
The view `v` is a type of its own, so that `mvcgen` keeps it fixed through a computation and
never chains one run's view to the next. The triples
are tagged `spec`, so the one of a computation is derived by `mvcgen` from those of the
computations it calls; what is left are facts about the world records, closed by `grind` from
the laws of `Fed`. `run_of_triple` reads a triple back as a fact about one run.
-/

namespace GraphProbe.Session

open Std.Do Subscription

set_option mvcgen.warning false

/-- The attempt at a place; the default one past the end. -/
def World.attempt (w : World) (i : Nat) : State := w.attempts[i]?.getD default

@[grind =] theorem World.attempt_eq (w : World) (i : Nat) :
    w.attempt i = w.attempts[i]?.getD default := rfl

theorem World.state_eq_attempt (w : World) : w.state = w.attempt w.current := rfl

/-- What the client holds of a world: the attempts, the one it works on, and its session. -/
structure ClientView where
  attempts : Array State
  current : Nat
  link : Option Nat

/-- The attempt of a view at a place. -/
def ClientView.attempt (v : ClientView) (i : Nat) : State := v.attempts[i]?.getD default

@[grind =] theorem ClientView.attempt_eq (v : ClientView) (i : Nat) :
    v.attempt i = v.attempts[i]?.getD default := rfl

/-- The client's view of a world. -/
def World.view (w : World) : ClientView := ⟨w.attempts, w.current, w.link⟩

@[simp] theorem World.view_attempt (w : World) (i : Nat) : w.view.attempt i = w.attempt i := rfl

/-- What the sessions may make of a world the client holds as `v`: they hand frames and close
notices to the attempts they serve and change their own records, but neither the attempt
the client works on nor the session it holds. -/
def Fed (v : ClientView) (w : World) : Prop :=
  w.current = v.current ∧ w.link = v.link ∧ ∀ i, (v.attempt i).Heard (w.attempt i)

@[grind =] theorem fed_iff {v : ClientView} {w : World} :
    Fed v w ↔ w.current = v.current ∧ w.link = v.link ∧
      ∀ i, (v.attempt i).Heard (w.attempt i) := Iff.rfl

/-- Read a triple back as a fact about one run: its result, or its fault, and the world it
ends in meet the postcondition. -/
theorem run_of_triple {α : Type} {m : Sim α} {P : World → Prop} {Q : α → World → Prop}
    {E : Fault → World → Prop}
    (h : ⦃fun w => ⌜P w⌝⦄ m ⦃post⟨fun a w => ⌜Q a w⌝, fun e w => ⌜E e w⌝⟩⦄)
    {w : World} (hw : P w) :
    match m.run.run w with
    | (.ok a, w') => Q a w'
    | (.error e, w') => E e w' := by
  have := h w hw
  simp [wp] at this
  generalize m.run.run w = p at this ⊢
  rcases p with ⟨_ | _, w'⟩ <;> exact this

namespace Fed

variable {w w' w'' : World}

theorem refl (w : World) : Fed w.view w := ⟨rfl, rfl, fun _ => .refl _⟩

theorem trans (h₁ : Fed w.view w') (h₂ : Fed w'.view w'') : Fed w.view w'' :=
  ⟨h₂.1.trans h₁.1, h₂.2.1.trans h₁.2.1, fun i => (h₁.2.2 i).trans (h₂.2.2 i)⟩

theorem current (h : Fed w.view w') : w'.current = w.current := h.1

theorem link (h : Fed w.view w') : w'.link = w.link := h.2.1

theorem state (h : Fed w.view w') : w.state.Heard w'.state := by
  rw [World.state_eq_attempt, World.state_eq_attempt, h.current]
  exact h.2.2 _

/-- A run from a world the sessions made of `v` ends in one again. -/
theorem run {α : Type} {m : Sim α} {v : ClientView}
    (h : ⦃fun w => ⌜Fed v w⌝⦄ m ⦃post⟨fun _ w => ⌜Fed v w⌝, fun _ w => ⌜Fed v w⌝⟩⦄)
    (w : World) (hw : Fed v w) : Fed v (m.run.run w).2 := by
  have := run_of_triple h hw
  generalize m.run.run w = p at this ⊢
  rcases p with ⟨_ | _, w'⟩ <;> exact this

end Fed

attribute [grind →] State.Heard.trans State.Heard.dispatch
attribute [grind .] State.Heard.refl State.Heard.closed

/-! ### The world's records -/

@[spec] theorem linkAt_fed (i : Nat) (v : ClientView) :
    ⦃fun w => ⌜Fed v w⌝⦄ linkAt i ⦃post⟨fun _ w => ⌜Fed v w⌝, fun _ w => ⌜Fed v w⌝⟩⦄ := by
  mvcgen [linkAt]

@[spec] theorem log_fed (r : LogRecord) (v : ClientView) :
    ⦃fun w => ⌜Fed v w⌝⦄ log r ⦃post⟨fun _ w => ⌜Fed v w⌝, fun _ w => ⌜Fed v w⌝⟩⦄ := by
  mvcgen [log]

@[spec] theorem clientLog_fed (text : String) (context : List (String × Value)) (v : ClientView) :
    ⦃fun w => ⌜Fed v w⌝⦄ clientLog text context
    ⦃post⟨fun _ w => ⌜Fed v w⌝, fun _ w => ⌜Fed v w⌝⟩⦄ := by
  mvcgen [clientLog]

@[spec] theorem updateLink_fed (i : Nat) (f : Link → Link) (v : ClientView) :
    ⦃fun w => ⌜Fed v w⌝⦄ updateLink i f ⦃post⟨fun _ w => ⌜Fed v w⌝, fun _ w => ⌜Fed v w⌝⟩⦄ := by
  mvcgen [updateLink]

@[spec] theorem updateNet_fed (i : Nat) (f : NetLink → NetLink) (v : ClientView) :
    ⦃fun w => ⌜Fed v w⌝⦄ updateNet i f ⦃post⟨fun _ w => ⌜Fed v w⌝, fun _ w => ⌜Fed v w⌝⟩⦄ := by
  mvcgen [updateNet]

@[spec] theorem updatePeer_fed (i : Nat) (f : AppLink → AppLink) (v : ClientView) :
    ⦃fun w => ⌜Fed v w⌝⦄ updatePeer i f ⦃post⟨fun _ w => ⌜Fed v w⌝, fun _ w => ⌜Fed v w⌝⟩⦄ := by
  mvcgen [updatePeer]

@[spec] theorem schedule_fed (delayMs : Float) (ev : Event) (v : ClientView) :
    ⦃fun w => ⌜Fed v w⌝⦄ schedule delayMs ev
    ⦃post⟨fun _ w => ⌜Fed v w⌝, fun _ w => ⌜Fed v w⌝⟩⦄ := by
  mvcgen [schedule]

/-! ### Delivery -/

/-- An attempt may be changed by a call of its session. -/
@[spec] theorem updateAttempt_fed (j : Nat) (f : State → State) (v : ClientView) :
    ⦃fun w => ⌜Fed v w ∧ (w.attempt j).Heard (f (w.attempt j))⌝⦄ updateAttempt j f
    ⦃post⟨fun _ w => ⌜Fed v w⌝, fun _ w => ⌜Fed v w⌝⟩⦄ := by
  mvcgen [updateAttempt]
  rename_i w hw _
  obtain ⟨⟨hc, hl, ha⟩, hf⟩ := hw
  refine ⟨hc, hl, fun i => ?_⟩
  show (v.attempt i).Heard ((w.attempts.modify j f)[i]?.getD default)
  rw [Array.getElem?_modify]
  split
  · -- the changed attempt; past the end nothing changes
    subst j
    cases hx : w.attempts[i]? with
    | none => simpa [World.attempt, hx] using ha i
    | some x =>
      have hx' : w.attempt i = x := by simp [World.attempt, hx]
      have := (ha i).trans hf
      rw [hx'] at this
      simpa using this
  · exact ha i

@[spec] theorem deliverNow_fed (i : Nat) (text : String) (v : ClientView) :
    ⦃fun w => ⌜Fed v w⌝⦄ deliverNow i text
    ⦃post⟨fun _ w => ⌜Fed v w⌝, fun _ w => ⌜Fed v w⌝⟩⦄ := by
  mvcgen [deliverNow]
  grind

@[spec] theorem closeNow_fed (i : Nat) (v : ClientView) :
    ⦃fun w => ⌜Fed v w⌝⦄ closeNow i ⦃post⟨fun _ w => ⌜Fed v w⌝, fun _ w => ⌜Fed v w⌝⟩⦄ := by
  mvcgen [closeNow]
  grind

@[spec] theorem notifyClosed_fed (i : Nat) (v : ClientView) :
    ⦃fun w => ⌜Fed v w⌝⦄ notifyClosed i
    ⦃post⟨fun _ w => ⌜Fed v w⌝, fun _ w => ⌜Fed v w⌝⟩⦄ := by
  mvcgen [notifyClosed]

/-! ### Sessions to applications -/

namespace Application

@[spec] theorem stopReading_fed (i : Nat) (v : ClientView) :
    ⦃fun w => ⌜Fed v w⌝⦄ stopReading i ⦃post⟨fun _ w => ⌜Fed v w⌝, fun _ w => ⌜Fed v w⌝⟩⦄ := by
  mvcgen [stopReading]

@[spec] theorem read_fed (i : Nat) (o : Site.Outgoing) (v : ClientView) :
    ⦃fun w => ⌜Fed v w⌝⦄ read i o ⦃post⟨fun _ w => ⌜Fed v w⌝, fun _ w => ⌜Fed v w⌝⟩⦄ := by
  mvcgen [read]

@[spec] theorem readAll_fed (i : Nat) (os : List Site.Outgoing) (v : ClientView) :
    ⦃fun w => ⌜Fed v w⌝⦄ readAll i os ⦃post⟨fun _ w => ⌜Fed v w⌝, fun _ w => ⌜Fed v w⌝⟩⦄ := by
  induction os with
  | nil => mvcgen [readAll]
  | cons o os ih => mvcgen [readAll, ih]

@[spec] theorem afterTurn_fed (i : Nat) (out : List Site.Outgoing) (v : ClientView) :
    ⦃fun w => ⌜Fed v w⌝⦄ afterTurn i out ⦃post⟨fun _ w => ⌜Fed v w⌝, fun _ w => ⌜Fed v w⌝⟩⦄ := by
  mvcgen [afterTurn]

@[spec] theorem turn_fed (i : Nat) (v : ClientView) :
    ⦃fun w => ⌜Fed v w⌝⦄ turn i ⦃post⟨fun _ w => ⌜Fed v w⌝, fun _ w => ⌜Fed v w⌝⟩⦄ := by
  mvcgen [turn]

@[spec] theorem runTurns_fed (i fuel : Nat) (v : ClientView) :
    ⦃fun w => ⌜Fed v w⌝⦄ runTurns i fuel ⦃post⟨fun _ w => ⌜Fed v w⌝, fun _ w => ⌜Fed v w⌝⟩⦄ := by
  induction fuel with
  | zero => mvcgen [runTurns]
  | succ fuel ih => mvcgen [runTurns, ih]

@[spec] theorem run_fed (i : Nat) (v : ClientView) :
    ⦃fun w => ⌜Fed v w⌝⦄ run i ⦃post⟨fun _ w => ⌜Fed v w⌝, fun _ w => ⌜Fed v w⌝⟩⦄ := by
  mvcgen [run]

@[spec] theorem wake_fed (i token : Nat) (v : ClientView) :
    ⦃fun w => ⌜Fed v w⌝⦄ wake i token ⦃post⟨fun _ w => ⌜Fed v w⌝, fun _ w => ⌜Fed v w⌝⟩⦄ := by
  mvcgen [wake]

@[spec] theorem failConnect_fed {α : Type} (i : Nat) (f : Fault) (v : ClientView) :
    ⦃fun w => ⌜Fed v w⌝⦄ (failConnect i f : Sim α)
    ⦃post⟨fun _ w => ⌜Fed v w⌝, fun _ w => ⌜Fed v w⌝⟩⦄ := by
  mvcgen [failConnect]

@[spec] theorem orFailConnect_fed {α : Type} (i : Nat) (uri : String) (r : Except Fault α)
    (v : ClientView) :
    ⦃fun w => ⌜Fed v w⌝⦄ orFailConnect i uri r
    ⦃post⟨fun _ w => ⌜Fed v w⌝, fun _ w => ⌜Fed v w⌝⟩⦄ := by
  mvcgen [orFailConnect]

@[spec] theorem accept_fed (i : Nat) (l : Link) (a : Site.AppInstance) (out : List Site.Outgoing)
    (v : ClientView) :
    ⦃fun w => ⌜Fed v w⌝⦄ accept i l a out ⦃post⟨fun _ w => ⌜Fed v w⌝, fun _ w => ⌜Fed v w⌝⟩⦄ := by
  mvcgen [accept]

@[spec] theorem connect_fed (i : Nat) (v : ClientView) :
    ⦃fun w => ⌜Fed v w⌝⦄ connect i ⦃post⟨fun _ w => ⌜Fed v w⌝, fun _ w => ⌜Fed v w⌝⟩⦄ := by
  mvcgen [connect]

@[spec] theorem send_fed (i : Nat) (text : String) (v : ClientView) :
    ⦃fun w => ⌜Fed v w⌝⦄ send i text ⦃post⟨fun _ w => ⌜Fed v w⌝, fun _ w => ⌜Fed v w⌝⟩⦄ := by
  mvcgen [send]

@[spec] theorem cancel_fed (i : Nat) (v : ClientView) :
    ⦃fun w => ⌜Fed v w⌝⦄ cancel i ⦃post⟨fun _ w => ⌜Fed v w⌝, fun _ w => ⌜Fed v w⌝⟩⦄ := by
  mvcgen [cancel]

@[spec] theorem close_fed (i : Nat) (v : ClientView) :
    ⦃fun w => ⌜Fed v w⌝⦄ close i ⦃post⟨fun _ w => ⌜Fed v w⌝, fun _ w => ⌜Fed v w⌝⟩⦄ := by
  mvcgen [close]
  -- the fault of an application that ended by raising is raised last
  intro w hw
  split <;> simp [hw]

end Application

/-! ### Events and the passing of time -/

@[spec] theorem runEvent_fed (ev : Event) (v : ClientView) :
    ⦃fun w => ⌜Fed v w⌝⦄ runEvent ev ⦃post⟨fun _ w => ⌜Fed v w⌝, fun _ w => ⌜Fed v w⌝⟩⦄ := by
  cases ev <;> mvcgen [runEvent]

@[spec] theorem after_fed (delayMs : Float) (ev : Event) (v : ClientView) :
    ⦃fun w => ⌜Fed v w⌝⦄ after delayMs ev ⦃post⟨fun _ w => ⌜Fed v w⌝, fun _ w => ⌜Fed v w⌝⟩⦄ := by
  mvcgen [after]

@[spec] theorem runDue_fed (fuel : Nat) (v : ClientView) :
    ⦃fun w => ⌜Fed v w⌝⦄ runDue fuel ⦃post⟨fun _ w => ⌜Fed v w⌝, fun _ w => ⌜Fed v w⌝⟩⦄ := by
  induction fuel with
  | zero => mvcgen [runDue]
  | succ fuel ih => mvcgen [runDue, ih]

@[spec] theorem runAllDue_fed (v : ClientView) :
    ⦃fun w => ⌜Fed v w⌝⦄ runAllDue ⦃post⟨fun _ w => ⌜Fed v w⌝, fun _ w => ⌜Fed v w⌝⟩⦄ := by
  mvcgen [runAllDue]

@[spec] theorem sleep_fed (ms : Num) (v : ClientView) :
    ⦃fun w => ⌜Fed v w⌝⦄ sleep ms ⦃post⟨fun _ w => ⌜Fed v w⌝, fun _ w => ⌜Fed v w⌝⟩⦄ := by
  mvcgen [sleep]

@[spec] theorem advance_fed (ms : Float) (v : ClientView) :
    ⦃fun w => ⌜Fed v w⌝⦄ advance ms ⦃post⟨fun _ w => ⌜Fed v w⌝, fun _ w => ⌜Fed v w⌝⟩⦄ := by
  mvcgen [advance]

/-! ### Scripted sessions and sessions over the network -/

namespace Scripted

@[spec] theorem connect_fed (i : Nat) (v : ClientView) :
    ⦃fun w => ⌜Fed v w⌝⦄ connect i ⦃post⟨fun _ w => ⌜Fed v w⌝, fun _ w => ⌜Fed v w⌝⟩⦄ := by
  mvcgen [connect]

@[spec] theorem reply_fed (i : Nat) (r : Reply) (v : ClientView) :
    ⦃fun w => ⌜Fed v w⌝⦄ reply i r ⦃post⟨fun _ w => ⌜Fed v w⌝, fun _ w => ⌜Fed v w⌝⟩⦄ := by
  mvcgen [reply]

@[spec] theorem send_fed (i : Nat) (text : String) (v : ClientView) :
    ⦃fun w => ⌜Fed v w⌝⦄ send i text ⦃post⟨fun _ w => ⌜Fed v w⌝, fun _ w => ⌜Fed v w⌝⟩⦄ := by
  mvcgen [send]
  -- the replies to the message run one after another, each keeping what the sessions keep
  case inv1 | inv2 => exact post⟨fun _ w => ⌜Fed v w⌝, fun _ w => ⌜Fed v w⌝⟩
  all_goals grind

@[spec] theorem close_fed (i : Nat) (v : ClientView) :
    ⦃fun w => ⌜Fed v w⌝⦄ close i ⦃post⟨fun _ w => ⌜Fed v w⌝, fun _ w => ⌜Fed v w⌝⟩⦄ := by
  mvcgen [close]

end Scripted

namespace Network

@[spec] theorem connect_fed (i : Nat) (endpoint : Option Endpoint) (timeout : Value) (v : ClientView) :
    ⦃fun w => ⌜Fed v w⌝⦄ connect i endpoint timeout
    ⦃post⟨fun _ w => ⌜Fed v w⌝, fun _ w => ⌜Fed v w⌝⟩⦄ := by
  mvcgen [connect]

@[spec] theorem send_fed (i : Nat) (text : String) (reachable : Bool) (v : ClientView) :
    ⦃fun w => ⌜Fed v w⌝⦄ send i text reachable
    ⦃post⟨fun _ w => ⌜Fed v w⌝, fun _ w => ⌜Fed v w⌝⟩⦄ := by
  mvcgen [send]

@[spec] theorem close_fed (i : Nat) (v : ClientView) :
    ⦃fun w => ⌜Fed v w⌝⦄ close i ⦃post⟨fun _ w => ⌜Fed v w⌝, fun _ w => ⌜Fed v w⌝⟩⦄ := by
  mvcgen [close]

end Network

/-! ### Calls on a session -/

@[spec] theorem newLink_fed (uri : String) (subprotocols : List String) (recorder : Bool)
    (v : ClientView) :
    ⦃fun w => ⌜Fed v w⌝⦄ newLink uri subprotocols recorder
    ⦃post⟨fun _ w => ⌜Fed v w⌝, fun _ w => ⌜Fed v w⌝⟩⦄ := by
  mvcgen [newLink]

@[spec] theorem connectLink_fed (i : Nat) (v : ClientView) :
    ⦃fun w => ⌜Fed v w⌝⦄ connectLink i ⦃post⟨fun _ w => ⌜Fed v w⌝, fun _ w => ⌜Fed v w⌝⟩⦄ := by
  mvcgen [connectLink]

@[spec] theorem connect_fed (uri : String) (subprotocols : List String) (v : ClientView) :
    ⦃fun w => ⌜Fed v w⌝⦄ connect uri subprotocols
    ⦃post⟨fun _ w => ⌜Fed v w⌝, fun _ w => ⌜Fed v w⌝⟩⦄ := by
  mvcgen [connect]

@[spec] theorem send_fed (i : Nat) (text : String) (v : ClientView) :
    ⦃fun w => ⌜Fed v w⌝⦄ send i text ⦃post⟨fun _ w => ⌜Fed v w⌝, fun _ w => ⌜Fed v w⌝⟩⦄ := by
  mvcgen [send]

@[spec] theorem close_fed (i : Nat) (v : ClientView) :
    ⦃fun w => ⌜Fed v w⌝⦄ close i ⦃post⟨fun _ w => ⌜Fed v w⌝, fun _ w => ⌜Fed v w⌝⟩⦄ := by
  mvcgen [close]

/-! ### The client's calls that only talk to its session -/

/-- Reading the attempt the client works on changes nothing. -/
@[spec] theorem current_spec (Q : PostCond State (.except Fault (.arg World .pure))) :
    ⦃fun w => Q.1 w.state w⦄ current ⦃Q⦄ := by
  mvcgen [current]

@[spec] theorem loaderLoad_fed (l : Loader) (name : String) (v : ClientView) :
    ⦃fun w => ⌜Fed v w⌝⦄ l.load name ⦃post⟨fun _ w => ⌜Fed v w⌝, fun _ w => ⌜Fed v w⌝⟩⦄ := by
  mvcgen [Loader.load]

end GraphProbe.Session

namespace GraphProbe.Subscription.Client

open Std.Do Session

set_option mvcgen.warning false


/-- A failure noticed while frames were handled is raised; otherwise nothing happens. -/
@[spec] theorem raiseNoticed_spec (u : World) :
    ⦃fun w => ⌜w = u⌝⦄ raiseNoticed
    ⦃post⟨fun _ w => ⌜w = u ∧ u.state.failure = none⌝,
      fun f w => ⌜w = u ∧ u.state.failure = some f⌝⟩⦄ := by
  mvcgen [raiseNoticed]
  all_goals simp_all

@[spec] theorem failWith_spec {α : Type} (message : String)
    (Q : PostCond α (.except Fault (.arg World .pure))) :
    ⦃fun w => Q.2.1 (Fault.fail message) w⦄ (failWith message : Sim α) ⦃Q⦄ := by
  mvcgen [failWith]

@[spec] theorem lift_spec {α : Type} (r : Except Fault α) (u : World) :
    ⦃fun w => ⌜w = u⌝⦄ lift r
    ⦃post⟨fun a w => ⌜w = u ∧ r = .ok a⌝, fun f w => ⌜w = u ∧ r = .error f⌝⟩⦄ := by
  cases r <;> mvcgen [lift]

@[spec] theorem sendMessage_fed (message : Value) (v : ClientView) :
    ⦃fun w => ⌜Fed v w⌝⦄ sendMessage message ⦃post⟨fun _ w => ⌜Fed v w⌝, fun _ w => ⌜Fed v w⌝⟩⦄ := by
  mvcgen [sendMessage, onSession]

@[spec] theorem pollOnce_fed (c : Client) (elapsed : Value) (v : ClientView) :
    ⦃fun w => ⌜Fed v w⌝⦄ c.pollOnce elapsed ⦃post⟨fun _ w => ⌜Fed v w⌝, fun _ w => ⌜Fed v w⌝⟩⦄ := by
  mvcgen [pollOnce]
  all_goals grind

@[spec] theorem awaitCondition_loop_fed (c : Client) (cond : State → Bool) (surface : Bool)
    (fuel : Nat) (elapsed : Value) (v : ClientView) :
    ⦃fun w => ⌜Fed v w⌝⦄ awaitCondition.loop c cond surface fuel elapsed
    ⦃post⟨fun _ w => ⌜Fed v w⌝, fun _ w => ⌜Fed v w⌝⟩⦄ := by
  induction fuel generalizing elapsed with
  | zero => mvcgen [awaitCondition.loop]
  | succ fuel ih =>
    mvcgen [awaitCondition.loop, ih]
    all_goals grind

@[spec] theorem awaitCondition_fed (c : Client) (cond : State → Bool) (what : String)
    (surface : Bool) (v : ClientView) :
    ⦃fun w => ⌜Fed v w⌝⦄ c.awaitCondition cond what surface
    ⦃post⟨fun _ w => ⌜Fed v w⌝, fun _ w => ⌜Fed v w⌝⟩⦄ := by
  mvcgen [awaitCondition]
  all_goals grind

/-- Stopping only talks to the session: it sends the stop message, closes the session and
waits for the close notice. -/
@[spec] theorem stop_fed (c : Client) (v : ClientView) :
    ⦃fun w => ⌜Fed v w⌝⦄ c.stop ⦃post⟨fun _ w => ⌜Fed v w⌝, fun _ w => ⌜Fed v w⌝⟩⦄ := by
  mvcgen [stop, onSession]

end GraphProbe.Subscription.Client
