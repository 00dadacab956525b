import Mathlib
import GraphProbe.Proofs.Answers

/-!
# Runs of a subscription client

A test drives a client by its calls, and meanwhile the sessions deliver frames, tell that
they closed, and time passes. `Op` names each of these, and `Reachable` holds of every world
that some sequence of them reaches from a fresh start, whatever each one raised.

Design. An invariant of reachable worlds is proved once per operation: the calls that only
talk to the sessions, and the takes of the awaits, end in worlds related to where they began
by `Fed` or `Drained`, so an invariant that those relations keep is kept by them at once; the
calls that open a session, initialize, start or reset are verified on their own with
`mvcgen`, the frame triples of the calls they make standing for those calls. In the
conditions `mvcgen` leaves, the view a frame triple starts from is the world before the
call: `Fed.refl` fills it in.

Main results:

* `consistent_of_reachable`: in every reachable world, an attempt that was initialized has a
  session held by the client;
* `raiseNoticed_first`: a recorded failure is raised, first and with nothing changed, by
  `init`, `start`, the awaits and `remaining`;
* `failure_kept`: every operation but a reset keeps it, and a reset that returns starts a
  fresh attempt (`reset_fresh`).
-/

namespace GraphProbe.Subscription

open Std.Do Session

set_option mvcgen.warning false

/-- What a test does to a subscription client: one of the client's calls, or what the
sessions do meanwhile (hand a frame over, tell that they closed) and time passing. -/
inductive Op where
  | init (payload : Option Value)
  | start (resource : String) (vars : Option Value)
  | stop
  | reset
  | await (timeout count : Value) (stopAfter : Bool)
  | remaining
  | deliver (i : Nat) (text : String)
  | serverClose (i : Nat)
  | advance (ms : Float)

/-- Run an operation; the answers a call takes are dropped, its fault is the caller's. -/
def Op.run (c : Client) : Op → Sim Unit
  | .init p => c.init p
  | .start r vars => c.start r vars
  | .stop => c.stop
  | .reset => c.reset
  | .await t n b => do let _ ← c.awaitResponses t n b
  | .remaining => do let _ ← Client.remaining
  | .deliver i text => deliverNow i text
  | .serverClose i => closeNow i
  | .advance ms => Session.advance ms

/-- The worlds a client reaches from a fresh start by any operations, whatever they raised. -/
inductive Reachable (c : Client) : Session.World → Prop
  | start (server : Server) (firstId : Int) : Reachable c (Session.World.start server firstId)
  | step {w : Session.World} (op : Op) : Reachable c w → Reachable c ((op.run c).run.run w).2

/-- What holds of a fresh start and is kept by every operation holds of every reachable
world. -/
theorem Reachable.invariant {c : Client} {P : Session.World → Prop}
    (hstart : ∀ server firstId, P (Session.World.start server firstId))
    (hstep : ∀ (op : Op) w, P w → P ((op.run c).run.run w).2) {w : Session.World}
    (h : Reachable c w) : P w := by
  induction h with
  | start server firstId => exact hstart server firstId
  | step op _ ih => exact hstep op _ ih

end GraphProbe.Subscription

namespace GraphProbe.Session

open Std.Do Subscription

/-- A computation that keeps a property of worlds, with a result or a fault, keeps it in a run. -/
theorem run_keeps {α : Type} {m : Sim α} {P : World → Prop}
    (h : ⦃fun w => ⌜P w⌝⦄ m ⦃post⟨fun _ w => ⌜P w⌝, fun _ w => ⌜P w⌝⟩⦄) {w : World} (hw : P w) :
    P (m.run.run w).2 := by
  have := run_of_triple h hw
  generalize m.run.run w = p at this ⊢
  rcases p with ⟨_ | _, w'⟩ <;> exact this

/-- Dropping what a computation answers leaves the world of its run as it was. -/
theorem run_discard {α : Type} (m : Sim α) (w : World) :
    (((do let _ ← m) : Sim Unit).run.run w).2 = (m.run.run w).2 := by
  simp only [ExceptT.run_bind, StateT.run_bind]
  generalize m.run.run w = p
  rcases p with ⟨_ | _, w'⟩ <;> rfl

/-- A fault ends a sequence where it is raised. -/
theorem run_bind_error {α β : Type} {x : Sim α} {f : α → Sim β} {w w' : World} {e : Fault}
    (h : x.run.run w = (.error e, w')) : (x >>= f).run.run w = (.error e, w') := by
  simp only [ExceptT.run_bind, StateT.run_bind, h]
  rfl

/-- A step that returns hands its value and its world on to the rest of the sequence. -/
theorem run_bind_ok {α β : Type} {x : Sim α} {f : α → Sim β} {w w' : World} {a : α}
    (h : x.run.run w = (.ok a, w')) : (x >>= f).run.run w = (f a).run.run w' := by
  simp only [ExceptT.run_bind, StateT.run_bind, h]
  rfl

theorem current_run (w : World) : current.run.run w = (.ok w.state, w) := rfl

theorem get_run (w : World) : (get : Sim World).run.run w = (.ok w, w) := rfl

/-- A computation with a frame triple keeps every property of worlds that the sessions keep. -/
theorem keeps_of_fed {α : Type} {m : Sim α} {P : World → Prop}
    (hm : ∀ v, ⦃fun w => ⌜Fed v w⌝⦄ m ⦃post⟨fun _ w => ⌜Fed v w⌝, fun _ w => ⌜Fed v w⌝⟩⦄)
    (hP : ∀ w w', P w → Fed w.view w' → P w') (w : World) (hw : P w) : P (m.run.run w).2 :=
  hP w _ hw (Fed.run (hm w.view) w (Fed.refl w))

/-- The same for a call that takes answers: it keeps every property that the sessions and a
drain of the current attempt keep. -/
theorem keeps_of_drained {m : Sim (List Response)} {P : World → Prop}
    (hm : ∀ v, ⦃fun w => ⌜Fed v w⌝⦄ m ⦃post⟨fun rs w => ⌜Drained v rs w⌝, fun _ w => ⌜Fed v w⌝⟩⦄)
    (hfed : ∀ w w', P w → Fed w.view w' → P w')
    (hdrain : ∀ w rs w', P w → Drained w.view rs w' → P w') (w : World) (hw : P w) :
    P (m.run.run w).2 := by
  have h := run_of_triple (hm w.view) (Fed.refl w)
  generalize m.run.run w = p at h ⊢
  rcases p with ⟨_ | rs, w'⟩
  · exact hfed w w' hw h
  · exact hdrain w rs w' hw h

end GraphProbe.Session

namespace GraphProbe.Session

open Std.Do Subscription

set_option mvcgen.warning false

/-- Changing the attempt the client works on changes what `state` reads, also when the index
names no attempt: then both read the default one. -/
theorem World.state_update (w : World) (f : State → State) :
    { w with attempts := w.attempts.modify w.current f }.state =
      if w.current < w.attempts.size then f w.state else w.state := by
  by_cases h : w.current < w.attempts.size
  · simp [World.state, Array.getElem_modify, h]
  · simp [World.state, h]

/-- The client holds a session whenever the attempt it works on was initialized. -/
def World.Consistent (w : World) : Prop := w.state.initialized = true → w.link.isSome

theorem State.markStarted_eq_ok {s t : State} (h : s.markStarted = .ok t) :
    t = s.mark .started ∧ s.initialized = true := by
  unfold State.markStarted at h
  split at h
  · exact ⟨(Except.ok.inj h).symm, ‹_›⟩
  · cases h

namespace World.Consistent

variable {w w' : World}

theorem start (server : Server) (firstId : Int) : (World.start server firstId).Consistent := by
  simp [Consistent, World.start, World.state, State.fresh]

theorem of_link (h : w.link.isSome) : w.Consistent := fun _ => h

theorem of_uninitialized (h : w.state.initialized = false) : w.Consistent := by
  simp [Consistent, h]

/-- A change of the current attempt that initializes nothing keeps the invariant. -/
theorem update {f : State → State} (h : w.Consistent)
    (hf : (f w.state).initialized = true → w.state.initialized = true) :
    { w with attempts := w.attempts.modify w.current f }.Consistent := by
  intro hi
  rw [World.state_update] at hi
  split at hi
  · exact h (hf hi)
  · exact h hi

theorem of_fed (h : w.Consistent) (hf : Fed w.view w') : w'.Consistent := by
  intro hi
  rw [hf.link]
  exact h ((hf.state.same.1).symm.trans hi)

theorem of_drained {rs : List Response} (h : w.Consistent) (hd : Drained w.view rs w') :
    w'.Consistent := by
  obtain ⟨u, k, hu, -, hl, hk⟩ := hd
  have hs : w'.state = (u.state.drain k).2 := (congrArg Prod.snd hk).symm
  intro hi
  rw [hl]
  exact of_fed h hu (by simpa [hs, State.drain] using hi)

end World.Consistent

/-- The sessions keep the invariant. -/
theorem Fed.consistent {w w' : World} (hf : Fed w.view w') (h : w.Consistent) : w'.Consistent :=
  h.of_fed hf

end GraphProbe.Session

namespace GraphProbe.Subscription.Client

open Std.Do Session

set_option mvcgen.warning false

theorem init_consistent (c : Client) (p : Option Value) :
    ⦃fun w => ⌜w.Consistent⌝⦄ c.init p ⦃post⟨fun _ w => ⌜w.Consistent⌝, fun _ w => ⌜w.Consistent⌝⟩⦄ := by
  mvcgen [init, openSession, onSession, updateCurrent, updateAttempt]
  all_goals try exact Fed.refl _
  -- before the session is opened the sessions keep the invariant; once it is opened, the
  -- client holds it
  all_goals
    intros
    try casesm* _ ∧ _
    subst_vars
    first
      | assumption
      | exact Fed.consistent (by assumption) (by assumption)
      | exact Fed.consistent (by assumption)
          (World.Consistent.of_link (by simp_all +zetaDelta [fed_iff, World.view]))

theorem start_consistent (c : Client) (resource : String) (vars : Option Value) :
    ⦃fun w => ⌜w.Consistent⌝⦄ c.start resource vars
    ⦃post⟨fun _ w => ⌜w.Consistent⌝, fun _ w => ⌜w.Consistent⌝⟩⦄ := by
  mvcgen [start, init_consistent, updateCurrent, updateAttempt]
  all_goals try exact Fed.refl _
  -- marking the attempt started initializes nothing
  all_goals
    intros
    try casesm* _ ∧ _
    subst_vars
    first
      | assumption
      | exact Fed.consistent (by assumption) (by assumption)
      | exact Fed.consistent (by assumption)
          (World.Consistent.update (Fed.consistent (by assumption) (by assumption))
            (by simp [State.markStarted_eq_ok ‹_›]))

/-- A reset that gets as far as replacing the attempt leaves a fresh one, not initialized. -/
theorem reset_consistent (c : Client) :
    ⦃fun w => ⌜w.Consistent⌝⦄ c.reset ⦃post⟨fun _ w => ⌜w.Consistent⌝, fun _ w => ⌜w.Consistent⌝⟩⦄ := by
  mvcgen [reset, onSession]
  all_goals try exact Fed.refl _
  all_goals
    intros
    try casesm* _ ∧ _
    subst_vars
    first
      | assumption
      | exact Fed.consistent (by assumption) (by assumption)
      | exact Fed.consistent (by assumption)
          (World.Consistent.of_uninitialized (by simp +zetaDelta [World.state, State.fresh]))

end GraphProbe.Subscription.Client

namespace GraphProbe.Subscription

open Std.Do Session

set_option mvcgen.warning false

/-- Every operation keeps the invariant. -/
theorem Op.run_consistent (c : Client) (op : Op) {w : Session.World} (hw : w.Consistent) :
    ((op.run c).run.run w).2.Consistent := by
  cases op with
  | init p => exact run_keeps (c.init_consistent p) hw
  | start r vars => exact run_keeps (c.start_consistent r vars) hw
  | stop => exact keeps_of_fed c.stop_fed (fun _ _ h hf => hf.consistent h) w hw
  | reset => exact run_keeps c.reset_consistent hw
  | await t n b =>
    rw [Op.run, run_discard]
    exact keeps_of_drained (c.awaitResponses_drained t n b) (fun _ _ h hf => hf.consistent h)
      (fun _ _ _ h hd => h.of_drained hd) w hw
  | remaining =>
    rw [Op.run, run_discard]
    exact keeps_of_drained Client.remaining_drained (fun _ _ h hf => hf.consistent h)
      (fun _ _ _ h hd => h.of_drained hd) w hw
  | deliver i text => exact keeps_of_fed (deliverNow_fed i text) (fun _ _ h hf => hf.consistent h) w hw
  | serverClose i => exact keeps_of_fed (closeNow_fed i) (fun _ _ h hf => hf.consistent h) w hw
  | advance ms => exact keeps_of_fed (advance_fed ms) (fun _ _ h hf => hf.consistent h) w hw

/-- In every world a client reaches, an attempt that was initialized has its session held. -/
theorem consistent_of_reachable {c : Client} {w : Session.World} (h : Reachable c w) :
    w.Consistent :=
  h.invariant World.Consistent.start fun op _ hw => op.run_consistent c hw

namespace Client

variable {w : Session.World} {f : Fault}

/-- A recorded failure is raised at once, and nothing changes. -/
theorem raiseNoticed_run (hf : w.state.failure = some f) :
    raiseNoticed.run.run w = (.error f, w) := by
  have h := run_of_triple (raiseNoticed_spec w) rfl
  generalize raiseNoticed.run.run w = p at h ⊢
  rcases p with ⟨e | _, w'⟩
  · obtain ⟨rfl, he⟩ := h
    rw [hf, Option.some.injEq] at he
    rw [he]
  · obtain ⟨-, hn⟩ := h
    rw [hf] at hn
    cases hn

/-- With no failure recorded, nothing happens. -/
theorem raiseNoticed_run_none (hf : w.state.failure = none) :
    raiseNoticed.run.run w = (.ok (), w) := by
  have h := run_of_triple (raiseNoticed_spec w) rfl
  generalize raiseNoticed.run.run w = p at h ⊢
  rcases p with ⟨e | _, w'⟩
  · obtain ⟨-, he⟩ := h
    rw [hf] at he
    cases he
  · obtain ⟨rfl, -⟩ := h
    rfl

theorem init_raises (c : Client) (p : Option Value) (hf : w.state.failure = some f) :
    (c.init p).run.run w = (.error f, w) := by
  rw [init]
  exact run_bind_error (raiseNoticed_run hf)

theorem start_raises (c : Client) (resource : String) (vars : Option Value)
    (hf : w.state.failure = some f) : (c.start resource vars).run.run w = (.error f, w) := by
  rw [start]
  exact run_bind_error (raiseNoticed_run hf)

theorem awaitResponses_raises (c : Client) (timeout count : Value) (stopAfter : Bool)
    (hf : w.state.failure = some f) :
    (c.awaitResponses timeout count stopAfter).run.run w = (.error f, w) := by
  rw [awaitResponses]
  exact run_bind_error (raiseNoticed_run hf)

theorem remaining_raises (hf : w.state.failure = some f) :
    remaining.run.run w = (.error f, w) := by
  rw [remaining]
  exact run_bind_error (raiseNoticed_run hf)

/-- A reset that returns has begun a fresh attempt. -/
theorem reset_fresh (c : Client) :
    ⦃⌜True⌝⦄ c.reset
    ⦃post⟨fun _ w => ⌜∃ id, w.state = State.fresh id⌝, fun _ _ => ⌜True⌝⟩⦄ := by
  mvcgen [reset, onSession, clientLog, log]
  all_goals try exact Fed.refl _
  -- the world ends with the attempt pushed last as the current one
  all_goals
    refine ⟨?_, ?_⟩
    rotate_left
    simp +zetaDelta only [World.state, Array.getElem?_push_size, Option.getD_some]
    rfl

end Client

/-- Every operation but a reset keeps a recorded failure: the calls that check for it raise it
and change nothing, the others only let the sessions act. -/
theorem Op.failure_kept (c : Client) (op : Op) (hop : op ≠ .reset) {w : Session.World}
    {f : Fault} (hf : w.state.failure = some f) :
    ((op.run c).run.run w).2.state.failure = some f := by
  have fed : ∀ {α : Type} {m : Sim α},
      (∀ v, ⦃fun w => ⌜Fed v w⌝⦄ m ⦃post⟨fun _ w => ⌜Fed v w⌝, fun _ w => ⌜Fed v w⌝⟩⦄) →
      (m.run.run w).2.state.failure = some f :=
    fun hm => (Fed.run (hm w.view) w (Fed.refl w)).state.failure hf
  cases op with
  | init p => rw [Op.run, Client.init_raises c p hf]; exact hf
  | start r vars => rw [Op.run, Client.start_raises c r vars hf]; exact hf
  | stop => exact fed c.stop_fed
  | reset => exact absurd rfl hop
  | await t n b => rw [Op.run, run_discard, Client.awaitResponses_raises c t n b hf]; exact hf
  | remaining => rw [Op.run, run_discard, Client.remaining_raises hf]; exact hf
  | deliver i text => exact fed (deliverNow_fed i text)
  | serverClose i => exact fed (closeNow_fed i)
  | advance ms => exact fed (advance_fed ms)

end GraphProbe.Subscription
