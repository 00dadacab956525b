import Mathlib
import GraphProbe.Proofs.AwaitOutcome

/-!
# What only the client changes

The sessions deliver frames and close notices, run the applications behind them and let
time pass, but some records of a world change only by the client's own calls: the sleeps it
has left, the frames it sent, the id of the next attempt, the attempt it works on and the
session it holds (`OwnRecords`). A sleep takes one of the sleeps left and changes none of the
others (`own_slept`), so `j` sleeps from a world take `j` of them (`own_afterSleeps`); a send
that returns adds its frame and nothing else (`send_own`), and a close changes none (`close_own`).

Design. As with the frame triples of `Fed`, every computation of the sessions is given a
triple `KeepsOwn r m`, derived by `mvcgen` from those of the computations it calls; they are
local to this module, and the facts other modules use are stated as lemmas about runs. The
world after `j` sleeps is the `j`-th iterate of one sleep (`World.afterSleeps`).
-/

namespace GraphProbe.Session

open Std.Do Subscription

set_option mvcgen.warning false

/-! ### What only the client changes -/

/-- The records of a world that only the client's own calls change: the sleeps it has left,
the frames it sent, the id of the next attempt, the attempt it works on, the session it
holds, and how many attempts there are. -/
structure OwnRecords where
  sleepsLeft : Nat
  sentNow : List (Nat × String)
  nextId : Int
  current : Nat
  link : Option Nat
  attempts : Nat

/-- A world's own records. -/
def World.own (w : World) : OwnRecords :=
  ⟨w.sleepsLeft, w.sentNow, w.nextId, w.current, w.link, w.attempts.size⟩

/-- A computation that keeps the client's own records, whether it returns or raises. -/
abbrev KeepsOwn (r : OwnRecords) {α : Type} (m : Sim α) : Prop :=
  ⦃fun w => ⌜w.own = r⌝⦄ m ⦃post⟨fun _ w => ⌜w.own = r⌝, fun _ w => ⌜w.own = r⌝⟩⦄

section Own

variable (r : OwnRecords)

@[local spec high]
theorem linkAt_own (i : Nat) : KeepsOwn r (linkAt i) := by
  unfold linkAt
  mvcgen

@[local spec high]
theorem log_own (x : LogRecord) : KeepsOwn r (log x) := by
  unfold log
  mvcgen

@[local spec high]
theorem clientLog_own (text : String) (context : List (String × Value)) :
    KeepsOwn r (clientLog text context) := by
  unfold clientLog
  mvcgen

@[local spec high]
theorem updateLink_own (i : Nat) (g : Link → Link) : KeepsOwn r (updateLink i g) := by
  unfold updateLink
  mvcgen

@[local spec high]
theorem updateNet_own (i : Nat) (g : NetLink → NetLink) : KeepsOwn r (updateNet i g) := by
  unfold updateNet
  mvcgen

@[local spec high]
theorem updatePeer_own (i : Nat) (g : AppLink → AppLink) : KeepsOwn r (updatePeer i g) := by
  unfold updatePeer
  mvcgen

@[local spec high]
theorem schedule_own (delayMs : Float) (ev : Event) : KeepsOwn r (schedule delayMs ev) := by
  unfold schedule
  mvcgen

/-- Changing an attempt in place keeps how many there are. -/
@[local spec high]
theorem updateAttempt_own (j : Nat) (g : State → State) : KeepsOwn r (updateAttempt j g) := by
  unfold updateAttempt
  mvcgen
  simp_all +zetaDelta [World.own]

@[local spec high]
theorem deliverNow_own (i : Nat) (text : String) : KeepsOwn r (deliverNow i text) := by
  unfold deliverNow
  mvcgen
  all_goals simp_all +zetaDelta [World.own]

@[local spec high]
theorem closeNow_own (i : Nat) : KeepsOwn r (closeNow i) := by
  unfold closeNow
  mvcgen
  all_goals simp_all +zetaDelta [World.own]

@[local spec high]
theorem notifyClosed_own (i : Nat) : KeepsOwn r (notifyClosed i) := by
  unfold notifyClosed
  mvcgen
  all_goals simp_all

@[local spec high]
theorem Application.stopReading_own (i : Nat) : KeepsOwn r (stopReading i) := by
  unfold stopReading
  mvcgen
  all_goals simp_all

@[local spec high]
theorem Application.read_own (i : Nat) (o : Site.Outgoing) : KeepsOwn r (read i o) := by
  unfold read
  mvcgen
  all_goals simp_all

@[local spec high]
theorem Application.readAll_own (i : Nat) (os : List Site.Outgoing) : KeepsOwn r (readAll i os) := by
  induction os with
  | nil => unfold readAll; mvcgen
  | cons o os ih =>
    unfold readAll
    mvcgen [ih, -readAll_fed]
    all_goals simp_all

@[local spec high]
theorem Application.afterTurn_own (i : Nat) (out : List Site.Outgoing) : KeepsOwn r (afterTurn i out) := by
  unfold afterTurn
  mvcgen
  all_goals simp_all

@[local spec high]
theorem Application.turn_own (i : Nat) : KeepsOwn r (turn i) := by
  unfold turn
  mvcgen
  all_goals simp_all

@[local spec high]
theorem Application.runTurns_own (i fuel : Nat) : KeepsOwn r (runTurns i fuel) := by
  induction fuel with
  | zero => unfold runTurns; mvcgen
  | succ fuel ih =>
    unfold runTurns
    mvcgen [ih, -runTurns_fed]
    all_goals simp_all

@[local spec high]
theorem Application.run_own (i : Nat) : KeepsOwn r (run i) := by
  unfold run
  mvcgen
  all_goals simp_all

@[local spec high]
theorem Application.wake_own (i token : Nat) : KeepsOwn r (wake i token) := by
  unfold wake
  mvcgen
  all_goals simp_all

@[local spec high]
theorem Application.cancel_own (i : Nat) : KeepsOwn r (cancel i) := by
  unfold cancel
  mvcgen

@[local spec high]
theorem Application.close_own (i : Nat) : KeepsOwn r (close i) := by
  unfold close
  mvcgen
  all_goals simp_all
  -- the fault of an application that ended by raising is raised last
  intro w hw
  split <;> simp [hw]

@[local spec high]
theorem runEvent_own (ev : Event) : KeepsOwn r (runEvent ev) := by
  cases ev <;> (unfold runEvent; mvcgen)

@[local spec high]
theorem after_own (delayMs : Float) (ev : Event) : KeepsOwn r (after delayMs ev) := by
  unfold after
  mvcgen

/-- Running the events due keeps the client's own records and never raises: a fault of an
event is kept among the late faults. -/
@[local spec high]
theorem runDue_own (fuel : Nat) :
    ⦃fun w => ⌜w.own = r⌝⦄ runDue fuel ⦃post⟨fun _ w => ⌜w.own = r⌝, fun _ _ => ⌜False⌝⟩⦄ := by
  induction fuel with
  | zero => unfold runDue; mvcgen
  | succ fuel ih =>
    unfold runDue
    mvcgen [ih, -runDue_fed]
    all_goals simp_all +zetaDelta [World.own]

@[local spec high]
theorem runAllDue_own :
    ⦃fun w => ⌜w.own = r⌝⦄ runAllDue ⦃post⟨fun _ w => ⌜w.own = r⌝, fun _ _ => ⌜False⌝⟩⦄ := by
  unfold runAllDue
  mvcgen

/-! ### Calls on a session -/

/-- The record of the frames sent after a frame `text` was sent on session `i`. -/
abbrev OwnRecords.sending (r : OwnRecords) (i : Nat) (text : String) : OwnRecords :=
  { r with sentNow := r.sentNow ++ [(i, text)] }

@[local spec high]
theorem Scripted.reply_own (i : Nat) (x : Reply) : KeepsOwn r (Scripted.reply i x) := by
  unfold Scripted.reply
  mvcgen

@[local spec high]
theorem Scripted.send_own (i : Nat) (text : String) :
    ⦃fun w => ⌜w.own = r⌝⦄ Scripted.send i text
    ⦃post⟨fun _ w => ⌜w.own = r.sending i text⌝, fun _ _ => ⌜True⌝⟩⦄ := by
  unfold Scripted.send
  mvcgen
  -- the replies to the frame run one after another, each keeping the records
  case inv1 | inv2 =>
    exact post⟨fun _ w => ⌜w.own = r.sending i text⌝, fun _ _ => ⌜True⌝⟩
  all_goals
    cases r
    simp_all +zetaDelta [World.own]

@[local spec high]
theorem Network.send_own (i : Nat) (text : String) (reachable : Bool) :
    ⦃fun w => ⌜w.own = r⌝⦄ Network.send i text reachable
    ⦃post⟨fun _ w => ⌜w.own = r.sending i text⌝, fun _ _ => ⌜True⌝⟩⦄ := by
  cases r
  unfold Network.send
  mvcgen
  all_goals simp_all +zetaDelta [World.own]

@[local spec high]
theorem Application.send_own (i : Nat) (text : String) :
    ⦃fun w => ⌜w.own = r⌝⦄ Application.send i text
    ⦃post⟨fun _ w => ⌜w.own = r.sending i text⌝, fun _ _ => ⌜True⌝⟩⦄ := by
  cases r
  unfold Application.send
  mvcgen
  all_goals simp_all +zetaDelta [World.own]

/-- A send that returns has added its frame to those sent and changed no other record of the
client's own. -/
theorem send_own (i : Nat) (text : String) :
    ⦃fun w => ⌜w.own = r⌝⦄ send i text
    ⦃post⟨fun _ w => ⌜w.own = r.sending i text⌝, fun _ _ => ⌜True⌝⟩⦄ := by
  unfold send
  mvcgen

@[local spec high]
theorem Scripted.close_own (i : Nat) : KeepsOwn r (Scripted.close i) := by
  unfold Scripted.close
  mvcgen

@[local spec high]
theorem Network.close_own (i : Nat) : KeepsOwn r (Network.close i) := by
  unfold Network.close
  mvcgen
  all_goals simp_all +zetaDelta [World.own]

/-- A close changes no record of the client's own, whether it returns or raises. -/
theorem close_own (i : Nat) : KeepsOwn r (close i) := by
  unfold close
  mvcgen

/-! ### One sleep -/

/-- A sleep of a length that is not negative, with a sleep left, returns and takes one. -/
theorem sleep_own {p : Int} (hp : 0 ≤ p) (n : Nat) :
    ⦃fun w => ⌜w.own = { r with sleepsLeft := n + 1 }⌝⦄ sleep (.int p)
    ⦃post⟨fun _ w => ⌜w.own = { r with sleepsLeft := n }⌝, fun _ _ => ⌜False⌝⟩⦄ := by
  unfold sleep
  mvcgen
  all_goals simp_all [Num.quotientNegative, World.own]
  omega

end Own

/-- A send that returns has added its frame to those sent and changed no other record of the
client's own. -/
theorem own_sent {i : Nat} {text : String} {u u' : World}
    (h : (send i text).run.run u = (.ok (), u')) : u'.own = u.own.sending i text := by
  have hown := run_of_triple (send_own u.own i text) (rfl : u.own = u.own)
  rw [h] at hown
  exact hown

/-- A close changes no record of the client's own. -/
theorem own_closed {i : Nat} {u u' : World} {x : Except Fault Unit}
    (h : (close i).run.run u = (x, u')) : u'.own = u.own := by
  have hown := run_of_triple (close_own u.own i) (rfl : u.own = u.own)
  rw [h] at hown
  rcases x <;> exact hown

/-- The world after one sleep of `ms` milliseconds from `w`. -/
def World.slept (w : World) (ms : Num) : World := ((sleep ms).run.run w).2

/-- The world after `j` sleeps of `ms` milliseconds each from `w`. -/
def World.afterSleeps (w : World) (ms : Num) (j : Nat) : World := (World.slept · ms)^[j] w

section Sleep

variable {p : Int} {w : World}

theorem sleep_returns (hp : 0 ≤ p) {n : Nat} (hw : w.sleepsLeft = n + 1) :
    (sleep (.int p)).run.run w = (.ok (), w.slept (.int p)) ∧
      (w.slept (.int p)).own = { w.own with sleepsLeft := n } := by
  have hw' : w.own = { w.own with sleepsLeft := n + 1 } := by simp [World.own, hw]
  have h := run_of_triple (sleep_own w.own hp n) hw'
  unfold World.slept
  rcases hr : (sleep (.int p)).run.run w with ⟨_ | ⟨⟩, w'⟩
  · rw [hr] at h
    exact h.elim
  · rw [hr] at h
    exact ⟨rfl, h⟩

theorem sleep_run (hp : 0 ≤ p) (hw : 0 < w.sleepsLeft) :
    (sleep (.int p)).run.run w = (.ok (), w.slept (.int p)) :=
  (sleep_returns hp (Nat.succ_pred_eq_of_pos hw).symm).1

theorem own_slept (hp : 0 ≤ p) (hw : 0 < w.sleepsLeft) :
    (w.slept (.int p)).own = { w.own with sleepsLeft := w.sleepsLeft - 1 } :=
  (sleep_returns hp (Nat.succ_pred_eq_of_pos hw).symm).2

/-- A sleep with no sleeps left marks the run exhausted and raises. -/
theorem sleep_spent (hp : 0 ≤ p) (hw : w.sleepsLeft = 0) :
    (sleep (.int p)).run.run w = (.error budgetSpent, { w with exhausted := true }) := by
  have hq : (Num.int p).quotientNegative 1000 = false := by simpa [Num.quotientNegative] using hp
  unfold sleep
  rw [hq]
  simp only [Bool.false_eq_true, ↓reduceIte]
  rw [run_bind_ok (get_run w), hw]
  rfl

@[simp] theorem afterSleeps_zero (ms : Num) : w.afterSleeps ms 0 = w := rfl

theorem afterSleeps_succ (ms : Num) (j : Nat) :
    w.afterSleeps ms (j + 1) = (w.afterSleeps ms j).slept ms :=
  Function.iterate_succ_apply' _ j w

/-- Each of `j` sleeps takes one of the sleeps left and keeps the rest of the client's own
records. -/
theorem own_afterSleeps (hp : 0 ≤ p) {j : Nat} (hj : j ≤ w.sleepsLeft) :
    (w.afterSleeps (.int p) j).own = { w.own with sleepsLeft := w.sleepsLeft - j } := by
  induction j with
  | zero => rfl
  | succ j ih =>
    have hj' : (w.afterSleeps (.int p) j).sleepsLeft = w.sleepsLeft - j :=
      congrArg OwnRecords.sleepsLeft (ih (by omega))
    rw [afterSleeps_succ, own_slept hp (by omega), ih (by omega), hj']
    simp only [World.own]
    congr 1

theorem sleepsLeft_afterSleeps (hp : 0 ≤ p) {j : Nat} (hj : j ≤ w.sleepsLeft) :
    (w.afterSleeps (.int p) j).sleepsLeft = w.sleepsLeft - j :=
  congrArg OwnRecords.sleepsLeft (own_afterSleeps hp hj)

end Sleep

end GraphProbe.Session
