import Mathlib
import GraphProbe.Proofs.ClientRuns

/-!
# What a recorded failure does not block

A failure noticed while a frame was handled is kept on its attempt and raised by the client's
next operation, but stop and reset do not raise it: they run as they would without it. Here
"as they would" is exact. Recording a failure on attempt `i` is a map of worlds,
`World.withFailure`; a computation is *blind* to it when its run from the world with the
failure recorded is its run from the world itself, with the failure recorded at the end.
Every computation of the sessions is blind: a frame handled on an attempt with a failure
keeps that failure and otherwise does what it does on the attempt without it.

Design. `Agree i f m₁ m₂` relates two computations this way, from every world that has an
attempt `i` (resets add attempts, and a failure recorded past the last attempt would land on
the next one). Its laws follow the monad's operations (`bind`, `tryCatch`, reading and
writing the world), so each function's lemma follows its definition, and the recursive ones
go by induction on their fuel or list. The main statements are `stop_blind` and
`reset_blind`; `failure_sticky` puts them together with what the other operations do with a
recorded failure: the checking calls raise it first, and every operation but a reset keeps it.
-/

namespace GraphProbe.Subscription.State

/-- The attempt with a failure recorded over whatever it kept. -/
def withFailure (s : State) (f : Fault) : State := { s with failure := some f }

variable (s : State) (f : Fault)

@[simp] theorem id_withFailure : (s.withFailure f).id = s.id := rfl

@[simp] theorem mark_withFailure (g : Flag) :
    (s.withFailure f).mark g = (s.mark g).withFailure f := by
  cases g <;> rfl

@[simp] theorem recordFailure_withFailure (e : Fault) :
    (s.withFailure f).recordFailure e = (s.recordFailure e).withFailure f := by
  unfold recordFailure
  cases s.failure <;> rfl

theorem append_withFailure (r : Response) :
    (s.withFailure f).append r = ((s.append r).1, (s.append r).2.withFailure f) := by
  have he : (s.withFailure f).ended = s.ended := rfl
  unfold append
  rw [he]
  split <;> rfl

/-- A frame does on an attempt with a failure what it does on the attempt without it, and
the failure stays. -/
theorem receive_withFailure (text : String) :
    (s.withFailure f).receive text =
      ((s.receive text).1, (s.receive text).2.map (·.withFailure f)) := by
  unfold receive
  rcases ServerMessage.ofText text with _ | (_ | _ | r | _)
  case ok.answer =>
    dsimp only
    rw [append_withFailure]
    rcases s.append r with ⟨_ | _, _⟩ <;> rfl
  all_goals rfl

theorem dispatch_withFailure (text : String) :
    (s.withFailure f).dispatch text =
      ((s.dispatch text).1, (s.dispatch text).2.map (·.withFailure f)) := by
  unfold dispatch
  rw [receive_withFailure]
  rcases s.receive text with ⟨logs, e | t⟩
  · simp only [Except.map]
    split <;> simp
  · rfl

end GraphProbe.Subscription.State

namespace GraphProbe.Session

open Subscription

/-- The world with a failure recorded on attempt `i`; nothing changes when there is none. -/
def World.withFailure (w : World) (i : Nat) (f : Fault) : World :=
  { w with attempts := w.attempts.modify i (·.withFailure f) }

theorem World.state_withFailure {w : World} {i : Nat} (f : Fault) (hw : i < w.attempts.size) :
    (w.withFailure i f).state = if w.current = i then w.state.withFailure f else w.state := by
  simp only [World.state, World.withFailure, Array.getElem?_modify]
  split
  · subst i
    simp [Array.getElem?_eq_getElem hw]
  · next h => rw [if_neg (Ne.symm h)]

theorem World.attempt_withFailure {w : World} {i : Nat} (f : Fault) (hw : i < w.attempts.size)
    (j : Nat) : (w.withFailure i f).attempts[j]?.getD default =
      if j = i then (w.attempts[j]?.getD default).withFailure f else w.attempts[j]?.getD default := by
  simp only [World.withFailure, Array.getElem?_modify]
  split
  · subst i
    simp [Array.getElem?_eq_getElem hw]
  · next h => rw [if_neg (Ne.symm h)]

section
variable (w : World) (i : Nat) (f : Fault)
theorem World.links_withFailure : (w.withFailure i f).links = w.links := rfl
theorem World.server_withFailure : (w.withFailure i f).server = w.server := rfl
theorem World.queue_withFailure : (w.withFailure i f).queue = w.queue := rfl
theorem World.clock_withFailure : (w.withFailure i f).clock = w.clock := rfl
theorem World.sleepsLeft_withFailure : (w.withFailure i f).sleepsLeft = w.sleepsLeft := rfl
theorem World.link_withFailure : (w.withFailure i f).link = w.link := rfl
end

@[simp] theorem World.size_withFailure (w : World) (i : Nat) (f : Fault) :
    (w.withFailure i f).attempts.size = w.attempts.size := Array.size_modify ..

/-- Two computations agree up to a failure recorded on attempt `i`: from every world with that
attempt, the first run with the failure recorded gives what the second gives from the world
itself, ends in its end world with the failure recorded, and the attempt is still there. -/
def Agree (i : Nat) (f : Fault) {α : Type} (m₁ m₂ : Sim α) : Prop :=
  ∀ w, i < w.attempts.size →
    m₁.run.run (w.withFailure i f) = ((m₂.run.run w).1, (m₂.run.run w).2.withFailure i f) ∧
      i < (m₂.run.run w).2.attempts.size

/-- A computation blind to a failure recorded on attempt `i`. -/
def Blind (i : Nat) (f : Fault) {α : Type} (m : Sim α) : Prop := Agree i f m m

namespace Agree

variable {i : Nat} {f : Fault} {α β : Type}

theorem pure (a : α) : Agree i f (Pure.pure a : Sim α) (Pure.pure a) :=
  fun _ hw => ⟨rfl, hw⟩

theorem throw (e : Fault) : Agree i f (MonadExcept.throw e : Sim α) (MonadExcept.throw e) :=
  fun _ hw => ⟨rfl, hw⟩

theorem bind {m₁ m₂ : Sim α} {k₁ k₂ : α → Sim β} (hm : Agree i f m₁ m₂)
    (hk : ∀ a, Agree i f (k₁ a) (k₂ a)) : Agree i f (m₁ >>= k₁) (m₂ >>= k₂) := by
  intro w hw
  obtain ⟨e, hw'⟩ := hm w hw
  simp only [ExceptT.run_bind, StateT.run_bind, e]
  rcases hr : m₂.run.run w with ⟨_ | a, w'⟩
  · rw [hr] at hw'
    exact ⟨rfl, hw'⟩
  · rw [hr] at hw'
    exact hk a w' hw'

theorem tryCatch {m₁ m₂ : Sim α} {h₁ h₂ : Fault → Sim α} (hm : Agree i f m₁ m₂)
    (hh : ∀ e, Agree i f (h₁ e) (h₂ e)) : Agree i f (tryCatch m₁ h₁) (tryCatch m₂ h₂) := by
  intro w hw
  obtain ⟨e, hw'⟩ := hm w hw
  show StateT.run (ExceptT.tryCatch m₁ h₁) (w.withFailure i f) =
      ((StateT.run (ExceptT.tryCatch m₂ h₂) w).1,
        (StateT.run (ExceptT.tryCatch m₂ h₂) w).2.withFailure i f) ∧
    i < (StateT.run (ExceptT.tryCatch m₂ h₂) w).2.attempts.size
  simp only [ExceptT.tryCatch, ExceptT.mk, ExceptT.run, StateT.run_bind] at e hw' ⊢
  rw [e]
  rcases hr : StateT.run m₂ w with ⟨_ | a, w'⟩
  · rw [hr] at hw'
    exact hh _ w' hw'
  · rw [hr] at hw'
    exact ⟨rfl, hw'⟩

theorem throw_bind {k₁ k₂ : α → Sim β} (e : Fault) :
    Agree i f (MonadExcept.throw e >>= k₁) (MonadExcept.throw e >>= k₂) :=
  fun _ hw => ⟨rfl, hw⟩

theorem map {m₁ m₂ : Sim α} (g : α → β) (hm : Agree i f m₁ m₂) :
    Agree i f (g <$> m₁) (g <$> m₂) := by
  simp only [map_eq_pure_bind]
  exact bind hm fun a => pure (g a)

/-- Reading the world: the continuations agree on the world read and the world itself. -/
theorem get_bind {k₁ k₂ : World → Sim α}
    (h : ∀ w, i < w.attempts.size → Agree i f (k₁ (w.withFailure i f)) (k₂ w)) :
    Agree i f ((get : Sim World) >>= k₁) (get >>= k₂) :=
  fun w hw => h w hw w hw

theorem set {s₁ s₂ : World} (h : s₁ = s₂.withFailure i f) (hs : i < s₂.attempts.size) :
    Agree i f (set s₁ : Sim PUnit) (set s₂) := by
  intro w _
  subst h
  exact ⟨rfl, hs⟩

/-- A change of the world that may add attempts, as a reset does. -/
theorem modify_grow {g₁ g₂ : World → World}
    (h : ∀ w, i < w.attempts.size → g₁ (w.withFailure i f) = (g₂ w).withFailure i f)
    (hs : ∀ w, w.attempts.size ≤ (g₂ w).attempts.size) :
    Agree i f (modify g₁ : Sim PUnit) (modify g₂) := by
  intro w hw
  show (Except.ok (), g₁ (w.withFailure i f)) = (Except.ok (), (g₂ w).withFailure i f) ∧
    i < (g₂ w).attempts.size
  rw [h w hw]
  exact ⟨rfl, lt_of_lt_of_le hw (hs w)⟩

theorem modify {g₁ g₂ : World → World} (h : ∀ w, g₁ (w.withFailure i f) = (g₂ w).withFailure i f)
    (hs : ∀ w, (g₂ w).attempts.size = w.attempts.size) :
    Agree i f (modify g₁ : Sim PUnit) (modify g₂) := by
  intro w hw
  show (Except.ok (), g₁ (w.withFailure i f)) = (Except.ok (), (g₂ w).withFailure i f) ∧
    i < (g₂ w).attempts.size
  rw [h, hs]
  exact ⟨rfl, hw⟩

/-- Reading the current attempt: the continuations may not tell a recorded failure. -/
theorem current_bind {k₁ k₂ : State → Sim α} (h : ∀ s, Agree i f (k₁ s) (k₂ s))
    (hk : ∀ s, k₁ (s.withFailure f) = k₁ s) : Agree i f (current >>= k₁) (current >>= k₂) := by
  intro w hw
  show (k₁ (w.withFailure i f).state).run.run (w.withFailure i f) =
      (((k₂ w.state).run.run w).1, ((k₂ w.state).run.run w).2.withFailure i f) ∧
    i < ((k₂ w.state).run.run w).2.attempts.size
  rw [World.state_withFailure f hw]
  split
  · rw [hk]
    exact h _ w hw
  · exact h _ w hw

end Agree

/-! ### The world's records -/

variable {i : Nat} {f : Fault}

theorem log_blind (r : LogRecord) : Blind i f (log r) :=
  Agree.modify (fun _ => rfl) (fun _ => rfl)

theorem clientLog_blind (text : String) (context : List (String × Value)) :
    Blind i f (clientLog text context) :=
  log_blind _

theorem linkAt_blind (j : Nat) : Blind i f (linkAt j) := by
  refine Agree.get_bind fun w _ => ?_
  rw [World.links_withFailure]
  rcases w.links[j]? with _ | l
  · exact Agree.throw _
  · exact Agree.pure _

theorem updateLink_blind (j : Nat) (g : Link → Link) : Blind i f (updateLink j g) :=
  Agree.modify (fun _ => rfl) (fun _ => rfl)

theorem updateNet_blind (j : Nat) (g : NetLink → NetLink) : Blind i f (updateNet j g) :=
  updateLink_blind _ _

theorem updatePeer_blind (j : Nat) (g : AppLink → AppLink) : Blind i f (updatePeer j g) :=
  updateLink_blind _ _

theorem schedule_blind (delayMs : Float) (ev : Event) : Blind i f (schedule delayMs ev) :=
  Agree.modify (fun _ => rfl) (fun _ => rfl)

theorem modify_withFailure_comm (A : Array State) {j : Nat} {g₁ g₂ : State → State}
    (heq : j = i → ∀ s, g₁ (s.withFailure f) = (g₂ s).withFailure f) (hne : j ≠ i → g₁ = g₂) :
    (A.modify i (·.withFailure f)).modify j g₁ = (A.modify j g₂).modify i (·.withFailure f) := by
  apply Array.ext (by simp)
  intro k _ _
  simp only [Array.getElem_modify]
  by_cases hj : j = k
  · by_cases hi : i = k
    · subst hj hi
      simp [heq rfl]
    · subst hj
      simp [hi, hne (Ne.symm hi)]
  · simp [hj]

/-- Changing attempt `j`: on the attempt with the failure recorded the first change must give
what the second gives, with the failure recorded; on any other both must be the same. -/
theorem updateAttempt_agree (j : Nat) {g₁ g₂ : State → State}
    (heq : j = i → ∀ s, g₁ (s.withFailure f) = (g₂ s).withFailure f) (hne : j ≠ i → g₁ = g₂) :
    Agree i f (updateAttempt j g₁) (updateAttempt j g₂) := by
  refine Agree.modify (fun w => ?_) (fun _ => Array.size_modify ..)
  show { w with attempts := (w.attempts.modify i (·.withFailure f)).modify j g₁ } =
    { w with attempts := (w.attempts.modify j g₂).modify i (·.withFailure f) }
  rw [modify_withFailure_comm w.attempts heq hne]

/-! ### Delivery -/

theorem deliverNow_blind (j : Nat) (text : String) : Blind i f (deliverNow j text) := by
  refine Agree.bind (linkAt_blind j) fun l => ?_
  split
  · exact Agree.modify (fun _ => rfl) (fun _ => rfl)
  · refine Agree.get_bind fun w hw => ?_
    rw [World.attempt_withFailure f hw]
    by_cases hj : l.attempt = i
    · -- the attempt with the failure: the frame does what it does without it
      rw [if_pos hj]
      dsimp only
      rw [State.dispatch_withFailure]
      rcases (w.attempts[l.attempt]?.getD default).dispatch text with ⟨records, e | s'⟩
      · exact Agree.bind (Agree.modify (fun _ => rfl) (fun _ => rfl)) fun _ => Agree.throw e
      · exact Agree.bind (Agree.modify (fun _ => rfl) (fun _ => rfl)) fun _ =>
          updateAttempt_agree _ (fun _ _ => rfl) (absurd hj)
    · rw [if_neg hj]
      dsimp only
      rcases (w.attempts[l.attempt]?.getD default).dispatch text with ⟨records, e | s'⟩
      · exact Agree.bind (Agree.modify (fun _ => rfl) (fun _ => rfl)) fun _ => Agree.throw e
      · exact Agree.bind (Agree.modify (fun _ => rfl) (fun _ => rfl)) fun _ =>
          updateAttempt_agree _ (fun h => absurd h hj) (fun _ => rfl)

theorem closeNow_blind (j : Nat) : Blind i f (closeNow j) := by
  refine Agree.bind (linkAt_blind j) fun l => ?_
  split
  · exact Agree.modify (fun _ => rfl) (fun _ => rfl)
  · exact updateAttempt_agree _ (fun _ s => State.mark_withFailure s f _) (fun _ => rfl)

theorem notifyClosed_blind (j : Nat) : Blind i f (notifyClosed j) := by
  refine Agree.bind (linkAt_blind j) fun l => ?_
  split
  · exact Agree.bind (updatePeer_blind _ _) fun _ => closeNow_blind j
  · exact Agree.pure _

/-! ### Sessions to applications -/

namespace Application

theorem stopReading_blind (j : Nat) : Blind i f (stopReading j) :=
  Agree.bind (updatePeer_blind _ _) fun _ => notifyClosed_blind j

theorem read_blind (j : Nat) (o : Site.Outgoing) : Blind i f (read j o) := by
  unfold read
  split
  case h_1 t => exact deliverNow_blind j t
  case h_2 b =>
    split
    · exact deliverNow_blind j _
    · exact stopReading_blind j
  case h_3 code =>
    exact Agree.bind (updatePeer_blind _ _) fun _ =>
      Agree.bind (schedule_blind _ _) fun _ => stopReading_blind j
  case h_4 => exact Agree.pure _

theorem readAll_blind (j : Nat) (os : List Site.Outgoing) : Blind i f (readAll j os) := by
  induction os with
  | nil => exact Agree.pure _
  | cons o os ih =>
    refine Agree.bind (linkAt_blind j) fun l => ?_
    split
    · exact Agree.bind (read_blind j o) fun _ => ih
    · exact Agree.pure _

theorem afterTurn_blind (j : Nat) (out : List Site.Outgoing) : Blind i f (afterTurn j out) := by
  refine Agree.bind (readAll_blind j out) fun _ => Agree.bind (linkAt_blind j) fun l => ?_
  dsimp only
  split
  · exact stopReading_blind j
  · exact Agree.pure _

theorem turn_blind (j : Nat) : Blind i f (turn j) := by
  refine Agree.bind (linkAt_blind j) fun l => ?_
  dsimp only
  split
  · exact Agree.pure _
  split
  · exact Agree.pure _
  split
  · exact Agree.pure _
  split
  · -- a stream of the application steps, and may pause
    split
    · exact Agree.bind (updatePeer_blind _ _) fun _ => Agree.bind (schedule_blind _ _) fun _ =>
        Agree.bind (afterTurn_blind j _) fun _ => Agree.pure _
    · exact Agree.bind (updatePeer_blind _ _) fun _ =>
        Agree.bind (afterTurn_blind j _) fun _ => Agree.pure _
  · -- the application handles the next message
    split
    · exact Agree.bind (updatePeer_blind _ _) fun _ =>
        Agree.bind (afterTurn_blind j _) fun _ => Agree.pure _
    · exact Agree.pure _

theorem runTurns_blind (j fuel : Nat) : Blind i f (runTurns j fuel) := by
  induction fuel with
  | zero => exact schedule_blind _ _
  | succ fuel ih =>
    refine Agree.bind (turn_blind j) fun b => ?_
    split
    · exact ih
    · exact Agree.pure _

theorem run_blind (j : Nat) : Blind i f (run j) := by
  refine Agree.bind (linkAt_blind j) fun l => ?_
  dsimp only
  split
  · exact Agree.pure _
  · exact Agree.bind (updatePeer_blind _ _) fun _ =>
      Agree.bind (afterTurn_blind j _) fun _ => runTurns_blind j _

theorem wake_blind (j token : Nat) : Blind i f (wake j token) :=
  Agree.bind (updatePeer_blind _ _) fun _ => run_blind j

theorem failConnect_blind {α : Type} (j : Nat) (e : Fault) :
    Blind i f (failConnect j e : Sim α) :=
  Agree.bind (updatePeer_blind _ _) fun _ => Agree.throw e

theorem orFailConnect_blind {α : Type} (j : Nat) (uri : String) (r : Except Fault α) :
    Blind i f (orFailConnect j uri r) := by
  unfold orFailConnect
  split
  · exact Agree.pure _
  · exact failConnect_blind j _

theorem accept_blind (j : Nat) (l : Link) (a : Site.AppInstance) (out : List Site.Outgoing) :
    Blind i f (accept j l a out) := by
  unfold accept
  split
  · exact Agree.bind (updatePeer_blind _ _) fun _ =>
      Agree.bind (schedule_blind _ _) fun _ => Agree.pure _
  · exact failConnect_blind j _
  · split <;> exact failConnect_blind j _

theorem connect_blind (j : Nat) : Blind i f (connect j) := by
  refine Agree.bind (linkAt_blind j) fun l => ?_
  dsimp only
  split
  · exact Agree.throw _
  · exact Agree.bind (updatePeer_blind _ _) fun _ =>
      Agree.bind (orFailConnect_blind j _ _) fun _ =>
      Agree.bind (orFailConnect_blind j _ _) fun _ =>
      Agree.bind (updatePeer_blind _ _) fun _ =>
      Agree.bind (updatePeer_blind _ _) fun _ => accept_blind j l _ _

theorem send_blind (j : Nat) (text : String) : Blind i f (send j text) := by
  refine Agree.bind (linkAt_blind j) fun l => ?_
  dsimp only
  split
  · exact Agree.throw _
  split
  · exact Agree.throw _
  split
  · exact Agree.throw _
  · exact Agree.bind (updateLink_blind _ _) fun _ =>
      Agree.bind (Agree.modify (fun _ => rfl) (fun _ => rfl)) fun _ => schedule_blind _ _

theorem cancel_blind (j : Nat) : Blind i f (cancel j) :=
  updatePeer_blind _ _

theorem close_blind (j : Nat) : Blind i f (close j) := by
  refine Agree.bind (updateLink_blind _ _) fun _ => Agree.bind (linkAt_blind j) fun l => ?_
  dsimp only
  -- past its first checks, every branch is a chain of blind calls
  repeat' first
    | exact Agree.pure _
    | exact Agree.throw _
    | exact Agree.throw_bind _
    | refine Agree.bind (updatePeer_blind _ _) fun _ => ?_
    | refine Agree.bind (run_blind j) fun _ => ?_
    | refine Agree.bind (cancel_blind j) fun _ => ?_
    | refine Agree.bind (Agree.map _ (linkAt_blind j)) fun _ => ?_
    | refine Agree.bind (afterTurn_blind j _) fun _ => ?_
    | refine Agree.bind (notifyClosed_blind j) fun _ => ?_
    | split

end Application

/-! ### Events and the passing of time -/

theorem runEvent_blind (ev : Event) : Blind i f (runEvent ev) := by
  cases ev with
  | deliver j text => exact deliverNow_blind j text
  | closeNotice j => exact closeNow_blind j
  | appRun j => exact Application.run_blind j
  | streamWake j token => exact Application.wake_blind j token

theorem after_blind (delayMs : Float) (ev : Event) : Blind i f (after delayMs ev) := by
  unfold after
  split
  · exact runEvent_blind ev
  · exact schedule_blind _ _

theorem runDue_blind (fuel : Nat) : Blind i f (runDue fuel) := by
  induction fuel with
  | zero => exact Agree.pure _
  | succ fuel ih =>
    refine Agree.get_bind fun w hw => ?_
    rw [World.queue_withFailure, World.clock_withFailure]
    split
    · split
      · -- the first event is due: it runs, and a fault it raises is kept
        refine Agree.bind (Agree.set rfl hw) fun _ =>
          Agree.bind (Agree.tryCatch (runEvent_blind _) fun _ => ?_) fun _ => ih
        exact Agree.modify (fun _ => rfl) (fun _ => rfl)
      · exact Agree.pure _
    · exact Agree.pure _

theorem runAllDue_blind : Blind i f runAllDue :=
  runDue_blind _

theorem sleep_blind (ms : Num) : Blind i f (sleep ms) := by
  unfold sleep
  dsimp only
  split
  · exact Agree.throw_bind _
  refine Agree.get_bind fun w hw => ?_
  rw [World.sleepsLeft_withFailure]
  rcases w.sleepsLeft with _ | n
  · exact Agree.bind (Agree.set rfl hw) fun _ => Agree.throw _
  · exact Agree.bind (Agree.set rfl hw) fun _ => runAllDue_blind

/-! ### Scripted sessions -/

theorem forIn_blind {γ β : Type} (xs : List γ) (b : β) (body : γ → β → Sim (ForInStep β))
    (h : ∀ x b, Blind i f (body x b)) : Blind i f (forIn xs b body) := by
  induction xs generalizing b with
  | nil => exact Agree.pure _
  | cons x xs ih =>
    rw [List.forIn_cons]
    refine Agree.bind (h x b) fun r => ?_
    cases r with
    | done b => exact Agree.pure _
    | yield b => exact ih b

namespace Scripted

theorem connect_blind (j : Nat) : Blind i f (connect j) := by
  refine Agree.bind (linkAt_blind j) fun l => Agree.get_bind fun w _ => ?_
  rw [World.server_withFailure]
  split
  · exact Agree.throw _
  · exact updateLink_blind _ _

theorem reply_blind (j : Nat) (r : Reply) : Blind i f (reply j r) := by
  unfold reply
  split <;> exact after_blind _ _

theorem send_blind (j : Nat) (text : String) : Blind i f (send j text) := by
  refine Agree.get_bind fun w hw => ?_
  rw [World.links_withFailure, World.server_withFailure]
  rcases w.links[j]? with _ | l
  · exact Agree.throw _
  dsimp only
  split_ifs
  -- past the checks, the text is recorded and the script's replies follow
  all_goals
    repeat' first
      | exact Agree.pure _
      | exact Agree.throw_bind _
      | refine Agree.bind (Agree.set rfl hw) fun _ => ?_
      | refine Agree.bind (after_blind _ _) fun _ => ?_
      | refine Agree.bind (forIn_blind _ _ _ fun r _ =>
          Agree.bind (reply_blind j r) fun _ => Agree.pure _) fun _ => ?_
      | split

theorem close_blind (j : Nat) : Blind i f (close j) := by
  refine Agree.get_bind fun w hw => ?_
  rw [World.links_withFailure, World.server_withFailure]
  rcases w.links[j]? with _ | l
  · exact Agree.throw _
  refine Agree.bind (Agree.set rfl hw) fun _ => ?_
  dsimp only
  split
  · exact Agree.throw_bind _
  · split
    · exact after_blind _ _
    · exact Agree.pure _

end Scripted

/-! ### Sessions over the network -/

namespace Network

theorem connect_blind (j : Nat) (endpoint : Option Endpoint) (timeout : Value) :
    Blind i f (connect j endpoint timeout) := by
  refine Agree.bind (linkAt_blind j) fun l => ?_
  dsimp only
  split
  · exact Agree.throw_bind _
  refine Agree.bind (updateNet_blind _ _) fun _ => ?_
  -- the handshake ends one way of four, each a fault or a change of the session
  repeat' first
    | exact Agree.throw _
    | exact updateLink_blind _ _
    | exact Agree.bind (updateLink_blind _ _) fun _ => Agree.throw _
    | split

theorem send_blind (j : Nat) (text : String) (reachable : Bool) :
    Blind i f (send j text reachable) := by
  refine Agree.bind (linkAt_blind j) fun l => ?_
  dsimp only
  -- a send needs a socket that reached its endpoint and is not closed
  split
  · exact Agree.throw_bind _
  split
  · exact Agree.throw_bind _
  split
  · exact Agree.throw_bind _
  exact Agree.bind (updateLink_blind _ _) fun _ => Agree.modify (fun _ => rfl) (fun _ => rfl)

theorem close_blind (j : Nat) : Blind i f (close j) := by
  refine Agree.bind (linkAt_blind j) fun l => ?_
  dsimp only
  split
  · exact Agree.pure _
  refine Agree.bind (updateLink_blind _ _) fun _ => ?_
  split
  · exact Agree.bind (updateNet_blind _ _) fun _ => closeNow_blind j
  · exact Agree.pure _

end Network

/-! ### Calls on a session -/

theorem newLink_blind (uri : String) (subprotocols : List String) (recorder : Bool) :
    Blind i f (newLink uri subprotocols recorder) := by
  refine Agree.get_bind fun w hw => ?_
  exact Agree.bind (Agree.set rfl hw) fun _ => Agree.pure _

theorem connectLink_blind (j : Nat) : Blind i f (connectLink j) := by
  refine Agree.get_bind fun w _ => ?_
  rw [World.server_withFailure]
  split
  · exact Agree.bind (Scripted.connect_blind j) fun _ => Agree.pure _
  · exact Application.connect_blind j
  · exact Agree.bind (Network.connect_blind j _ _) fun _ => Agree.pure _

theorem connect_blind (uri : String) (subprotocols : List String) :
    Blind i f (connect uri subprotocols) :=
  Agree.bind (newLink_blind _ _ _) fun j =>
    Agree.bind (connectLink_blind j) fun _ => Agree.pure _

theorem send_blind (j : Nat) (text : String) : Blind i f (send j text) := by
  refine Agree.get_bind fun w _ => ?_
  rw [World.server_withFailure]
  split
  · exact Scripted.send_blind j text
  · exact Application.send_blind j text
  · exact Network.send_blind j text _

theorem close_blind (j : Nat) : Blind i f (close j) := by
  refine Agree.get_bind fun w _ => ?_
  rw [World.server_withFailure]
  split
  · exact Scripted.close_blind j
  · exact Application.close_blind j
  · exact Network.close_blind j

end GraphProbe.Session

namespace GraphProbe.Subscription.Client

open Session

variable {i : Nat} {f : Fault}

theorem onSession_blind {α : Type} (message : String) {call : Sim α} (h : Blind i f call) :
    Blind i f (onSession message call) :=
  Agree.tryCatch h fun _ => Agree.throw _

theorem lift_blind {α : Type} (r : Except Fault α) : Blind i f (lift r) := by
  cases r with
  | error e => exact Agree.throw e
  | ok a => exact Agree.pure a

theorem sendMessage_blind (message : Value) : Blind i f (sendMessage message) := by
  unfold sendMessage
  dsimp only
  split
  · refine Agree.bind (Agree.pure _) fun text => Agree.get_bind fun w _ => ?_
    rw [World.link_withFailure]
    split
    · exact onSession_blind _ (send_blind _ _)
    · exact Agree.throw _
  · exact Agree.throw_bind _

theorem pollOnce_blind (c : Client) (elapsed : Value) : Blind i f (c.pollOnce elapsed) :=
  Agree.bind (lift_blind _) fun _ => Agree.bind (sleep_blind _) fun _ => lift_blind _

section
variable (c : Client) {cond : State → Bool} (hcond : ∀ s, cond (s.withFailure f) = cond s)
include hcond

/-- Waiting for a condition that does not look at the failure, without raising it, is blind
to it. -/
theorem awaitCondition_loop_blind (fuel : Nat) (elapsed : Value) :
    Blind i f (awaitCondition.loop c cond false fuel elapsed) := by
  induction fuel generalizing elapsed with
  | zero => exact Agree.bind (Agree.modify (fun _ => rfl) (fun _ => rfl)) fun _ => Agree.throw _
  | succ fuel ih =>
    unfold awaitCondition.loop
    refine Agree.current_bind (fun s => ?_) (fun s => by rw [hcond])
    split
    · refine Agree.bind (lift_blind _) fun b => ?_
      split
      · -- without surfacing a failure, it polls and waits on
        dsimp only [Bool.false_eq_true, ↓reduceIte]
        exact Agree.bind (pollOnce_blind c elapsed) ih
      · exact Agree.pure _
    · exact Agree.pure _

theorem awaitCondition_blind (what : String) :
    Blind i f (c.awaitCondition cond what false) := by
  unfold awaitCondition
  refine Agree.get_bind fun w _ => ?_
  rw [World.sleepsLeft_withFailure]
  refine Agree.bind (awaitCondition_loop_blind c hcond _ _) fun _ =>
    Agree.current_bind (fun s => ?_) (fun s => by rw [hcond])
  split
  · dsimp only [Bool.false_eq_true, ↓reduceIte]
    exact Agree.throw _
  · exact Agree.pure _

end

/-- Stopping does not look at a recorded failure: it checks the attempt's flags, sends the stop
message, closes the session and waits for the close notice as it would without it. -/
theorem stop_blind (c : Client) : Blind i f c.stop := by
  refine Agree.current_bind (fun s => ?_) (fun s => rfl)
  dsimp only
  split
  · exact Agree.throw_bind _
  split
  · exact Agree.throw_bind _
  refine Agree.get_bind fun w _ => ?_
  rw [World.link_withFailure]
  split
  · exact Agree.bind (clientLog_blind _ _) fun _ => Agree.bind (sendMessage_blind _) fun _ =>
      Agree.bind (clientLog_blind _ _) fun _ => Agree.bind (onSession_blind _ (close_blind _)) fun _ =>
      Agree.bind (awaitCondition_blind c (fun _ => rfl) _) fun _ => clientLog_blind _ _
  · exact Agree.throw _

/-- Beginning a fresh attempt leaves a failure recorded on an attempt that was there. -/
theorem push_withFailure (A : Array State) (x : State) (hi : i < A.size) :
    (A.modify i (·.withFailure f)).push x = (A.push x).modify i (·.withFailure f) := by
  apply Array.ext (by simp)
  intro k _ _
  simp only [Array.getElem_push, Array.getElem_modify, Array.size_modify]
  by_cases hk : k < A.size
  · simp [hk]
  · have : i ≠ k := by omega
    simp [hk, this]

/-- Resetting does not look at a recorded failure either: it stops what still runs, closes the
session and begins a fresh attempt as it would without it. -/
theorem reset_blind (c : Client) : Blind i f c.reset := by
  unfold reset
  refine Agree.current_bind (fun s => ?_) (fun s => rfl)
  dsimp only
  -- the fresh attempt goes after the one with the failure, which stays where it was
  have hfresh : Agree i f
      (modify fun (w : World) =>
        { w with attempts := w.attempts.push (State.fresh w.nextId), current := w.attempts.size,
                 nextId := w.nextId + 1, link := none } : Sim PUnit)
      (modify fun (w : World) =>
        { w with attempts := w.attempts.push (State.fresh w.nextId), current := w.attempts.size,
                 nextId := w.nextId + 1, link := none }) :=
    Agree.modify_grow
      (fun w hw => by simp only [World.withFailure, Array.size_modify, push_withFailure _ _ hw])
      (fun w => by simp)
  repeat' first
    | exact Agree.pure _
    | exact clientLog_blind _ _
    | refine Agree.bind (stop_blind c) fun _ => ?_
    | refine Agree.bind (onSession_blind _ (close_blind _)) fun _ => ?_
    | refine Agree.bind hfresh fun _ => ?_
    | refine Agree.current_bind (fun s => ?_) (fun s => rfl)
    | refine Agree.get_bind fun w _ => ?_
      rw [World.link_withFailure]
    | split

end GraphProbe.Subscription.Client

namespace GraphProbe.Subscription

open Session

/-- In every reachable world an initialized attempt has its session. A failure recorded on the
current attempt is raised by `init`, `start`, the awaits and `remaining` before they do
anything, and kept by every operation but a reset, which begins a fresh attempt; stop and
reset run as they would without it. -/
theorem failure_sticky {c : Client} {w : World} (hw : Reachable c w) :
    (w.state.initialized → w.link.isSome) ∧
    (∀ f, w.state.failure = some f →
      (∀ p, (c.init p).run.run w = (.error f, w)) ∧
      (∀ r vars, (c.start r vars).run.run w = (.error f, w)) ∧
      (∀ t n b, (c.awaitResponses t n b).run.run w = (.error f, w)) ∧
      Client.remaining.run.run w = (.error f, w) ∧
      (∀ op : Op, op ≠ .reset → ((op.run c).run.run w).2.state.failure = some f)) ∧
    (∀ w', c.reset.run.run w = (.ok (), w') → ∃ id, w'.state = State.fresh id) ∧
    (∀ i f, Blind i f c.stop ∧ Blind i f c.reset) := by
  refine ⟨consistent_of_reachable hw, fun f hf => ?_, fun w' hr => ?_,
    fun i f => ⟨Client.stop_blind c, Client.reset_blind c⟩⟩
  · exact ⟨fun p => Client.init_raises c p hf, fun r vars => Client.start_raises c r vars hf,
      fun t n b => Client.awaitResponses_raises c t n b hf, Client.remaining_raises hf,
      fun op hop => op.failure_kept c hop hf⟩
  · have h := run_of_triple (Client.reset_fresh c) (w := w) trivial
    rw [hr] at h
    exact h

/-- A server that follows its acknowledgement of the connection init with a frame that is no
JSON object. -/
def typelessScript : Script := { replies := [("connection_init", [⟨0, .frame "[]"⟩])] }

/-- After an initialization whose server followed the acknowledgement with a frame that is no
JSON object, the attempt is initialized on a session and keeps the failure the frame caused;
a second initialization and every start raise that failure at once and change nothing. -/
theorem failure_sticky_after_typeless_frame :
    let w := (((Op.init none).run default).run.run (World.start (.scripted typelessScript) 1)).2
    Reachable default w ∧ w.state.initialized ∧ w.link.isSome ∧
      w.state.failure = some typeMissing ∧
      ((default : Client).init none).run.run w = (.error typeMissing, w) ∧
      ∀ r vars, ((default : Client).start r vars).run.run w = (.error typeMissing, w) := by
  intro w
  have hw : Reachable default w := .step (.init none) (.start _ 1)
  have hinit : w.state.initialized := by rfl
  have hf : w.state.failure = some typeMissing := by rfl
  obtain ⟨hlink, hsticky, -, -⟩ := failure_sticky hw
  obtain ⟨hagain, hstart, -⟩ := hsticky _ hf
  exact ⟨hw, hinit, hlink hinit, hf, hagain none, hstart⟩

end GraphProbe.Subscription
