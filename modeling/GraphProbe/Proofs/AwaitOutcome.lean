import Mathlib
import GraphProbe.Proofs.ClientRuns

/-!
# What an await answers

An await first checks the attempt, then polls: it sleeps one poll interval at a time until
enough answers are buffered or its time is up, raising a failure noticed meanwhile, and then
stops the subscription when asked. What it answers after that depends only on the attempt as
the polling left it: `awaitVerdict` says what, from the failure kept and the answers buffered.

Design. Once its checks pass, an await is `awaitPolling` followed by `awaitSettle`
(`awaitResponses_run`). The settling is a straight run, so its result and the attempt it
leaves are read off `awaitVerdict` (`awaitSettle_spec`), and a settling that fails leaves the
world as it was. A stop that returns leaves the attempt stopped (`stop_stopped`), because it
returns only once the close was noticed. The main statement is `await_outcome`; the verdict
itself takes answers from the front of the buffer without losing any (`awaitVerdict_conserves`)
and, for a positive count, exactly that many (`awaitVerdict_length`).
-/

namespace GraphProbe

/-! ### Counts that are whole numbers -/

@[simp] theorem Num.isZero_int (n : Int) :
    (Num.ofValue? (.int n)).any (fun m => m.compare? (.int 0) == some .eq) = decide (n = 0) := by
  rw [Bool.eq_iff_iff]
  simp [Num.ofValue?, Num.compare?]

@[simp] theorem Num.isPositive_int (n : Int) :
    (Num.ofValue? (.int n)).any (fun m => (Num.int 0).lt m) = decide (0 < n) := by
  rw [Bool.eq_iff_iff]
  simp [Num.ofValue?, Num.compare?, Num.lt, compare_lt_iff_lt]

@[simp] theorem Value.lessThan_int (a b : Int) :
    (Value.int a).lessThan (.int b) = .ok (decide (a < b)) := by
  simp only [Value.lessThan, Num.ofValue?, Num.lt, Num.compare?, Except.ok.injEq]
  rw [Bool.eq_iff_iff]
  simp [compare_lt_iff_lt]

end GraphProbe

namespace GraphProbe.Session

/-- A drain of the current attempt followed by a log record leaves what the drain left as the
current attempt. -/
theorem World.state_drained_logged (w : World) (k : Option Int) (l : List LogRecord) :
    { w with attempts := w.attempts.modify w.current fun _ => (w.state.drain k).2, logs := l }.state =
      (w.state.drain k).2 :=
  World.state_drained w k

end GraphProbe.Session

namespace GraphProbe.Subscription.Client

open Std.Do Session

set_option mvcgen.warning false

/-- The polling of an await, and the stop that follows it when asked. -/
def awaitPolling (c : Client) (timeout count : Value) (stopAfter : Bool) : Sim Unit := do
  awaitResponses.loop c timeout count (.int 0) ((← get).sleepsLeft + 1) (.int 0)
  if stopAfter then c.stop

/-- What an await does once its polling is over: raise a failure noticed meanwhile, check
how many answers are buffered, and take them. -/
def awaitSettle (timeout count : Value) : Sim (List Response) := do
  raiseNoticed
  let s ← current
  let received := s.buffered
  let nothing := (Num.ofValue? count).any fun n => n.compare? (.int 0) == some .eq
  let positive := (Num.ofValue? count).any fun n => (Num.int 0).lt n
  if nothing && received > 0 then
    failWith s!"Expected no responses in {timeout.display} MS, but received {received}"
  if positive && (← lift ((Value.int received).lessThan count)) then
    failWith s!"Expected at least {count.display} message(s) in {timeout.display} MS, but {received} received."
  let take ← if !positive then pure none else
    match count with
    | .int n => pure (some n)
    | .bool b => pure (some (if b then 1 else 0))
    | _ =>
      if ← lift ((Value.int received).lessThan count) then pure (some (received : Int))
      else throw (Fault.simple .wrongType
        s!"{Text.quote count.kindName} object cannot be interpreted as an integer")
  let (rs, s') := s.drain take
  updateCurrent fun _ => s'
  clientLog "returning responses" [("subscription_id", .int s.id), ("count", .int rs.length)]
  return rs

/-- What an await answers once its polling is over, read off the attempt it then works on,
and the attempt it leaves: a failure noticed meanwhile is raised; with a count of zero, any
answer buffered fails it; with a positive count, fewer answers than that fail it; otherwise it
takes the first `count` answers (all of them for a count of zero or less) and leaves the rest
buffered. -/
def awaitVerdict (timeout : Value) (count : Int) (s : State) :
    Except Fault (List Response × State) :=
  match s.failure with
  | some f => .error f
  | none =>
    if count = 0 ∧ 0 < s.buffered then
      .error (Fault.fail s!"Expected no responses in {timeout.display} MS, but received {s.buffered}")
    else if 0 < count ∧ (s.buffered : Int) < count then
      .error (Fault.fail
        s!"Expected at least {(Value.int count).display} message(s) in {timeout.display} MS, but {s.buffered} received.")
    else if 0 < count then
      .ok (s.responses.take count.toNat, { s with responses := s.responses.drop count.toNat })
    else .ok (s.responses, { s with responses := [] })

section Verdict

variable {timeout : Value} {n : Int} {s s' : State} {rs : List Response}

/-- A verdict that answers changes nothing of the attempt but its buffer. -/
theorem awaitVerdict_keeps (h : awaitVerdict timeout n s = .ok (rs, s')) :
    s' = { s with responses := s'.responses } := by
  unfold awaitVerdict at h
  split at h
  · cases h
  · split_ifs at h <;> cases h <;> rfl

/-- A verdict takes its answers from the front of the buffer and keeps the rest after them. -/
theorem awaitVerdict_conserves (h : awaitVerdict timeout n s = .ok (rs, s')) :
    rs ++ s'.responses = s.responses := by
  unfold awaitVerdict at h
  split at h
  · cases h
  · split_ifs at h <;> cases h <;> simp

/-- For a positive count, a verdict that answers takes exactly that many answers: the await
of one answer always has one to give. -/
theorem awaitVerdict_length (hn : 0 < n) (h : awaitVerdict timeout n s = .ok (rs, s')) :
    rs.length = n.toNat := by
  unfold awaitVerdict at h
  split at h
  · cases h
  · split_ifs at h with h₀ h₁
    cases h
    have hlen : n.toNat ≤ s.responses.length := by
      simp only [State.buffered] at h₁
      omega
    simp [hlen]

end Verdict

/-- With its checks passed, an await is its polling followed by its settling. -/
theorem awaitResponses_run (c : Client) (timeout count : Value) (stopAfter : Bool) {w : World}
    (hs : w.state.started = true) (hns : w.state.stopped = false)
    (hf : w.state.failure = none) :
    (c.awaitResponses timeout count stopAfter).run.run w =
      match (c.awaitPolling timeout count stopAfter).run.run w with
      | (.ok _, u) => (awaitSettle timeout count).run.run u
      | (.error e, u) => (.error e, u) := by
  unfold awaitResponses awaitPolling
  rw [run_bind_ok (raiseNoticed_run_none hf), run_bind_ok (current_run w)]
  simp only [hs, Bool.not_true, Bool.false_eq_true, ↓reduceIte]
  rw [run_bind_ok (current_run w)]
  simp only [hns, Bool.false_eq_true, ↓reduceIte]
  rw [run_bind_ok (get_run w), run_bind_ok (get_run w)]
  rcases hl : (awaitResponses.loop c timeout count (.int 0) (w.sleepsLeft + 1) (.int 0)).run.run w
    with ⟨e | _, w₁⟩
  · rw [run_bind_error hl, run_bind_error hl]
  rw [run_bind_ok hl, run_bind_ok hl]
  -- the stop, when asked, is the one step left before the settling
  cases stopAfter
  · simp only [Bool.false_eq_true, ↓reduceIte, awaitSettle]
    rfl
  · rcases hstop : c.stop.run.run w₁ with ⟨e | _, u⟩
    · simp only [↓reduceIte]
      rw [run_bind_error hstop, hstop]
    · simp only [↓reduceIte]
      rw [run_bind_ok hstop, hstop]
      rfl

theorem awaitSettle_spec (timeout : Value) (n : Int) (u : World) :
    ⦃fun w => ⌜w = u⌝⦄ awaitSettle timeout (.int n)
    ⦃post⟨fun rs w => ⌜awaitVerdict timeout n u.state = .ok (rs, w.state)⌝,
      fun f w => ⌜awaitVerdict timeout n u.state = .error f ∧ w = u⌝⟩⦄ := by
  mvcgen [awaitSettle, updateCurrent, updateAttempt, clientLog, log, lift, failWith]
  all_goals simp_all +zetaDelta [awaitVerdict]
  -- the two branches that answer: all that is buffered for a count of zero or less, and the
  -- first `n` for a positive count that is met
  all_goals simp only [World.state_drained_logged]
  · rw [if_neg (by omega), if_neg (by omega), if_neg (by omega)]
    simp_all [State.drain, State.takeCount, State.buffered]
  · rw [if_neg (by omega), if_neg (by omega)]
    have hk : min n.toNat u.state.buffered = n.toNat := by omega
    simp_all [State.drain, State.takeCount]

theorem awaitCondition_met (c : Client) (cond : State → Bool) (what : String) (surface : Bool)
    (v : ClientView) :
    ⦃fun w => ⌜Fed v w⌝⦄ c.awaitCondition cond what surface
    ⦃post⟨fun _ w => ⌜Fed v w ∧ cond w.state⌝, fun _ w => ⌜Fed v w⌝⟩⦄ := by
  unfold awaitCondition
  mvcgen
  all_goals grind

/-- A stop that returns leaves the attempt stopped. -/
theorem stop_stopped (c : Client) (v : ClientView) :
    ⦃fun w => ⌜Fed v w⌝⦄ c.stop
    ⦃post⟨fun _ w => ⌜Fed v w ∧ w.state.stopped⌝, fun _ w => ⌜Fed v w⌝⟩⦄ := by
  unfold stop
  -- the frame triples of the wait and of the log forget the condition waited for
  mvcgen [onSession, awaitCondition_met, clientLog, log, -awaitCondition_fed, -clientLog_fed,
    -log_fed]

theorem awaitPolling_stops (c : Client) (timeout count : Value) (stopAfter : Bool)
    (v : ClientView) :
    ⦃fun w => ⌜Fed v w⌝⦄ c.awaitPolling timeout count stopAfter
    ⦃post⟨fun _ w => ⌜Fed v w ∧ (stopAfter → w.state.stopped)⌝, fun _ w => ⌜Fed v w⌝⟩⦄ := by
  mvcgen [awaitPolling, stop_stopped, -stop_fed]
  all_goals grind

/-- An await on a started attempt that is not stopped and has no failure recorded, whose
polling (and stop, when asked) returns in the world `u`, answers as `awaitVerdict` says from
the attempt of `u`: it raises what the verdict raises and leaves `u` as it was, or answers
what the verdict takes and leaves the attempt the verdict leaves. Asked to stop, it leaves
the attempt stopped either way. -/
theorem await_outcome (c : Client) (timeout : Value) (n : Int) (stopAfter : Bool) {w u : World}
    (hs : w.state.started) (hns : w.state.stopped = false) (hf : w.state.failure = none)
    (hp : (c.awaitPolling timeout (.int n) stopAfter).run.run w = (.ok (), u)) :
    (stopAfter → ((c.awaitResponses timeout (.int n) stopAfter).run.run w).2.state.stopped) ∧
    match awaitVerdict timeout n u.state with
    | .error f => (c.awaitResponses timeout (.int n) stopAfter).run.run w = (.error f, u)
    | .ok (rs, s') => ((c.awaitResponses timeout (.int n) stopAfter).run.run w).1 = .ok rs ∧
        ((c.awaitResponses timeout (.int n) stopAfter).run.run w).2.state = s' := by
  have hstop : stopAfter → u.state.stopped := by
    have h := run_of_triple (awaitPolling_stops c timeout (.int n) stopAfter w.view) (Fed.refl w)
    rw [hp] at h
    exact h.2
  rw [awaitResponses_run c timeout _ stopAfter hs hns hf, hp]
  dsimp only
  have hsettle := run_of_triple (awaitSettle_spec timeout n u) rfl
  rcases hr : (awaitSettle timeout (.int n)).run.run u with ⟨f | rs, u'⟩
  · rw [hr] at hsettle
    obtain ⟨hv, rfl⟩ := hsettle
    simp only [hv, and_true]
    exact hstop
  · rw [hr] at hsettle
    simp only [hsettle, and_self, and_true]
    rw [awaitVerdict_keeps hsettle]
    exact hstop

theorem await_outcome_one_buffered :
    let w : World :=
      { attempts := #[{ id := 1, started := true, responses := [default] }], nextId := 2 }
    (w.state.started ∧ w.state.stopped = false ∧ w.state.failure = none ∧
      ((default : Client).awaitPolling (.int 100) (.int 1) false).run.run w = (.ok (), w)) ∧
    (((default : Client).awaitResponses (.int 100) (.int 1) false).run.run w).1 = .ok [default] ∧
    (((default : Client).awaitResponses (.int 100) (.int 1) false).run.run w).2.state.responses =
      [] := by
  intro w
  have hp : ((default : Client).awaitPolling (.int 100) (.int 1) false).run.run w = (.ok (), w) :=
    rfl
  have h := await_outcome default (.int 100) 1 false (w := w) rfl rfl rfl hp
  have hv : awaitVerdict (.int 100) 1 w.state =
      .ok ([default], { w.state with responses := [] }) := by
    simp [awaitVerdict, w, World.state, State.buffered]
  rw [hv] at h
  exact ⟨⟨rfl, rfl, rfl, hp⟩, h.2.1, by rw [h.2.2]⟩

end GraphProbe.Subscription.Client
