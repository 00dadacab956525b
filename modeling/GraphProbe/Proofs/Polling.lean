import Mathlib
import GraphProbe.Proofs.Own

/-!
# Polling on the virtual clock

The client waits by polling: it checks, sleeps one poll interval, counts it, and checks
again, until its condition holds or the count reaches the timeout. Time passes only in its
sleeps, and the frames and close notices due meanwhile are handled inside them.

For a poll interval of `p > 0` milliseconds, `w.afterSleeps (.int p) j` is the world after
`j` sleeps from `w`. Both waits of the client sleep exactly `k` times, where `k` is the first
`j` at which the time is up (`t ≤ j·p`) or the condition holds in `w.afterSleeps (.int p) j`
(`FirstEnd`). A failure the waits surface that is kept before that ends them after the sleeps
taken so far, and the wait for an acknowledgement or a close fails with `Timeout: …` exactly
when its condition still fails after the `k` sleeps. The main statement is
`polling_discipline`; `awaitCondition_within` is the form the waits of a stop are used in.

Design. A sleep with sleeps left always returns and takes exactly one of them, whatever the
sessions do meanwhile (`sleep_run`, `own_afterSleeps`). The run of a polling loop is then read
off one equation for its step (`PollStep`): `poll_outcome` proves once, by induction on the
sleeps taken, what every loop with that step does, and each of the client's two loops meets
it (`awaitResponses_pollStep`, `awaitCondition_pollStep`).
-/

namespace GraphProbe

/-! ### Intervals that are whole numbers -/

@[simp] theorem Value.atMost_int (a b : Int) :
    (Value.int a).atMost (.int b) = .ok (decide (a ≤ b)) := by
  simp only [Value.atMost, Num.ofValue?, Num.le, Num.compare?, Except.ok.injEq]
  rw [Bool.eq_iff_iff]
  rcases lt_trichotomy a b with h | rfl | h
  · simp [compare_lt_iff_lt.mpr h, h.le]
  · simp
  · simp [compare_gt_iff_gt.mpr h, not_le.mpr h]

@[simp] theorem Value.plus_int (a b : Int) : (Value.int a).plus (.int b) = .ok (.int (a + b)) :=
  rfl

@[simp] theorem Value.dividend_int (a : Int) : (Value.int a).dividend = .ok (.int a) := rfl

end GraphProbe

namespace GraphProbe.Session

open Subscription

/-! ### Polling loops -/

/-- The step of a polling loop with an interval of `p` milliseconds and a limit of `t`: with
`fuel + 1` left and `e` milliseconds counted, it ends in the world as it is once `done` holds
or the time is up; otherwise it raises the failure `raised` gives, if any, and else sleeps
once and goes on with `e + p` counted. -/
def PollStep (L : Nat → Int → World → Except Fault Unit × World) (p t : Int)
    (done : World → Bool) (raised : World → Option Fault) : Prop :=
  ∀ fuel e u, L (fuel + 1) e u =
    if done u || !decide (e < t) then (.ok (), u)
    else match raised u with
      | some f => (.error f, u)
      | none => match (sleep (.int p)).run.run u with
        | (.ok _, u') => L fuel (e + p) u'
        | (.error f, u') => (.error f, u')

/-- `k` is the first count of sleeps from `w`, of `p` milliseconds each, after which the
limit `t` is reached or `done` holds. -/
def FirstEnd (w : World) (p t : Int) (done : World → Bool) (k : Nat) : Prop :=
  (done (w.afterSleeps (.int p) k) = true ∨ t ≤ k * p) ∧
    ∀ j < k, done (w.afterSleeps (.int p) j) = false ∧ j * p < t

section Poll

variable {L : Nat → Int → World → Except Fault Unit × World} {p t : Int}
  {done : World → Bool} {raised : World → Option Fault} {w : World} {k fuel : Nat}

/-- Before the loop ends, and while it raises nothing, `j` of its steps are `j` sleeps. -/
theorem poll_unrolled (hL : PollStep L p t done raised) (hp : 0 ≤ p) (hk : k ≤ w.sleepsLeft)
    (hbefore : ∀ j < k, done (w.afterSleeps (.int p) j) = false ∧ j * p < t) {j : Nat}
    (hj : j ≤ k) (hfuel : j ≤ fuel) (hr : ∀ i < j, raised (w.afterSleeps (.int p) i) = none) :
    L fuel 0 w = L (fuel - j) (j * p) (w.afterSleeps (.int p) j) := by
  induction j with
  | zero => simp
  | succ j ih =>
    rw [ih (by omega) (by omega) fun i hi => hr i (by omega)]
    obtain ⟨hd, ht⟩ := hbefore j (by omega)
    have hs : 0 < (w.afterSleeps (.int p) j).sleepsLeft := by
      rw [sleepsLeft_afterSleeps hp (by omega)]
      omega
    obtain ⟨f, hf⟩ : ∃ f, fuel - j = f + 1 := ⟨fuel - j - 1, by omega⟩
    rw [hf, hL, hd, hr j (by omega), sleep_run hp hs, ← afterSleeps_succ,
      show fuel - (j + 1) = f by omega]
    simp [ht, add_mul]

/-- A loop that raises nothing before it ends sleeps exactly until it ends. -/
theorem poll_ok (hL : PollStep L p t done raised) (hp : 0 ≤ p) (hk : k ≤ w.sleepsLeft)
    (hend : FirstEnd w p t done k) (hr : ∀ j < k, raised (w.afterSleeps (.int p) j) = none)
    (hfuel : k < fuel) :
    L fuel 0 w = (.ok (), w.afterSleeps (.int p) k) := by
  rw [poll_unrolled hL hp hk hend.2 le_rfl hfuel.le hr]
  obtain ⟨f, hf⟩ : ∃ f, fuel - k = f + 1 := ⟨fuel - k - 1, by omega⟩
  rw [hf, hL]
  rcases hend.1 with h | h <;> simp [h]

/-- A loop that raises before it ends raises the first failure, where it was found. -/
theorem poll_raised (hL : PollStep L p t done raised) (hp : 0 ≤ p) (hk : k ≤ w.sleepsLeft)
    (hend : FirstEnd w p t done k) {i : Nat} (hi : i < k)
    (hr : ∀ j < i, raised (w.afterSleeps (.int p) j) = none) {f : Fault}
    (hf : raised (w.afterSleeps (.int p) i) = some f) (hfuel : k < fuel) :
    L fuel 0 w = (.error f, w.afterSleeps (.int p) i) := by
  rw [poll_unrolled hL hp hk hend.2 hi.le (by omega) hr]
  obtain ⟨g, hg⟩ : ∃ g, fuel - i = g + 1 := ⟨fuel - i - 1, by omega⟩
  obtain ⟨hd, ht⟩ := hend.2 i hi
  rw [hg, hL, hd, hf]
  simp [ht]

/-- The sleeps a limit of `t` takes at `p` a sleep: the time is up after that many sleeps and
not before. -/
theorem limit_sleeps (hp : 0 < p) (t : Int) :
    t ≤ ((t + p - 1) / p).toNat * p ∧ ∀ j : Nat, j < ((t + p - 1) / p).toNat → j * p < t := by
  have hlo : (t + p - 1) / p * p ≤ t + p - 1 := Int.ediv_mul_le _ hp.ne'
  have hhi : t + p - 1 < ((t + p - 1) / p + 1) * p := Int.lt_ediv_add_one_mul_self _ hp
  rcases le_or_gt 0 ((t + p - 1) / p) with hq | hq
  · rw [Int.toNat_of_nonneg hq]
    refine ⟨by nlinarith, fun j hj => ?_⟩
    have : (j : Int) * p ≤ ((t + p - 1) / p - 1) * p :=
      Int.mul_le_mul_of_nonneg_right (by omega) hp.le
    nlinarith
  · rw [Int.toNat_of_nonpos hq.le]
    refine ⟨by nlinarith, fun j hj => absurd hj (Nat.not_lt_zero j)⟩

/-- There is a first count of sleeps after which a loop polling every `p` milliseconds for
`t` ends; it is at most the sleeps of the whole limit, and all of them when `done` holds after
none of the sleeps before. -/
theorem first_end (hp : 0 < p) (t : Int) (done : World → Bool) (w : World) :
    ∃ k, FirstEnd w p t done k ∧ k ≤ ((t + p - 1) / p).toNat ∧
      ((∀ j < ((t + p - 1) / p).toNat, done (w.afterSleeps (.int p) j) = false) →
        k = ((t + p - 1) / p).toNat) := by
  obtain ⟨hup, hbefore⟩ := limit_sleeps hp t
  have hex : ∃ j : Nat, done (w.afterSleeps (.int p) j) = true ∨ t ≤ j * p := ⟨_, .inr hup⟩
  refine ⟨Nat.find hex, ⟨Nat.find_spec hex, fun j hj => ?_⟩, Nat.find_min' hex (.inr hup),
    fun hnot => le_antisymm (Nat.find_min' hex (.inr hup)) ?_⟩
  · have h := Nat.find_min hex hj
    simp only [not_or, Bool.not_eq_true, not_le] at h
    exact h
  · -- ending before the limit would need `done` to hold there
    by_contra hlt
    rw [not_le] at hlt
    rcases Nat.find_spec hex with h | h
    · rw [hnot _ hlt] at h
      cases h
    · exact absurd h (not_le.mpr (hbefore _ hlt))

/-- Every loop with the polling step, started with more fuel than sleeps left, ends after the
first count of sleeps `k` at which its condition holds or its time is up, if the sleeps left
allow it: it returns there when it raised nothing before, and otherwise raises the first
failure where it was found. -/
theorem poll_outcome (hL : PollStep L p t done raised) (hp : 0 < p) (w : World) :
    ∃ k, FirstEnd w p t done k ∧ k ≤ ((t + p - 1) / p).toNat ∧
      ((∀ j < ((t + p - 1) / p).toNat, done (w.afterSleeps (.int p) j) = false) →
        k = ((t + p - 1) / p).toNat) ∧
      (k ≤ w.sleepsLeft →
        ((∀ j < k, raised (w.afterSleeps (.int p) j) = none) →
          L (w.sleepsLeft + 1) 0 w = (.ok (), w.afterSleeps (.int p) k)) ∧
        ∀ i < k, ∀ f, (∀ j < i, raised (w.afterSleeps (.int p) j) = none) →
          raised (w.afterSleeps (.int p) i) = some f →
          L (w.sleepsLeft + 1) 0 w = (.error f, w.afterSleeps (.int p) i)) := by
  obtain ⟨k, hend, hle, hall⟩ := first_end hp t done w
  refine ⟨k, hend, hle, hall, fun hk => ⟨fun hr => ?_, fun i hi f hr hf => ?_⟩⟩
  · exact poll_ok hL hp.le hk hend hr (by omega)
  · exact poll_raised hL hp.le hk hend hi hr hf (by omega)

end Poll

end GraphProbe.Session

namespace GraphProbe.Subscription.Client

open Session

variable {p : Int}

/-- A sleep hands the world it leaves on, or ends the run with its fault. -/
theorem sleep_then (X : Sim Unit) (u : World) :
    (do sleep (.int p); X).run.run u = match (sleep (.int p)).run.run u with
      | (.ok _, u') => X.run.run u'
      | (.error f, u') => (.error f, u') := by
  rcases h : (sleep (.int p)).run.run u with ⟨_ | _, u'⟩
  · exact run_bind_error h
  · exact run_bind_ok h

/-- Raising the noticed failure ends the run with it, if there is one. -/
theorem raiseNoticed_then (X : Sim Unit) (u : World) :
    (do raiseNoticed; X).run.run u = match u.state.failure with
      | some f => (.error f, u)
      | none => X.run.run u := by
  rcases hf : u.state.failure with _ | f
  · exact run_bind_ok (raiseNoticed_run_none hf)
  · exact run_bind_error (raiseNoticed_run hf)

theorem pollOnce_int (c : Client) (hc : c.pollMs = .int p) (e : Int) :
    c.pollOnce (.int e) = (do sleep (.int p); pure (.int (e + p))) := by
  simp [pollOnce, hc, lift]

/-- The loop of an await for `n` answers within `t` milliseconds ends once `n > 0` answers
are buffered, and raises a noticed failure before each poll. -/
theorem awaitResponses_pollStep (c : Client) (hc : c.pollMs = .int p) (t n : Int) :
    PollStep (fun fuel e u =>
        (awaitResponses.loop c (.int t) (.int n) (.int 0) fuel (.int e)).run.run u) p t
      (fun u => decide (0 < n) && decide (n ≤ u.state.buffered)) (fun u => u.state.failure) := by
  intro fuel e u
  dsimp only
  rw [awaitResponses.loop, run_bind_ok (current_run u)]
  simp [lift, pollOnce_int c hc]
  -- the count, the answers buffered and the time left decide both sides alike
  split_ifs <;> first | rfl | omega | (rw [raiseNoticed_then, sleep_then]; rfl)

/-- The loop of a wait for a condition ends once the condition holds, and raises a noticed
failure before each poll when asked to surface failures. -/
theorem awaitCondition_pollStep (c : Client) (hc : c.pollMs = .int p) {T : Int}
    (hT : c.ackTimeoutMs = .int T) (cond : State → Bool) (surface : Bool) :
    PollStep (fun fuel e u => (awaitCondition.loop c cond surface fuel (.int e)).run.run u) p T
      (fun u => cond u.state) (fun u => if surface then u.state.failure else none) := by
  intro fuel e u
  dsimp only
  rw [awaitCondition.loop, run_bind_ok (current_run u)]
  -- a condition that holds ends the loop at once; without surfacing, the step goes straight
  -- to its sleep
  by_cases hcond : cond u.state = true
  · simp [hcond]
    rfl
  · cases surface <;> simp [hcond, lift, pollOnce_int c hc, hT]
    · split_ifs <;> first | rfl | omega | (rw [sleep_then]; rfl)
    · split_ifs <;> first | rfl | omega | (rw [raiseNoticed_then, sleep_then]; rfl)

/-- A wait for a condition is its loop, and then a check: a condition that still fails raises
the failure noticed, when failures are surfaced, and otherwise the timeout. -/
theorem awaitCondition_run (c : Client) (cond : State → Bool) (what : String) (surface : Bool)
    (w : World) :
    (c.awaitCondition cond what surface).run.run w =
      match (awaitCondition.loop c cond surface (w.sleepsLeft + 1) (.int 0)).run.run w with
      | (.ok _, u) =>
        (if cond u.state then .ok ()
          else .error ((if surface then u.state.failure else none).getD
            (Fault.fail ("Timeout: " ++ what))), u)
      | (.error f, u) => (.error f, u) := by
  unfold awaitCondition
  rw [run_bind_ok (get_run w)]
  rcases hl : (awaitCondition.loop c cond surface (w.sleepsLeft + 1) (.int 0)).run.run w
    with ⟨f | _, u⟩
  · exact run_bind_error hl
  rw [run_bind_ok hl, run_bind_ok (current_run u)]
  by_cases hcond : cond u.state = true
  · simp [hcond]
    rfl
  · cases surface
    · simp [hcond, failWith]
      rfl
    · rcases hf : u.state.failure with _ | f
      · simp [hcond, failWith, hf, raiseNoticed_run_none hf]
        rfl
      · simp [hcond, hf, raiseNoticed_run hf]
        rfl

/-- A wait that does not surface failures, whose condition holds within the sleeps of its
timeout, returns after the sleeps up to the first time the condition holds. -/
theorem awaitCondition_within (c : Client) (hp : 0 < p) (hc : c.pollMs = .int p) {T : Int}
    (hT : c.ackTimeoutMs = .int T) (cond : State → Bool) (what : String) {u : World}
    (hK : ((T + p - 1) / p).toNat ≤ u.sleepsLeft)
    (hmet : ∃ j ≤ ((T + p - 1) / p).toNat, cond (u.afterSleeps (.int p) j).state = true) :
    ∃ k ≤ ((T + p - 1) / p).toNat, (c.awaitCondition cond what false).run.run u =
      (.ok (), u.afterSleeps (.int p) k) := by
  obtain ⟨k, hend, hle, -, hrun⟩ := poll_outcome (awaitCondition_pollStep c hc hT cond false) hp u
  obtain ⟨j, hj, hcj⟩ := hmet
  have hloop := (hrun (hle.trans hK)).1 fun _ _ => rfl
  -- the loop ends at `k`: when the time is up there, `k` is all the sleeps of the timeout and
  -- no earlier than `j`, so the condition holds there too
  have hk : cond (u.afterSleeps (.int p) k).state = true := by
    rcases hend.1 with h | h
    · exact h
    · have hjk : k ≤ j := by
        by_contra hlt
        have hfalse : cond (u.afterSleeps (.int p) j).state = false := (hend.2 j (by omega)).1
        rw [hfalse] at hcj
        cases hcj
      have hKk : ((T + p - 1) / p).toNat ≤ k := by
        by_contra hlt
        exact absurd h (not_le.mpr ((limit_sleeps hp T).2 k (by omega)))
      rwa [show k = j by omega]
  refine ⟨k, hle, ?_⟩
  rw [awaitCondition_run, hloop]
  simp [hk]

/-- The polling discipline, for a poll interval of `p > 0` milliseconds.

An await for `n` answers within `t` milliseconds sleeps `k` times, for the first `k` after
which the time is up or `n > 0` answers are buffered: at most the sleeps of the whole
timeout, and all of them for `n ≤ 0`. When the sleeps left allow it, its loop returns after
exactly those sleeps if no failure is noticed before, and otherwise the await raises the
first failure noticed after the sleeps taken so far, and does nothing else.

A wait for a condition within the acknowledgement timeout `T` sleeps up to the first `k` at
which the condition holds or the time is up. Then it returns if the condition holds, and
otherwise fails with the failure noticed, when it surfaces failures, or with the timeout; a
failure it surfaces before ends it where it was noticed. -/
theorem polling_discipline (c : Client) (hp : 0 < p) (hc : c.pollMs = .int p) :
    (∀ (t n : Int) (w : World), ∃ k,
      FirstEnd w p t (fun u => decide (0 < n) && decide (n ≤ u.state.buffered)) k ∧
      k ≤ ((t + p - 1) / p).toNat ∧ (n ≤ 0 → k = ((t + p - 1) / p).toNat) ∧
      (k ≤ w.sleepsLeft →
        ((∀ j < k, (w.afterSleeps (.int p) j).state.failure = none) →
          (awaitResponses.loop c (.int t) (.int n) (.int 0) (w.sleepsLeft + 1) (.int 0)).run.run w =
            (.ok (), w.afterSleeps (.int p) k)) ∧
        ∀ i < k, ∀ f, (∀ j < i, (w.afterSleeps (.int p) j).state.failure = none) →
          (w.afterSleeps (.int p) i).state.failure = some f →
          ∀ stopAfter, w.state.started = true → w.state.stopped = false →
          (c.awaitResponses (.int t) (.int n) stopAfter).run.run w =
            (.error f, w.afterSleeps (.int p) i))) ∧
    (∀ T : Int, c.ackTimeoutMs = .int T →
      ∀ (cond : State → Bool) (what : String) (surface : Bool) (w : World), ∃ k,
      FirstEnd w p T (fun u => cond u.state) k ∧ k ≤ ((T + p - 1) / p).toNat ∧
      (k ≤ w.sleepsLeft →
        ((∀ j < k, surface = true → (w.afterSleeps (.int p) j).state.failure = none) →
          (c.awaitCondition cond what surface).run.run w =
            (if cond (w.afterSleeps (.int p) k).state then .ok ()
              else .error ((if surface then (w.afterSleeps (.int p) k).state.failure else none).getD
                (Fault.fail ("Timeout: " ++ what))), w.afterSleeps (.int p) k)) ∧
        (surface = true → ∀ i < k, ∀ f,
          (∀ j < i, (w.afterSleeps (.int p) j).state.failure = none) →
          (w.afterSleeps (.int p) i).state.failure = some f →
          (c.awaitCondition cond what surface).run.run w = (.error f, w.afterSleeps (.int p) i)))) := by
  refine ⟨fun t n w => ?_, fun T hT cond what surface w => ?_⟩
  · obtain ⟨k, hend, hle, hall, hrun⟩ := poll_outcome (awaitResponses_pollStep c hc t n) hp w
    refine ⟨k, hend, hle, fun hn => hall fun j _ => by simp; omega, fun hk => ⟨(hrun hk).1, ?_⟩⟩
    intro i hi f hr hf stopAfter hs hns
    rcases i with _ | i
    · -- a failure kept before the first poll is raised before the polling starts
      exact awaitResponses_raises c _ _ stopAfter hf
    · -- otherwise the loop raises it, and the stop that may follow is never reached
      rw [awaitResponses_run c _ _ stopAfter hs hns (hr 0 (by omega))]
      unfold awaitPolling
      rw [run_bind_ok (get_run w), run_bind_error ((hrun hk).2 _ hi f hr hf)]
  · obtain ⟨k, hend, hle, -, hrun⟩ :=
      poll_outcome (awaitCondition_pollStep c hc hT cond surface) hp w
    refine ⟨k, hend, hle, fun hk => ⟨fun hr => ?_, fun hsurf i hi f hr hf => ?_⟩⟩
    · have hloop := (hrun hk).1 fun j hj => by cases surface <;> simp [hr j hj]
      rw [awaitCondition_run, hloop]
    · have hloop := (hrun hk).2 i hi f (fun j hj => by simp [hsurf, hr j hj]) (by simp [hsurf, hf])
      rw [awaitCondition_run, hloop]

/-- Polling every 100 milliseconds, an await for no answers within 250 milliseconds sleeps
three times. -/
theorem await_nothing_sleeps_three :
    (0 : Int) < 100 ∧ ({ (default : Client) with pollMs := .int 100 } : Client).pollMs = .int 100 ∧
      ∃ k, k = 3 ∧ FirstEnd (World.start (.scripted {}) 1) 100 250
        (fun u => decide ((0 : Int) < 0) && decide (0 ≤ (u.state.buffered : Int))) k := by
  obtain ⟨k, hend, -, hall, -⟩ :=
    (polling_discipline { (default : Client) with pollMs := .int 100 } (by decide) rfl).1 250 0
      (World.start (.scripted {}) 1)
  exact ⟨by decide, rfl, k, (hall le_rfl).trans (by decide), hend⟩

end GraphProbe.Subscription.Client
