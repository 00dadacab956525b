import Mathlib
import GraphProbe.Proofs.Polling

/-!
# A reset renews the attempt

A reset stops the attempt when it runs: it sends the stop frame, closes the session and waits,
without surfacing failures, until the close is heard. Then it closes the session it holds,
and begins a fresh attempt with the next id, holding no session. It raises no failure that
was kept.

What a reset needs of the session is only what it asks of it (`TakesStop`): to take the stop
frame, to take the close and let the attempt hear of it within the acknowledgement timeout,
and to take a second close. The session's part of the world is not the client's to decide,
so these are hypotheses; they are stated whatever the client logged meanwhile, since logging
is all the client does between its calls on the session.

Design. The stop is a straight sequence of runs (`stop_takes`): its frame is the only one the
client sends, and its wait returns by `awaitCondition_within`. The reset itself has three
cases, by whether a session is held and whether the attempt runs; in every case the run ends
with the same renewal of the world. The main statement is `reset_renews`.
-/

namespace GraphProbe.Subscription.Client

open Session

/-- The stop message of the attempt with id `id`. -/
def stopMessage (id : Int) : Value := .obj [("type", .str "stop"), ("id", .int id)]

theorem stopMessage_writes (id : Int) : ∃ text, Json.write .plain (stopMessage id) = .ok text :=
  ⟨_, rfl⟩

/-- What the session `i` of `w` does with a stop: it takes the stop frame `text`, takes the
close that follows and lets the attempt hear of it within `K` sleeps of `ms`, and takes a
second close within those sleeps, whatever the client logged meanwhile. -/
structure TakesStop (w : World) (i : Nat) (text : String) (ms : Num) (K : Nat) : Prop where
  sent : ∀ l, ∃ u, (send i text).run.run { w with logs := l } = (.ok (), u)
  closed : ∀ l u l', (send i text).run.run { w with logs := l } = (.ok (), u) →
    ∃ u', (close i).run.run { u with logs := l' } = (.ok (), u') ∧
      ∃ j ≤ K, (u'.afterSleeps ms j).state.stopped = true
  closedAgain : ∀ l u l' u' j l'', (send i text).run.run { w with logs := l } = (.ok (), u) →
    (close i).run.run { u with logs := l' } = (.ok (), u') → j ≤ K →
    ∃ u'', (close i).run.run { u'.afterSleeps ms j with logs := l'' } = (.ok (), u'')

/-! ### Runs of the client's steps -/

theorem clientLog_run (text : String) (context : List (String × Value)) (u : World) :
    (clientLog text context).run.run u = (.ok (),
      { u with logs := u.logs ++ [LogRecord.ofKit "subscription.driver" .debug text context] }) :=
  rfl

/-- A call on the session that returns is a step of the client that returns. -/
theorem onSession_ok {α : Type} (msg : String) {m : Sim α} {u u' : World} {a : α}
    (h : m.run.run u = (.ok a, u')) : (onSession msg m).run.run u = (.ok a, u') := by
  show StateT.run (ExceptT.tryCatch m _) u = _
  simp only [ExceptT.tryCatch, ExceptT.mk, ExceptT.run, StateT.run_bind] at h ⊢
  rw [h]
  rfl

/-- A message that can be written is sent on the session the client holds. -/
theorem sendMessage_run {msg : Value} {text : String} {u : World} {i : Nat}
    (ht : Json.write .plain msg = .ok text) (hl : u.link = some i) :
    (sendMessage msg).run.run u =
      (onSession "Test setup failure - cannot send subscription message." (send i text)).run.run u := by
  unfold sendMessage
  simp only [ht, pure_bind]
  rw [run_bind_ok (get_run u)]
  simp only [hl]

/-! ### The stop a reset makes -/

section Stop

variable {p T : Int} {w : World} {i : Nat} {text : String}

/-- A stop of a running attempt, on a session that takes it and with the sleeps for the
wait left, returns having sent the stop frame and nothing else, still holding the session,
which then takes a second close. -/
theorem stop_takes (c : Client) (hp : 0 < p) (hc : c.pollMs = .int p)
    (hT : c.ackTimeoutMs = .int T) (hinit : w.state.initialized = true)
    (hns : w.state.stopped = false) (hl : w.link = some i)
    (ht : Json.write .plain (stopMessage w.state.id) = .ok text)
    (hs : TakesStop w i text (.int p) ((T + p - 1) / p).toNat)
    (hK : ((T + p - 1) / p).toNat ≤ w.sleepsLeft) :
    ∃ w₃, c.stop.run.run w = (.ok (), w₃) ∧ w₃.own = { w.own.sending i text with
        sleepsLeft := w₃.sleepsLeft } ∧
      ∃ u, (close i).run.run w₃ = (.ok (), u) := by
  -- the session's part, at the worlds the client hands it: each differs from the last only
  -- by one record logged
  obtain ⟨u₁, hu₁⟩ := hs.sent (w.logs ++ [LogRecord.ofKit "subscription.driver" .debug
    "sending stop message" [("subscription_id", .int w.state.id)]])
  obtain ⟨u₂, hu₂, hheard⟩ := hs.closed _ u₁ (u₁.logs ++ [LogRecord.ofKit "subscription.driver"
    .debug "closing web socket session" [("uri", .str c.uri)]]) hu₁
  have own₂ : u₂.own = w.own.sending i text := by
    have h₁ := own_sent hu₁
    rw [own_closed hu₂]
    exact h₁
  have hK₂ : ((T + p - 1) / p).toNat ≤ u₂.sleepsLeft := by
    rw [show u₂.sleepsLeft = w.sleepsLeft from congrArg OwnRecords.sleepsLeft own₂]
    exact hK
  obtain ⟨k, hk, hwait⟩ := awaitCondition_within c hp hc hT (·.stopped)
    "Connection was not stopped in time." hK₂ hheard
  obtain ⟨u₄, hu₄⟩ := hs.closedAgain _ u₁ _ u₂ k ((u₂.afterSleeps (.int p) k).logs ++
    [LogRecord.ofKit "subscription.driver" .debug "web socket session closed"
      [("uri", .str c.uri)]]) hu₁ hu₂ hk
  refine ⟨_, ?_, ?_, _, hu₄⟩
  · unfold stop
    rw [run_bind_ok (current_run w)]
    simp only [hinit, hns, Bool.not_true, Bool.false_eq_true, ↓reduceIte]
    rw [run_bind_ok (get_run w)]
    simp only [hl]
    rw [show Value.obj [("type", .str "stop"), ("id", .int w.state.id)] = stopMessage w.state.id
      from rfl]
    rw [run_bind_ok (clientLog_run _ _ w),
      run_bind_ok ((sendMessage_run ht (by exact hl)).trans (onSession_ok _ hu₁)),
      run_bind_ok (clientLog_run _ _ u₁), run_bind_ok (onSession_ok _ hu₂), run_bind_ok hwait,
      clientLog_run]
  · -- the sleeps of the wait take from the sleeps left and change nothing else of the client's
    have hsl : k ≤ u₂.sleepsLeft := hk.trans hK₂
    show (u₂.afterSleeps (.int p) k).own =
      { w.own.sending i text with sleepsLeft := (u₂.afterSleeps (.int p) k).sleepsLeft }
    rw [own_afterSleeps (by omega) hsl, own₂, sleepsLeft_afterSleeps (by omega) hsl]

end Stop

/-! ### The three cases of a reset -/

/-- `w'` is `u` renewed: a fresh attempt with the next id of `u` is the current one, no
session is held, the next id has moved on, and the sessions and the frames sent are those of
`u`. -/
def Renews (u w' : World) : Prop :=
  w'.state = State.fresh u.nextId ∧ w'.link = none ∧ w'.nextId = u.nextId + 1 ∧
    w'.links = u.links ∧ w'.sentNow = u.sentNow

section Cases

variable {w : World} {i : Nat}

/-- Without a session, and so with an attempt never initialized, a reset only renews. -/
theorem reset_unlinked (c : Client) (hl : w.link = none) (hinit : w.state.initialized = false) :
    ∃ w', c.reset.run.run w = (.ok (), w') ∧ Renews w w' := by
  unfold reset
  rw [run_bind_ok (current_run w)]
  simp only [hinit, Bool.false_and, Bool.false_eq_true, ↓reduceIte]
  rw [run_bind_ok (get_run w)]
  simp only [hl]
  refine ⟨_, rfl, ?_⟩
  simp [Renews, World.state]

/-- With a session and an attempt that does not run, a reset closes the session and renews. -/
theorem reset_idle (c : Client) (hl : w.link = some i)
    (hidle : (w.state.initialized && !w.state.stopped) = false) {u : World}
    (hu : (close i).run.run w = (.ok (), u)) :
    ∃ w', c.reset.run.run w = (.ok (), w') ∧ Renews u w' := by
  unfold reset
  rw [run_bind_ok (current_run w)]
  simp only [hidle, Bool.false_eq_true, ↓reduceIte]
  rw [run_bind_ok (get_run w)]
  simp only [hl]
  rw [run_bind_ok (onSession_ok _ hu)]
  refine ⟨_, rfl, ?_⟩
  simp [Renews, World.state]

/-- With a session and a running attempt, a reset stops it, closes the session again and
renews. -/
theorem reset_running (c : Client)
    (hrun : (w.state.initialized && !w.state.stopped) = true) {w₃ u : World}
    (hstop : c.stop.run.run w = (.ok (), w₃)) (hw₃ : w₃.link = some i)
    (hu : (close i).run.run w₃ = (.ok (), u)) :
    ∃ w', c.reset.run.run w = (.ok (), w') ∧ Renews u w' := by
  unfold reset
  rw [run_bind_ok (current_run w)]
  simp only [hrun, ↓reduceIte]
  rw [run_bind_ok hstop, run_bind_ok (get_run w₃)]
  simp only [hw₃]
  rw [run_bind_ok (onSession_ok _ hu)]
  refine ⟨_, rfl, ?_⟩
  simp [Renews, World.state]

end Cases

/-! ### The reset -/

/-- A reset from a reachable world, when the session the client holds (if any) takes what the
reset hands it and the sleeps of the stop's wait are left, returns, whatever failure was kept.
A fresh attempt with the next id is then the current one and no session is held. The stop
frame of the attempt, with its id, is the one frame sent, and exactly when the attempt ran;
the sessions end as a close of the session held leaves them, and are untouched when none is
held. A second reset only draws the id after that. -/
theorem reset_renews (c : Client) {p T : Int} (hp : 0 < p) (hc : c.pollMs = .int p)
    (hT : c.ackTimeoutMs = .int T) {w : World} (hw : Reachable c w)
    (hbudget : ((T + p - 1) / p).toNat ≤ w.sleepsLeft)
    (hsession : ∀ i, w.link = some i →
      if w.state.initialized && !w.state.stopped then
        ∀ text, Json.write .plain (stopMessage w.state.id) = .ok text →
          TakesStop w i text (.int p) ((T + p - 1) / p).toNat
      else ∃ u, (close i).run.run w = (.ok (), u)) :
    ∃ w', c.reset.run.run w = (.ok (), w') ∧
      w'.state = State.fresh w.nextId ∧ w'.link = none ∧ w'.nextId = w.nextId + 1 ∧
      (w.link = none → w'.links = w.links ∧ w'.sentNow = w.sentNow) ∧
      (∀ i, w.link = some i →
        (∃ u u', (close i).run.run u = (.ok (), u') ∧ w'.links = u'.links) ∧
        ∃ text, Json.write .plain (stopMessage w.state.id) = .ok text ∧
          w'.sentNow = w.sentNow ++
            (if w.state.initialized && !w.state.stopped then [(i, text)] else [])) ∧
      ∃ w'', c.reset.run.run w' = (.ok (), w'') ∧ w''.state = State.fresh (w.nextId + 1) ∧
        w''.link = none ∧ w''.links = w'.links ∧ w''.sentNow = w'.sentNow := by
  -- a renewed world holds no session and a fresh attempt, so a reset from it only renews
  have again : ∀ u w', Renews u w' → u.nextId = w.nextId →
      ∃ w'', c.reset.run.run w' = (.ok (), w'') ∧ w''.state = State.fresh (w.nextId + 1) ∧
        w''.link = none ∧ w''.links = w'.links ∧ w''.sentNow = w'.sentNow := by
    rintro u w' ⟨hst, hlk, hid, -, -⟩ hu
    obtain ⟨w'', hrun, hst', hlk', -, hlinks', hsent'⟩ :=
      reset_unlinked c hlk (by rw [hst]; rfl)
    exact ⟨w'', hrun, by rw [hst', hid, hu], hlk', hlinks', hsent'⟩
  obtain ⟨text, ht⟩ := stopMessage_writes w.state.id
  rcases hl : w.link with _ | i
  · -- no session is held, so the attempt was never initialized
    have hinit : w.state.initialized = false := by
      cases h : w.state.initialized
      · rfl
      · have hsome := consistent_of_reachable hw h
        rw [hl] at hsome
        cases hsome
    obtain ⟨w', hrun, hre⟩ := reset_unlinked c hl hinit
    have ⟨hst, hlk, hid, hlinks, hsent⟩ := hre
    exact ⟨w', hrun, hst, hlk, hid, fun _ => ⟨hlinks, hsent⟩, (fun _ h => by cases h),
      again w w' hre rfl⟩
  have hi := hsession i hl
  cases hr : (w.state.initialized && !w.state.stopped)
  · -- the attempt does not run: one close, and no frame
    rw [hr] at hi
    obtain ⟨u, hu⟩ := hi
    have hown := own_closed hu
    obtain ⟨w', hrun, hre⟩ := reset_idle c hl hr hu
    have ⟨hst, hlk, hid, hlinks, hsent⟩ := hre
    have hnext : u.nextId = w.nextId := congrArg OwnRecords.nextId hown
    refine ⟨w', hrun, hnext ▸ hst, hlk, hnext ▸ hid, (fun h => by cases h), fun i' hi' => ?_,
      again u w' hre hnext⟩
    cases hi'
    refine ⟨⟨w, u, hu, hlinks⟩, text, ht, ?_⟩
    simp only [Bool.false_eq_true, ↓reduceIte, List.append_nil]
    rw [hsent]
    exact congrArg OwnRecords.sentNow hown
  · -- the attempt runs: the stop, then a second close
    rw [hr] at hi
    simp only [Bool.and_eq_true, Bool.not_eq_eq_eq_not, Bool.not_true] at hr
    obtain ⟨w₃, hstop, hown₃, u, hu⟩ :=
      stop_takes c hp hc hT hr.1 hr.2 hl ht (hi text ht) hbudget
    have hown := (own_closed hu).trans hown₃
    obtain ⟨w', hrun, hre⟩ := reset_running c (by simp [hr]) hstop
      (congrArg OwnRecords.link hown₃ |>.trans hl) hu
    have ⟨hst, hlk, hid, hlinks, hsent⟩ := hre
    have hnext : u.nextId = w.nextId := congrArg OwnRecords.nextId hown
    refine ⟨w', hrun, hnext ▸ hst, hlk, hnext ▸ hid, (fun h => by cases h), fun i' hi' => ?_,
      again u w' hre hnext⟩
    cases hi'
    refine ⟨⟨w₃, u, hu, hlinks⟩, text, ht, ?_⟩
    simp only [↓reduceIte]
    rw [hsent]
    exact congrArg OwnRecords.sentNow hown

/-- A client polling every 100 milliseconds that leaves no time for an acknowledgement. -/
def hastyClient : Client := { (default : Client) with pollMs := .int 100, ackTimeoutMs := .int 0 }

/-- The world after `hastyClient` initialized on a network session: the connection init was
sent, and the wait for its acknowledgement timed out at once. -/
def hastyInit : World :=
  ((hastyClient.init none).run.run (World.start (.network (some {}) (.int 1)) 1)).2

/-- After an initialization on a network session whose wait for the acknowledgement timed
out, a reset stops the attempt, with the stop frame as the one frame sent, and renews it with
the next id. -/
theorem reset_renews_after_hasty_init :
    ∃ w', hastyClient.reset.run.run hastyInit = (.ok (), w') ∧ w'.state = State.fresh 2 ∧
      ∃ text, w'.sentNow = hastyInit.sentNow ++ [(0, text)] := by
  have hreach : Reachable hastyClient hastyInit := .step (.init none) (.start _ 1)
  have hlink : hastyInit.link = some 0 := rfl
  -- the network session takes the stop frame and both closes, and its close notice is heard
  -- at once
  have hsession : ∀ i, hastyInit.link = some i →
      if hastyInit.state.initialized && !hastyInit.state.stopped then
        ∀ text, Json.write .plain (stopMessage hastyInit.state.id) = .ok text →
          TakesStop hastyInit i text (.int 100) (((0 : Int) + 100 - 1) / 100).toNat
      else ∃ u, (close i).run.run hastyInit = (.ok (), u) := by
    intro i hi
    rw [hlink, Option.some.injEq] at hi
    subst hi
    have hruns : (hastyInit.state.initialized && !hastyInit.state.stopped) = true := rfl
    rw [if_pos hruns]
    intro text _
    refine ⟨fun l => ⟨_, rfl⟩, fun l u l' h => ?_, fun l u l' u' j l'' h h' hj => ?_⟩
    · have hu : u = ((send 0 text).run.run { hastyInit with logs := l }).2 := by rw [h]
      subst hu
      refine ⟨_, rfl, 0, le_rfl, ?_⟩
      rfl
    · have hu : u = ((send 0 text).run.run { hastyInit with logs := l }).2 := by rw [h]
      subst hu
      have hu' : u' = ((close 0).run.run { ((send 0 text).run.run { hastyInit with logs := l }).2
          with logs := l' }).2 := by rw [h']
      subst hu'
      obtain rfl : j = 0 := Nat.le_zero.mp hj
      exact ⟨_, rfl⟩
  obtain ⟨w', hrun, hst, -, -, -, hsess, -⟩ := reset_renews hastyClient (by decide)
    (rfl : hastyClient.pollMs = .int 100) (rfl : hastyClient.ackTimeoutMs = .int 0) hreach
    (by decide) hsession
  obtain ⟨-, text, -, hsent⟩ := hsess 0 rfl
  exact ⟨w', hrun, hst, text, hsent⟩

end GraphProbe.Subscription.Client
