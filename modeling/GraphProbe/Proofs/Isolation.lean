import Mathlib
import GraphProbe.Proofs.ClientRuns

/-!
# Sessions serve the attempt they were opened for

A session is made for the attempt the client works on when it connects, and every frame and
close notice it hands over goes to that attempt (`deliverNow`, `closeNow`). A reset begins a
fresh attempt after all the others, so after a reset nothing an earlier session delivers
reaches the attempt the client works on.

Design. `Serving o w` says what the client and its sessions make of a world that was `o`: the
same current attempt, no attempt gone, every session serving what it served, and a session
made meanwhile serving the current attempt. As with `Fed`, every computation of the sessions
and every call of the client but a reset is given a triple `⦃Serving o⦄ m ⦃Serving o⦄`,
derived by `mvcgen` from those of the computations it calls. The relation is stated pointwise
on the sessions, so that `grind` closes what is left from the lemmas on arrays. The triples
are local to this module and take precedence here over the frame triples of `Fed`, which stay
the ones other modules see. A reset keeps what the sessions serve and moves to a fresh attempt
(`reset_serving`); `Kept` states both cases for every operation (`Op.run_kept`), and it keeps
`World.Isolating`, which therefore holds in every reachable world. The main statement is
`sessions_isolated`.
-/

namespace GraphProbe

open Std.Do Session Subscription

set_option mvcgen.warning false

/-- The attempts the sessions of a world serve, in the order the sessions were made. -/
def Session.World.served (w : World) : List Nat := w.links.toList.map (·.attempt)

/-- What a world was when a computation began: the attempts its sessions served, the attempt
the client worked on and how many attempts there were. -/
structure Session.Opened where
  served : List Nat
  current : Nat
  size : Nat

/-- The world's record of what was opened. -/
def Session.World.opened (w : World) : Opened := ⟨w.served, w.current, w.attempts.size⟩

/-- What the client and its sessions make of a world that was `o`: the current attempt is the
same, no attempt is gone, every session serves the attempt it served, and a session made
meanwhile serves the current attempt. -/
def Session.Serving (o : Opened) (w : World) : Prop :=
  w.current = o.current ∧ o.size ≤ w.attempts.size ∧
    (∀ k < o.served.length, (w.links[k]?).map (·.attempt) = o.served[k]?) ∧
    ∀ k l, o.served.length ≤ k → w.links[k]? = some l → l.attempt = o.current

@[local grind =]
theorem Session.serving_iff {o : Opened} {w : World} :
    Serving o w ↔ w.current = o.current ∧ o.size ≤ w.attempts.size ∧
      (∀ k < o.served.length, (w.links[k]?).map (·.attempt) = o.served[k]?) ∧
      ∀ k l, o.served.length ≤ k → w.links[k]? = some l → l.attempt = o.current := Iff.rfl

theorem Session.Serving.refl (w : World) : Serving w.opened w := by
  refine ⟨rfl, le_rfl, fun k _ => ?_, fun k l hk hl => ?_⟩
  · simp [World.opened, World.served]
  · have : k < w.links.size := by
      simp only [World.opened, World.served, List.length_map, Array.length_toList] at hk
      exact (Array.getElem?_eq_some_iff.mp hl).1
    simp [World.opened, World.served] at hk
    omega

/-- A computation that keeps `Serving o`, whether it returns or raises. -/
abbrev Session.KeepsServing (o : Opened) {α : Type} (m : Sim α) : Prop :=
  ⦃fun w => ⌜Serving o w⌝⦄ m
  ⦃post⟨fun _ w => ⌜Serving o w⌝, fun _ w => ⌜Serving o w⌝⟩⦄

variable (o : Opened)

@[local spec high]
theorem Session.linkAt_serving (i : Nat) : KeepsServing o (linkAt i) := by
  unfold linkAt
  mvcgen

@[local spec high]
theorem Session.log_serving (r : LogRecord) : KeepsServing o (log r) := by
  unfold log
  mvcgen

@[local spec high]
theorem Session.clientLog_serving (text : String) (context : List (String × Value)) :
    KeepsServing o (clientLog text context) := by
  unfold clientLog
  mvcgen

@[local spec high]
theorem Session.updateLink_serving (i : Nat) (g : Link → Link) :
    ⦃fun w => ⌜Serving o w ∧ ∀ l, (g l).attempt = l.attempt⌝⦄ updateLink i g
    ⦃post⟨fun _ w => ⌜Serving o w⌝, fun _ w => ⌜Serving o w⌝⟩⦄ := by
  unfold updateLink
  mvcgen
  grind

@[local spec high]
theorem Session.updateNet_serving (i : Nat) (g : NetLink → NetLink) :
    KeepsServing o (updateNet i g) := by
  unfold updateNet
  mvcgen
  grind

@[local spec high]
theorem Session.updatePeer_serving (i : Nat) (g : AppLink → AppLink) :
    KeepsServing o (updatePeer i g) := by
  unfold updatePeer
  mvcgen
  grind

@[local spec high]
theorem Session.schedule_serving (delayMs : Float) (ev : Event) :
    KeepsServing o (schedule delayMs ev) := by
  unfold schedule
  mvcgen

@[local spec high]
theorem Session.updateAttempt_serving (j : Nat) (g : State → State) :
    KeepsServing o (updateAttempt j g) := by
  unfold updateAttempt
  mvcgen
  grind

@[local spec high]
theorem Session.deliverNow_serving (i : Nat) (text : String) :
    KeepsServing o (deliverNow i text) := by
  unfold deliverNow
  mvcgen

@[local spec high]
theorem Session.closeNow_serving (i : Nat) : KeepsServing o (closeNow i) := by
  unfold closeNow
  mvcgen

@[local spec high]
theorem Session.notifyClosed_serving (i : Nat) : KeepsServing o (notifyClosed i) := by
  unfold notifyClosed
  mvcgen

@[local spec high]
theorem Session.Application.stopReading_serving (i : Nat) : KeepsServing o (stopReading i) := by
  unfold stopReading
  mvcgen

@[local spec high]
theorem Session.Application.read_serving (i : Nat) (out : Site.Outgoing) :
    KeepsServing o (read i out) := by
  unfold read
  mvcgen

@[local spec high]
theorem Session.Application.readAll_serving (i : Nat) (os : List Site.Outgoing) :
    KeepsServing o (readAll i os) := by
  induction os with
  | nil =>
    unfold readAll
    mvcgen
  | cons out os ih =>
    unfold readAll
    mvcgen [ih, -readAll_fed]

@[local spec high]
theorem Session.Application.afterTurn_serving (i : Nat) (out : List Site.Outgoing) :
    KeepsServing o (afterTurn i out) := by
  unfold afterTurn
  mvcgen

@[local spec high]
theorem Session.Application.turn_serving (i : Nat) : KeepsServing o (turn i) := by
  unfold turn
  mvcgen

@[local spec high]
theorem Session.Application.runTurns_serving (i fuel : Nat) : KeepsServing o (runTurns i fuel) := by
  induction fuel with
  | zero =>
    unfold runTurns
    mvcgen
  | succ fuel ih =>
    unfold runTurns
    mvcgen [ih, -runTurns_fed]

@[local spec high]
theorem Session.Application.run_serving (i : Nat) : KeepsServing o (run i) := by
  unfold run
  mvcgen

@[local spec high]
theorem Session.Application.wake_serving (i token : Nat) : KeepsServing o (wake i token) := by
  unfold wake
  mvcgen

@[local spec high]
theorem Session.Application.failConnect_serving {α : Type} (i : Nat) (f : Fault) :
    KeepsServing o (failConnect i f : Sim α) := by
  unfold failConnect
  mvcgen

@[local spec high]
theorem Session.Application.orFailConnect_serving {α : Type} (i : Nat) (uri : String) (r :
    Except Fault α) :
    KeepsServing o (orFailConnect i uri r) := by
  unfold orFailConnect
  mvcgen

@[local spec high]
theorem Session.Application.accept_serving (i : Nat) (l : Link) (a : Site.AppInstance)
    (out : List Site.Outgoing) : KeepsServing o (accept i l a out) := by
  unfold accept
  mvcgen

@[local spec high]
theorem Session.Application.connect_serving (i : Nat) : KeepsServing o (connect i) := by
  unfold connect
  mvcgen

@[local spec high]
theorem Session.Application.send_serving (i : Nat) (text : String) :
    KeepsServing o (send i text) := by
  unfold send
  mvcgen
  all_goals grind

@[local spec high]
theorem Session.Application.cancel_serving (i : Nat) : KeepsServing o (cancel i) := by
  unfold cancel
  mvcgen

@[local spec high]
theorem Session.Application.close_serving (i : Nat) : KeepsServing o (close i) := by
  unfold close
  mvcgen
  · grind
  -- the fault of an application that ended by raising is raised last
  intro w hw
  split <;> simp [hw]

@[local spec high]
theorem Session.runEvent_serving (ev : Event) : KeepsServing o (runEvent ev) := by
  cases ev <;>
  · unfold runEvent
    mvcgen

@[local spec high]
theorem Session.after_serving (delayMs : Float) (ev : Event) :
    KeepsServing o (after delayMs ev) := by
  unfold after
  mvcgen

@[local spec high]
theorem Session.runDue_serving (fuel : Nat) : KeepsServing o (runDue fuel) := by
  induction fuel with
  | zero =>
    unfold runDue
    mvcgen
  | succ fuel ih =>
    unfold runDue
    mvcgen [ih, -runDue_fed]

@[local spec high]
theorem Session.runAllDue_serving : KeepsServing o runAllDue := by
  unfold runAllDue
  mvcgen

@[local spec high]
theorem Session.sleep_serving (ms : Num) : KeepsServing o (sleep ms) := by
  unfold sleep
  mvcgen

@[local spec high]
theorem Session.advance_serving (ms : Float) : KeepsServing o (advance ms) := by
  unfold advance
  mvcgen

@[local spec high]
theorem Session.Scripted.connect_serving (i : Nat) : KeepsServing o (connect i) := by
  unfold connect
  mvcgen
  all_goals grind

@[local spec high]
theorem Session.Scripted.reply_serving (i : Nat) (r : Reply) : KeepsServing o (reply i r) := by
  unfold reply
  mvcgen

@[local spec high]
theorem Session.Scripted.send_serving (i : Nat) (text : String) : KeepsServing o (send i text) := by
  unfold send
  mvcgen
  -- the replies to the message run one after another, each keeping what the sessions keep
  case inv1 | inv2 => exact post⟨fun _ w => ⌜Serving o w⌝, fun _ w => ⌜Serving o w⌝⟩
  all_goals grind

@[local spec high]
theorem Session.Scripted.close_serving (i : Nat) : KeepsServing o (close i) := by
  unfold close
  mvcgen
  all_goals grind

@[local spec high]
theorem Session.Network.connect_serving (i : Nat) (endpoint : Option Endpoint) (timeout : Value) :
    KeepsServing o (connect i endpoint timeout) := by
  unfold connect
  mvcgen
  all_goals grind

@[local spec high]
theorem Session.Network.send_serving (i : Nat) (text : String) (reachable : Bool) :
    KeepsServing o (send i text reachable) := by
  unfold send
  mvcgen
  all_goals grind

@[local spec high]
theorem Session.Network.close_serving (i : Nat) : KeepsServing o (close i) := by
  unfold close
  mvcgen
  all_goals grind

/-- A session made now serves the current attempt. -/
@[local spec high]
theorem Session.newLink_serving (uri : String) (subprotocols : List String) (recorder : Bool) :
    KeepsServing o (newLink uri subprotocols recorder) := by
  unfold newLink
  mvcgen
  grind

@[local spec high]
theorem Session.connectLink_serving (i : Nat) : KeepsServing o (connectLink i) := by
  unfold connectLink
  mvcgen

@[local spec high]
theorem Session.connect_serving (uri : String) (subprotocols : List String) :
    KeepsServing o (connect uri subprotocols) := by
  unfold connect
  mvcgen

@[local spec high]
theorem Session.send_serving (i : Nat) (text : String) : KeepsServing o (send i text) := by
  unfold send
  mvcgen

@[local spec high]
theorem Session.close_serving (i : Nat) : KeepsServing o (close i) := by
  unfold close
  mvcgen

@[local spec high]
theorem Loader.load_serving (l : Loader) (name : String) :
    KeepsServing o (l.load name) := by
  unfold Loader.load
  mvcgen

@[local spec high]
theorem Subscription.Client.sendMessage_serving (message : Value) :
    KeepsServing o (sendMessage message) := by
  unfold sendMessage
  mvcgen [onSession]

@[local spec high]
theorem Subscription.Client.pollOnce_serving (c : Client) (elapsed : Value) :
    KeepsServing o (c.pollOnce elapsed) := by
  unfold pollOnce
  mvcgen
  all_goals grind

@[local spec high]
theorem Subscription.Client.awaitCondition_loop_serving (c : Client) (cond : State → Bool)
    (surface : Bool)
    (fuel : Nat) (elapsed : Value) :
    KeepsServing o (awaitCondition.loop c cond surface fuel elapsed) := by
  induction fuel generalizing elapsed with
  | zero =>
    unfold awaitCondition.loop
    mvcgen
  | succ fuel ih =>
    unfold awaitCondition.loop
    mvcgen [ih, -awaitCondition_loop_fed]
    all_goals grind

@[local spec high]
theorem Subscription.Client.awaitCondition_serving (c : Client) (cond : State → Bool) (what :
    String)
    (surface : Bool) : KeepsServing o (c.awaitCondition cond what surface) := by
  unfold awaitCondition
  mvcgen
  all_goals grind

@[local spec high]
theorem Subscription.Client.stop_serving (c : Client) : KeepsServing o c.stop := by
  unfold stop
  mvcgen [onSession]

@[local spec high]
theorem Subscription.Client.openSession_serving (c : Client) : KeepsServing o c.openSession := by
  unfold openSession
  mvcgen [onSession]

@[local spec high]
theorem Subscription.Client.init_serving (c : Client) (payload : Option Value) :
    KeepsServing o (c.init payload) := by
  unfold init
  mvcgen [updateCurrent]
  all_goals grind

@[local spec high]
theorem Subscription.Client.start_serving (c : Client) (resource : String) (vars : Option Value) :
    KeepsServing o (c.start resource vars) := by
  unfold start
  mvcgen [updateCurrent]
  all_goals grind

@[local spec high]
theorem Subscription.Client.awaitResponses_loop_serving (c : Client) (timeout count zero : Value)
    (fuel : Nat) (elapsed : Value) :
    KeepsServing o (awaitResponses.loop c timeout count zero fuel elapsed) := by
  induction fuel generalizing elapsed with
  | zero =>
    unfold awaitResponses.loop
    mvcgen
  | succ fuel ih =>
    unfold awaitResponses.loop
    mvcgen [ih, -awaitResponses_loop_fed]
    all_goals grind

theorem Subscription.Client.awaitResponses_serving (c : Client) (timeout count : Value)
    (stopAfter : Bool) :
    KeepsServing o (c.awaitResponses timeout count stopAfter) := by
  unfold awaitResponses
  mvcgen [updateCurrent]
  all_goals grind

theorem Subscription.Client.remaining_serving : KeepsServing o remaining := by
  unfold remaining
  mvcgen [updateCurrent]
  all_goals grind

/-- A reset that returns has moved the client to a fresh attempt, after all there were; the
sessions serve what they served. -/
theorem Subscription.Client.reset_serving (c : Client) :
    ⦃fun w => ⌜Serving o w⌝⦄ c.reset
    ⦃post⟨fun _ w => ⌜o.size ≤ w.current ∧ w.current < w.attempts.size ∧
        (∀ k < o.served.length, (w.links[k]?).map (·.attempt) = o.served[k]?) ∧
        ∀ k l, o.served.length ≤ k → w.links[k]? = some l → l.attempt = o.current⌝,
      fun _ w => ⌜Serving o w⌝⟩⦄ := by
  unfold reset
  -- after the fresh attempt is pushed the client works on it, so the last log is run as it is
  mvcgen [onSession, clientLog, log, -clientLog_serving, -clientLog_fed, -log_serving, -log_fed]
  all_goals grind

/-- A frame handed over by session `i` changes no attempt but the one the session serves,
whether it is handled or raises. -/
theorem Session.deliverNow_isolated (i : Nat) (text : String) (u : World) (l : Link)
    (hl : u.links[i]? = some l) :
    ⦃fun w => ⌜w = u⌝⦄ deliverNow i text
    ⦃post⟨fun _ w => ⌜∀ j ≠ l.attempt, w.attempts[j]? = u.attempts[j]?⌝,
      fun _ w => ⌜∀ j ≠ l.attempt, w.attempts[j]? = u.attempts[j]?⌝⟩⦄ := by
  unfold deliverNow
  mvcgen [linkAt, updateAttempt, -linkAt_serving, -linkAt_fed, -updateAttempt_serving,
    -updateAttempt_fed]
  all_goals grind

/-- A close notice from session `i` changes no attempt but the one the session serves. -/
theorem Session.closeNow_isolated (i : Nat) (u : World) (l : Link) (hl : u.links[i]? = some l) :
    ⦃fun w => ⌜w = u⌝⦄ closeNow i
    ⦃post⟨fun _ w => ⌜∀ j ≠ l.attempt, w.attempts[j]? = u.attempts[j]?⌝,
      fun _ w => ⌜∀ j ≠ l.attempt, w.attempts[j]? = u.attempts[j]?⌝⟩⦄ := by
  unfold closeNow
  mvcgen [linkAt, updateAttempt, -linkAt_serving, -linkAt_fed, -updateAttempt_serving,
    -updateAttempt_fed]
  all_goals grind

/-- What an operation makes of a world that was `o`: the client works on the same attempt, or
on a fresh one after all that were there; no attempt is gone, every session serves the
attempt it served, and a session made meanwhile serves the attempt that was current. -/
def Subscription.Kept (o : Opened) (w : World) : Prop :=
  (w.current = o.current ∨ o.size ≤ w.current ∧ w.current < w.attempts.size) ∧
    o.size ≤ w.attempts.size ∧
    (∀ k < o.served.length, (w.links[k]?).map (·.attempt) = o.served[k]?) ∧
    ∀ k (l : Link), o.served.length ≤ k → w.links[k]? = some l → l.attempt = o.current

theorem Subscription.Kept.of_serving {o : Opened} {w : World} (h : Serving o w) : Kept o w :=
  ⟨.inl h.1, h.2.1, h.2.2⟩

/-- Every operation keeps what the sessions serve; all but a reset keep the current attempt,
and a reset moves to a later one. -/
theorem Subscription.Op.run_kept (c : Client) (op : Op) (w : World) :
    Kept w.opened ((op.run c).run.run w).2 := by
  have serving : ∀ {α : Type} {m : Sim α}, KeepsServing w.opened m →
      Kept w.opened (m.run.run w).2 :=
    fun hm => .of_serving (run_keeps hm (Serving.refl w))
  cases op with
  | init p => exact serving (Client.init_serving _ c p)
  | start r vars => exact serving (Client.start_serving _ c r vars)
  | stop => exact serving (Client.stop_serving _ c)
  | reset =>
    have h := run_of_triple (Client.reset_serving w.opened c) (Serving.refl w)
    simp only [Op.run]
    generalize c.reset.run.run w = p at h ⊢
    rcases p with ⟨_ | _, w'⟩
    · exact .of_serving h
    · obtain ⟨hs, hn, hk, hl⟩ := h
      exact ⟨.inr ⟨hs, hn⟩, hs.trans hn.le, hk, hl⟩
  | await t n b =>
    rw [Op.run, run_discard]
    exact serving (Client.awaitResponses_serving _ c t n b)
  | remaining =>
    rw [Op.run, run_discard]
    exact serving (Client.remaining_serving _)
  | deliver i text => exact serving (deliverNow_serving _ i text)
  | serverClose i => exact serving (closeNow_serving _ i)
  | advance ms => exact serving (advance_serving _ ms)

/-- What isolation rests on in a reachable world: the current attempt is there, and no
session serves a later one. -/
def Session.World.Isolating (w : World) : Prop :=
  w.current < w.attempts.size ∧
    ∀ (k : Nat) (l : Link), w.links[k]? = some l → l.attempt ≤ w.current

theorem Session.World.Isolating.kept {w w' : World} (hw : w.Isolating) (hk : Kept w.opened w') :
    w'.Isolating := by
  obtain ⟨hc, hl⟩ := hw
  obtain ⟨hcur, hn, hold, hnew⟩ := hk
  simp only [World.opened, World.served, List.length_map, Array.length_toList,
    List.getElem?_map, Array.getElem?_toList] at hcur hn hold hnew
  refine ⟨?_, fun k l hkl => ?_⟩
  · omega
  · by_cases hk : k < w.links.size
    · -- a session of before serves what it served, no later than the current attempt then
      have h := hold k hk
      rw [hkl] at h
      obtain ⟨l₀, hl₀, he⟩ : ∃ l₀, w.links[k]? = some l₀ ∧ l₀.attempt = l.attempt := by
        cases hw' : w.links[k]? with
        | none => simp [hw'] at h
        | some l₀ =>
          simp only [hw', Option.map_some, Option.some.injEq] at h
          exact ⟨l₀, rfl, h.symm⟩
      have := hl k l₀ hl₀
      omega
    · have := hnew k l (by omega) hkl
      omega

theorem Session.World.Isolating.start (server : Server) (firstId : Int) :
    (World.start server firstId).Isolating :=
  ⟨by simp [World.start], fun k l h => by simp [World.start] at h⟩

theorem Subscription.isolating_of_reachable {c : Client} {w : World} (h : Reachable c w) :
    w.Isolating :=
  h.invariant World.Isolating.start fun op w hw => hw.kept (op.run_kept c w)

/-- A session's attempt seen through the world's record of its sessions. -/
theorem Subscription.opened_served {w : World} {k : Nat} {l : Link} (h : w.links[k]? = some l) :
    k < w.opened.served.length ∧ w.opened.served[k]? = some l.attempt := by
  simp only [World.opened, World.served, List.length_map, Array.length_toList,
    List.getElem?_map, Array.getElem?_toList, h, Option.map_some]
  exact ⟨(Array.getElem?_eq_some_iff.mp h).1, trivial⟩

/-- A session that serves an earlier attempt serves an earlier one after every operation. -/
theorem Subscription.Kept.earlier {w w' : World} (hk : Kept w.opened w') (hw : w.Isolating) {k :
    Nat}
    {l l' : Link} (hl : w.links[k]? = some l) (hlt : l.attempt < w.current)
    (hl' : w'.links[k]? = some l') : l'.attempt < w'.current := by
  obtain ⟨hcur, -, hold, -⟩ := hk
  obtain ⟨hkk, hs⟩ := opened_served hl
  have h := hold k hkk
  rw [hl', hs, Option.map_some, Option.some.injEq] at h
  simp only [World.opened] at hcur
  have := hw.1
  omega

/-- A reset that returns moves to an attempt that no session serves. -/
theorem Subscription.reset_unserved {c : Client} {w w' : World} (hw : w.Isolating)
    (hr : c.reset.run.run w = (.ok (), w')) :
    ∀ (k : Nat) (l : Link), w'.links[k]? = some l → l.attempt < w'.current := by
  have h := run_of_triple (Client.reset_serving w.opened c) (Serving.refl w)
  rw [hr] at h
  obtain ⟨hs, -, hold, hnew⟩ := h
  simp only [World.opened] at hs hnew
  intro k l hl
  by_cases hk : k < w.opened.served.length
  · -- a session of before serves what it served, no later than the attempt then current
    have h := hold k hk
    rw [hl] at h
    simp only [World.opened, World.served, List.getElem?_map, Array.getElem?_toList] at h
    cases hw' : w.links[k]? with
    | none => simp [hw'] at h
    | some l₀ =>
      simp only [hw', Option.map_some, Option.some.injEq] at h
      have := hw.2 k l₀ hw'
      have := hw.1
      omega
  · have := hnew k l (by simpa [World.opened] using hk) hl
    have := hw.1
    omega

/-- Sessions are isolated across resets. A frame or a close notice from a session changes no
attempt but the one it serves; every operation keeps the attempt each session serves, and a
session made meanwhile serves the attempt current then; a reset that returns moves to an
attempt no session serves; and a session that serves an earlier attempt than the current
one does so after every operation, so nothing it delivers reaches the current attempt. -/
theorem Subscription.sessions_isolated {c : Client} {w : World} (hw : Reachable c w) :
    (∀ i (l : Link), w.links[i]? = some l → ∀ j, j ≠ l.attempt →
      (∀ text, ((deliverNow i text).run.run w).2.attempts[j]? = w.attempts[j]?) ∧
      ((closeNow i).run.run w).2.attempts[j]? = w.attempts[j]?) ∧
    (∀ op : Op, Kept w.opened ((op.run c).run.run w).2) ∧
    (∀ w', c.reset.run.run w = (.ok (), w') →
      ∀ (k : Nat) (l : Link), w'.links[k]? = some l → l.attempt < w'.current) ∧
    (∀ (op : Op) (k : Nat) (l l' : Link), w.links[k]? = some l → l.attempt < w.current →
      ((op.run c).run.run w).2.links[k]? = some l' →
        l'.attempt < ((op.run c).run.run w).2.current) := by
  have hi := isolating_of_reachable hw
  refine ⟨fun i l hl j hj => ⟨fun text => ?_, ?_⟩, fun op => op.run_kept c w,
    fun w' hr => reset_unserved hi hr, fun op k l l' hl hlt hl' =>
      (op.run_kept c w).earlier hi hl hlt hl'⟩
  · have h := run_of_triple (deliverNow_isolated i text w l hl) rfl
    generalize (deliverNow i text).run.run w = p at h ⊢
    rcases p with ⟨_ | _, w'⟩ <;> exact h j hj
  · have h := run_of_triple (closeNow_isolated i w l hl) rfl
    generalize (closeNow i).run.run w = p at h ⊢
    rcases p with ⟨_ | _, w'⟩ <;> exact h j hj

/-- After an initialization and a reset, the session the initialization opened outlives the
reset: it serves the first attempt while the client works on the second, and a frame it
delivers leaves the second attempt as it was. -/
theorem Subscription.sessions_isolated_after_reset :
    let w := ((Op.reset.run default).run.run
      (((Op.init none).run default).run.run (World.start (.scripted {}) 1)).2).2
    Reachable default w ∧ w.current = 1 ∧ ∃ l, w.links[0]? = some l ∧ l.attempt = 0 ∧
      ∀ text, ((deliverNow 0 text).run.run w).2.attempts[1]? = w.attempts[1]? := by
  intro w
  have hw : Reachable default w := .step .reset (.step (.init none) (.start _ 1))
  have hcur : w.current = 1 := by rfl
  have hserved : (w.links[0]?).map (·.attempt) = some 0 := by rfl
  obtain ⟨l, hl, hatt⟩ := Option.map_eq_some_iff.mp hserved
  obtain ⟨hframes, -, -, -⟩ := sessions_isolated hw
  exact ⟨hw, hcur, l, hl, hatt, fun text => (hframes 0 l hl 1 (by omega)).1 text⟩

end GraphProbe
