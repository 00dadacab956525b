import Mathlib
import GraphProbe.Proofs.Sessions

/-!
# The answers a client takes

The client takes answers from the buffer of the attempt it works on in two calls: an await
polls, and then takes a count of them; `remaining` takes all that are left once the attempt
was stopped. Meanwhile the sessions go on handing frames to the attempt.

Design. `Drained v rs w` says that `w` was reached from a world the client held as `v` by
calls of the sessions and then one drain of the current attempt, which answered `rs`. An
await and `remaining` end in such a world when they answer and in a world the sessions made
(`Fed`) when they fail, so a failed call takes nothing. With `taken_run` this gives the main
statement, `answers_conserved`: over every interleaving of the two sides, what all the drains
took, in order, followed by what is still buffered, is what was buffered before followed by
every answer a call offered while the attempt was open, and the answers offered are those
of the data and error frames that carry a payload.
-/

namespace GraphProbe.Session

open Std.Do Subscription

/-- Replacing the current attempt by what a drain leaves of it makes that the current attempt,
also when the index names no attempt: a default attempt buffers nothing. -/
theorem World.state_drained (w : World) (k : Option Int) :
    { w with attempts := w.attempts.modify w.current fun _ => (w.state.drain k).2 }.state =
      (w.state.drain k).2 := by
  simp only [World.state, Array.getElem?_modify]
  by_cases h : w.current < w.attempts.size
  · simp [h]
  · have hr : (default : State).responses = [] := rfl
    simp [h, State.drain, hr]
    rfl

/-- The world after the sessions' calls on a world the client held as `v` and one drain of the
current attempt that answered `rs`. -/
def Drained (v : ClientView) (rs : List Response) (w : World) : Prop :=
  ∃ u k, Fed v u ∧ w.current = u.current ∧ w.link = u.link ∧ u.state.drain k = (rs, w.state)

/-- A call that answers by one drain and otherwise fails as the sessions leave it took its
answers, if any, by one drain after the sessions' calls, and took nothing when it failed. -/
theorem takes_of_triple {m : Sim (List Response)}
    (h : ∀ v, ⦃fun w => ⌜Fed v w⌝⦄ m ⦃post⟨fun rs w => ⌜Drained v rs w⌝, fun _ w => ⌜Fed v w⌝⟩⦄)
    (w : World) :
    match m.run.run w with
    | (.ok rs, w') => ∃ u k, w.state.Heard u ∧ u.drain k = (rs, w'.state)
    | (.error _, w') => w.state.Heard w'.state := by
  have hm := run_of_triple (h w.view) (Fed.refl w)
  generalize m.run.run w = p at hm ⊢
  rcases p with ⟨_ | rs, w'⟩
  · exact hm.state
  · obtain ⟨u, k, hu, -, -, hk⟩ := hm
    exact ⟨u.state, k, hu.state, hk⟩

end GraphProbe.Session

namespace GraphProbe.Subscription.Client

open Std.Do Session

set_option mvcgen.warning false

@[spec] theorem awaitResponses_loop_fed (c : Client) (timeout count zero : Value) (fuel : Nat)
    (elapsed : Value) (v : ClientView) :
    ⦃fun w => ⌜Fed v w⌝⦄ awaitResponses.loop c timeout count zero fuel elapsed
    ⦃post⟨fun _ w => ⌜Fed v w⌝, fun _ w => ⌜Fed v w⌝⟩⦄ := by
  induction fuel generalizing elapsed with
  | zero => mvcgen [awaitResponses.loop]
  | succ fuel ih =>
    mvcgen [awaitResponses.loop, ih]
    all_goals grind

/-- An await that answers took its answers by one drain after the sessions' calls; one that
fails took nothing. -/
theorem awaitResponses_drained (c : Client) (timeout count : Value) (stopAfter : Bool)
    (v : ClientView) :
    ⦃fun w => ⌜Fed v w⌝⦄ c.awaitResponses timeout count stopAfter
    ⦃post⟨fun rs w => ⌜Drained v rs w⌝, fun _ w => ⌜Fed v w⌝⟩⦄ := by
  mvcgen [awaitResponses, updateCurrent, updateAttempt, clientLog, log]
  -- a branch that answers drains the world the client read last; one that fails ends in a
  -- world the sessions made
  all_goals first
    | casesm* _ ∧ _
      subst_vars
      refine ⟨_, _, ‹Fed v _›, ?_, ?_, Prod.ext rfl (World.state_drained _ _).symm⟩ <;> rfl
    | grind

/-- `remaining` that answers took its answers by one drain after the sessions' calls; one that
fails took nothing. -/
theorem remaining_drained (v : ClientView) :
    ⦃fun w => ⌜Fed v w⌝⦄ remaining
    ⦃post⟨fun rs w => ⌜Drained v rs w⌝, fun _ w => ⌜Fed v w⌝⟩⦄ := by
  mvcgen [remaining, updateCurrent, updateAttempt]
  all_goals first
    | casesm* _ ∧ _
      subst_vars
      refine ⟨_, _, ‹Fed v _›, ?_, ?_, Prod.ext rfl (World.state_drained _ _).symm⟩ <;> rfl
    | grind

end GraphProbe.Subscription.Client

namespace GraphProbe.Subscription

/-- A frame reads as an answer exactly when it is an object of type data or error whose
payload is there and not null; the answer is made of that payload. -/
theorem ofText_eq_answer {text : String} {r : Response} :
    ServerMessage.ofText text = .ok (.answer r) ↔ ∃ fs p, Response.decode text = .ok (.obj fs) ∧
      (fs.lookup "type" = some (.str "data") ∨ fs.lookup "type" = some (.str "error")) ∧
      fs.lookup "payload" = some p ∧ p ≠ .null ∧ Response.make (answerPayload p) = .ok r := by
  unfold ServerMessage.ofText
  rcases Response.decode text with e | v
  · simp [bind, Except.bind]
  cases v
  all_goals simp [bind, Except.bind, pure, Except.pure]
  -- an object: its type decides, then its payload
  split
  case h_5 ht | h_6 ht =>
    split
    case h_3 hn hp => split <;> simp_all
    all_goals (rename_i hp; simp [ht, hp, throw, throwThe, MonadExceptOf.throw])
  case h_7 hdata herr ht =>
    simp only [ht, Option.some.injEq, Except.ok.injEq, reduceCtorEq, false_iff, not_and]
    rintro (h | h)
    exacts [(hdata h).elim, (herr h).elim]
  all_goals (rename_i ht; simp [ht, throw, throwThe, MonadExceptOf.throw])

theorem mem_frameAnswer {text : String} {r : Response} :
    r ∈ frameAnswer text ↔ ServerMessage.ofText text = .ok (.answer r) := by
  unfold frameAnswer
  split
  case h_1 r' h => simp [h, eq_comm]
  case h_2 h => simpa using fun h' => h r h'

/-- Nothing is lost, duplicated or reordered, however the client and the sessions interleave
their calls on an attempt. A frame offers an answer exactly when it is a data or error frame
with a payload that is not null. What the drains of any run of calls took, in order, followed
by what is still buffered, is what was buffered before followed by every answer offered while
the attempt was open. An await, and a call for what remains, take their answers by one drain
after calls of the sessions, and take nothing when they fail. -/
theorem answers_conserved :
    (∀ (text : String) (r : Response), r ∈ (Call.dispatch text).offer ↔
      ∃ fs p, Response.decode text = .ok (.obj fs) ∧
        (fs.lookup "type" = some (.str "data") ∨ fs.lookup "type" = some (.str "error")) ∧
        fs.lookup "payload" = some p ∧ p ≠ .null ∧ Response.make (answerPayload p) = .ok r) ∧
    (∀ (s : State) (cs : List Call),
      taken (s.run cs).1 ++ (s.run cs).2.responses = s.responses ++ s.accepted cs) ∧
    (∀ (c : Client) (timeout count : Value) (stopAfter : Bool) (w : Session.World),
      match (c.awaitResponses timeout count stopAfter).run.run w with
      | (.ok rs, w') => ∃ u k, w.state.Heard u ∧ u.drain k = (rs, w'.state)
      | (.error _, w') => w.state.Heard w'.state) ∧
    (∀ w : Session.World,
      match Client.remaining.run.run w with
      | (.ok rs, w') => ∃ u k, w.state.Heard u ∧ u.drain k = (rs, w'.state)
      | (.error _, w') => w.state.Heard w'.state) :=
  ⟨fun _ _ => mem_frameAnswer.trans ofText_eq_answer, State.taken_run,
    fun c timeout count stopAfter =>
      Session.takes_of_triple (c.awaitResponses_drained timeout count stopAfter),
    Session.takes_of_triple Client.remaining_drained⟩

end GraphProbe.Subscription
