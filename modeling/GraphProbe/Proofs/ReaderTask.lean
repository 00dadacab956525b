import GraphProbe.Proofs.ClientRuns

/-!
# The reader task of a session to an application

Once an application accepted a session, a reader task passes what the application sends to
the client's callback, one output at a time, until the application closes the session, the
callback raises, or the application has ended and nothing it sent is left. The application
puts its outputs on a queue; the reader takes the next one at once when the queue holds one or
the application has ended, and otherwise starts a getter on the queue and waits for the first
of the getter and the application's end. When the application ends first, the getter is
cancelled, which takes nothing, and the reader takes from the queue without waiting, so what
was sent just before the end still comes out.

`ReaderTask` is that state between two steps of the event loop: the queue, whether the
application has ended, where the reader is, the callback's calls, and everything the
application sent since it accepted. The application's steps (`AppStep`) and the reader's and
its getter's (`ReaderStep`) interleave in every order (`Reachable`).

What the reader owes the client is read off the outputs in order (`readFrom`): the text of
each send, bytes decoded as UTF-8, and nothing for a send that carries neither or for
anything else, up to the first close, the first bytes that are no UTF-8, or the first call
that raises. The callback may raise on any call, depending on every call before it.

`reader_delivers_in_order` is the main statement: in every interleaving the calls made are a
prefix of those owed, all of them once the reader has ended, and once the application has
ended the reader ends by its own steps, having made every call owed.

The world runs one of these interleavings: the reader takes everything a turn of the
application sent right after the turn. On a session a recorder watches, it makes there
exactly the calls `readFrom` owes (`readAll_run`).
-/

namespace GraphProbe.Session

open Site

/-! ### What the reader owes -/

section Owed

variable (raises : List String → Bool)

/-- The reader taking one output after the calls `made`: the calls made then, and whether it
reads on. `raises` says whether the callback raises on the last of the calls it is given. -/
def readOne (made : List String) : Outgoing → List String × Bool
  | .text t => (made ++ [t], !raises (made ++ [t]))
  | .bytes b =>
    match Utf8.decode b with
    | .ok t => (made ++ [t], !raises (made ++ [t]))
    | .error _ => (made, false)
  | .close _ => (made, false)
  | _ => (made, true)

/-- The reader taking outputs in order after the calls `made`: the calls made, and whether it
reads on past all of them. -/
def readFrom : List String → List Outgoing → List String × Bool
  | made, [] => (made, true)
  | made, o :: os => if (readOne raises made o).2 then readFrom (readOne raises made o).1 os
      else ((readOne raises made o).1, false)

theorem made_prefix_readOne (made : List String) (o : Outgoing) :
    made <+: (readOne raises made o).1 := by
  cases o <;> simp only [readOne, List.prefix_refl, List.prefix_append]
  split <;> simp

theorem made_prefix_readFrom (made : List String) (os : List Outgoing) :
    made <+: (readFrom raises made os).1 := by
  induction os generalizing made with
  | nil => exact List.prefix_refl _
  | cons o os ih =>
    simp only [readFrom]
    split
    · exact (made_prefix_readOne raises made o).trans (ih _)
    · exact made_prefix_readOne raises made o

theorem readFrom_singleton (made : List String) (o : Outgoing) :
    readFrom raises made [o] = readOne raises made o := by
  rcases hro : readOne raises made o with ⟨made', _ | _⟩ <;> simp [readFrom, hro]

/-- Reading on past `xs`, the reader reads `ys` after the calls `xs` gave. -/
theorem readFrom_append_of_reads {made : List String} {xs : List Outgoing}
    (h : (readFrom raises made xs).2 = true) (ys : List Outgoing) :
    readFrom raises made (xs ++ ys) = readFrom raises (readFrom raises made xs).1 ys := by
  induction xs generalizing made with
  | nil => rfl
  | cons o xs ih =>
    cases hgo : (readOne raises made o).2
    · simp [readFrom, hgo] at h
    · simp only [readFrom, hgo, List.cons_append, ↓reduceIte] at h ⊢
      exact ih h

/-- Stopping within `xs`, the reader never reads what follows. -/
theorem readFrom_append_of_stops {made : List String} {xs : List Outgoing}
    (h : (readFrom raises made xs).2 = false) (ys : List Outgoing) :
    readFrom raises made (xs ++ ys) = readFrom raises made xs := by
  induction xs generalizing made with
  | nil => simp [readFrom] at h
  | cons o xs ih =>
    cases hgo : (readOne raises made o).2
    · simp [readFrom, hgo]
    · simp only [readFrom, hgo, List.cons_append, ↓reduceIte] at h ⊢
      exact ih h

/-- Reading more outputs only adds calls. -/
theorem readFrom_prefix_append (made : List String) (xs ys : List Outgoing) :
    (readFrom raises made xs).1 <+: (readFrom raises made (xs ++ ys)).1 := by
  cases h : (readFrom raises made xs).2
  · exact (readFrom_append_of_stops raises h ys).symm ▸ List.prefix_refl _
  · rw [readFrom_append_of_reads raises h]
    exact made_prefix_readFrom raises _ ys

/-- Reading on past `xs` and then `o`. -/
theorem readFrom_append_singleton {made : List String} {xs : List Outgoing}
    (h : (readFrom raises made xs).2 = true) (o : Outgoing) :
    readFrom raises made (xs ++ [o]) = readOne raises (readFrom raises made xs).1 o := by
  rw [readFrom_append_of_reads raises h, readFrom_singleton]

end Owed

/-- A recorder's callback, which never raises. -/
def neverRaises : List String → Bool := fun _ => false

/-! ### The reader and the application, step by step -/

/-- Where the reader is: about to take the next output, waiting on the race between its getter
and the application's end (the getter holding the output it took, if any), or ended. -/
inductive ReaderPhase where
  | asking
  | waiting (took : Option Outgoing)
  | ended

/-- A session's reader, its application and the queue between them. -/
structure ReaderTask where
  queue : List Outgoing := []
  /-- Whether the application returned or raised. -/
  appDone : Bool := false
  phase : ReaderPhase := .asking
  /-- The callback's calls, in order. -/
  calls : List String := []
  /-- Everything the application sent since it accepted, in order. -/
  emitted : List Outgoing := []

namespace ReaderTask

/-- The output the getter took and the reader has not handled yet. -/
def held (r : ReaderTask) : List Outgoing :=
  match r.phase with
  | .waiting (some o) => [o]
  | _ => []

/-- The reader handles an output: it makes the output's call, if any, and asks for the next
one or ends. -/
def handle (raises : List String → Bool) (r : ReaderTask) (o : Outgoing) : ReaderTask :=
  { r with calls := (readOne raises r.calls o).1,
           phase := if (readOne raises r.calls o).2 then .asking else .ended }

/-- A step of the application: it sends an output while it runs, or it ends. -/
inductive AppStep : ReaderTask → ReaderTask → Prop
  | send {r : ReaderTask} (o : Outgoing) (h : r.appDone = false) :
      AppStep r { r with queue := r.queue ++ [o], emitted := r.emitted ++ [o] }
  | finish {r : ReaderTask} : AppStep r { r with appDone := true }

/-- A step of the reader or of its getter. -/
inductive ReaderStep (raises : List String → Bool) : ReaderTask → ReaderTask → Prop
  /-- Nothing is queued and the application runs: start a getter and wait. -/
  | wait {r : ReaderTask} (hp : r.phase = .asking) (hq : r.queue = []) (hd : r.appDone = false) :
      ReaderStep raises r { r with phase := .waiting none }
  /-- The getter takes the head of the queue. -/
  | take {r : ReaderTask} {o : Outgoing} {rest : List Outgoing} (hp : r.phase = .waiting none)
      (hq : r.queue = o :: rest) :
      ReaderStep raises r { r with phase := .waiting (some o), queue := rest }
  /-- The wait ends with the getter done: handle what it took. -/
  | got {r : ReaderTask} {o : Outgoing} (hp : r.phase = .waiting (some o)) :
      ReaderStep raises r (handle raises { r with phase := .asking } o)
  /-- The wait ends with the application done first: the getter is cancelled, taking nothing. -/
  | cancel {r : ReaderTask} (hp : r.phase = .waiting none) (hd : r.appDone = true) :
      ReaderStep raises r { r with phase := .asking }
  /-- Something is queued: take it without waiting and handle it. -/
  | next {r : ReaderTask} {o : Outgoing} {rest : List Outgoing} (hp : r.phase = .asking)
      (hq : r.queue = o :: rest) :
      ReaderStep raises r (handle raises { r with queue := rest } o)
  /-- Nothing is queued and the application has ended: the reader ends. -/
  | drained {r : ReaderTask} (hp : r.phase = .asking) (hq : r.queue = []) (hd : r.appDone = true) :
      ReaderStep raises r { r with phase := .ended }

/-- The states of a session after it was accepted, the application's steps and the reader's
interleaved in every order. -/
inductive Reachable (raises : List String → Bool) : ReaderTask → Prop
  | start : Reachable raises {}
  | app {r r' : ReaderTask} : Reachable raises r → AppStep r r' → Reachable raises r'
  | reader {r r' : ReaderTask} : Reachable raises r → ReaderStep raises r r' → Reachable raises r'

/-! ### The invariant -/

variable {raises : List String → Bool}

/-- What holds between any two steps: the application's outputs are those the reader took,
then the one its getter holds, then the queue; the calls are those owed for what it took; it
reads on past all of it unless it ended, and it ended only past an output it stops at or with
the application ended and nothing left. -/
def Sound (raises : List String → Bool) (r : ReaderTask) : Prop :=
  ∃ taken, r.emitted = taken ++ r.held ++ r.queue ∧ r.calls = (readFrom raises [] taken).1 ∧
    (r.phase = .ended → (readFrom raises [] taken).2 = false ∨ (r.appDone = true ∧ r.queue = [])) ∧
    (r.phase ≠ .ended → (readFrom raises [] taken).2 = true)

theorem start_sound : Sound raises {} :=
  ⟨[], rfl, rfl, by simp, fun _ => rfl⟩

theorem AppStep.sound {r r' : ReaderTask} (hs : Sound raises r) (h : AppStep r r') :
    Sound raises r' := by
  obtain ⟨taken, he, hc, hend, hon⟩ := hs
  cases h with
  | send o hd =>
    -- an ended reader with the application running stopped at an output
    refine ⟨taken, by simp [he, held], hc, fun hp => .inl ?_, hon⟩
    simpa [hd] using hend hp
  | finish =>
    exact ⟨taken, he, hc, fun hp => (hend hp).imp id fun h => ⟨rfl, h.2⟩, hon⟩

/-- Handling the next output of what the reader took keeps it sound. -/
theorem handle_sound {r : ReaderTask} {taken : List Outgoing} {o : Outgoing}
    (he : r.emitted = taken ++ [o] ++ r.queue) (hc : r.calls = (readFrom raises [] taken).1)
    (hon : (readFrom raises [] taken).2 = true) :
    Sound raises (handle raises r o) := by
  have hstep := readFrom_append_singleton raises hon o
  rw [← hc] at hstep
  refine ⟨taken ++ [o], ?_, by simp [handle, hstep], fun hp => .inl ?_, fun hp => ?_⟩
  · by_cases hgo : (readOne raises r.calls o).2 <;> simpa [handle, held, hgo] using he
  · by_cases hgo : (readOne raises r.calls o).2 <;> simp_all [handle]
  · by_cases hgo : (readOne raises r.calls o).2 <;> simp_all [handle]

theorem ReaderStep.sound {r r' : ReaderTask} (hs : Sound raises r) (h : ReaderStep raises r r') :
    Sound raises r' := by
  obtain ⟨taken, he, hc, hend, hon⟩ := hs
  cases h with
  | wait hp hq hd =>
    exact ⟨taken, by simpa [held, hp] using he, hc, by simp, fun _ => hon (by simp [hp])⟩
  | take hp hq =>
    exact ⟨taken, by simp [he, held, hp, hq], hc, by simp, fun _ => hon (by simp [hp])⟩
  | got hp =>
    exact handle_sound (by simpa [held, hp] using he) hc (hon (by simp [hp]))
  | cancel hp hd =>
    exact ⟨taken, by simpa [held, hp] using he, hc, by simp, fun _ => hon (by simp [hp])⟩
  | next hp hq =>
    exact handle_sound (by simpa [held, hp, hq] using he) hc (hon (by simp [hp]))
  | drained hp hq hd =>
    refine ⟨taken, by simpa [held, hp] using he, hc, fun _ => .inr ⟨hd, hq⟩, by simp⟩

theorem Reachable.sound {r : ReaderTask} (h : Reachable raises r) : Sound raises r := by
  induction h with
  | start => exact start_sound
  | app _ step ih => exact step.sound ih
  | reader _ step ih => exact step.sound ih

/-- The reader's steps keep the invariant. -/
theorem Sound.of_run {r r' : ReaderTask} (hs : Sound raises r)
    (h : Relation.ReflTransGen (ReaderStep raises) r r') : Sound raises r' := by
  induction h with
  | refl => exact hs
  | tail _ step ih => exact step.sound ih

/-! ### Delivery -/

/-- The calls made are a prefix of those owed for everything the application sent. -/
theorem Sound.calls_prefix {r : ReaderTask} (hs : Sound raises r) :
    r.calls <+: (readFrom raises [] r.emitted).1 := by
  obtain ⟨taken, he, hc, -, -⟩ := hs
  rw [hc, he, List.append_assoc]
  exact readFrom_prefix_append raises [] taken _

/-- Once the reader ended, it made every call owed. -/
theorem Sound.calls_of_ended {r : ReaderTask} (hs : Sound raises r) (hp : r.phase = .ended) :
    r.calls = (readFrom raises [] r.emitted).1 := by
  obtain ⟨taken, he, hc, hend, -⟩ := hs
  have hh : r.held = [] := by simp [held, hp]
  rcases hend hp with hstop | ⟨-, hq⟩
  · rw [hc, he, hh, List.append_nil, readFrom_append_of_stops raises hstop]
  · rw [hc, he, hh, hq, List.append_nil, List.append_nil]

/-- How far the reader is from its end once the application ended: two steps per queued
output, one to ask for it and one to handle it, and the steps left of the current one. -/
def remaining (r : ReaderTask) : Nat :=
  2 * r.queue.length + match r.phase with
    | .asking => 1
    | .waiting _ => 2
    | .ended => 0

/-- Once the application ended, the reader's own steps bring it to its end, the application's
outputs unchanged. -/
theorem reader_ends (raises : List String → Bool) {r : ReaderTask} (hd : r.appDone = true) :
    ∃ r', Relation.ReflTransGen (ReaderStep raises) r r' ∧ r'.phase = .ended ∧
      r'.emitted = r.emitted := by
  -- induction on how far the reader is from its end; every step of it comes closer
  induction hn : r.remaining using Nat.strong_induction_on generalizing r with
  | _ n ih =>
    have go : ∀ r', ReaderStep raises r r' → r'.appDone = true → r'.remaining < n →
        r'.emitted = r.emitted → ∃ r'', Relation.ReflTransGen (ReaderStep raises) r r'' ∧
          r''.phase = .ended ∧ r''.emitted = r.emitted := fun r' step hd' hlt hem => by
      obtain ⟨r'', hrun, hp, he⟩ := ih _ hlt hd' rfl
      exact ⟨r'', .head step hrun, hp, he.trans hem⟩
    cases hp : r.phase with
    | asking =>
      rcases hq : r.queue with _ | ⟨o, rest⟩
      · exact ⟨_, .single (.drained hp hq hd), rfl, rfl⟩
      · refine go _ (.next hp hq) hd ?_ rfl
        cases hgo : (readOne raises r.calls o).2 <;>
          simp only [remaining, handle, hgo, hq, ← hn, List.length_cons, Bool.false_eq_true,
            ↓reduceIte] <;> omega
    | waiting took =>
      cases took with
      | none => exact go _ (.cancel hp hd) hd (by simp [remaining, hp, ← hn]) rfl
      | some o =>
        refine go _ (.got hp) hd ?_ rfl
        by_cases hgo : (readOne raises r.calls o).2 <;> simp [remaining, handle, hgo, hp, ← hn]
    | ended => exact ⟨r, .refl, hp, rfl⟩

/-- Delivery by the reader, in every interleaving of the application's steps with the
reader's: the callback is called in the order the application sent, never more than once for
an output, and never for one not owed; when the reader has ended every call owed was made;
and once the application ended, the reader ends by its own steps, having made every call owed
for all the application sent, including what was still queued when it ended. -/
theorem reader_delivers_in_order (raises : List String → Bool) {r : ReaderTask}
    (h : Reachable raises r) :
    r.calls <+: (readFrom raises [] r.emitted).1 ∧
    (r.phase = .ended → r.calls = (readFrom raises [] r.emitted).1) ∧
    (r.appDone = true → ∃ r', Relation.ReflTransGen (ReaderStep raises) r r' ∧
      r'.phase = .ended ∧ r'.calls = (readFrom raises [] r.emitted).1) := by
  have hs := h.sound
  refine ⟨hs.calls_prefix, hs.calls_of_ended, fun hd => ?_⟩
  obtain ⟨r', hrun, hp, he⟩ := reader_ends raises hd
  -- the reader's steps keep the invariant
  exact ⟨r', hrun, hp, he ▸ (hs.of_run hrun).calls_of_ended hp⟩

/-- An application that sends a text and returns at once: the text is owed, and the reader,
though it took nothing before the application returned, still delivers it. -/
theorem text_sent_before_return :
    let r : ReaderTask := { queue := [.text "a"], appDone := true, emitted := [.text "a"] }
    Reachable neverRaises r ∧
    (r.calls <+: ["a"] ∧ (r.phase = .ended → r.calls = ["a"]) ∧
      (r.appDone = true → ∃ r', Relation.ReflTransGen (ReaderStep neverRaises) r r' ∧
        r'.phase = .ended ∧ r'.calls = ["a"])) := by
  intro r
  have h : Reachable neverRaises r := .app (.app .start (.send (.text "a") rfl)) .finish
  exact ⟨h, reader_delivers_in_order _ h⟩

end ReaderTask

/-! ### The reader as the world runs it -/

/-- Session `i` is watched by a recorder, and its reader reads or not. -/
def RecorderAt (i : Nat) (reading : Bool) (w : World) : Prop :=
  ∃ l, w.links[i]? = some l ∧ l.recorder = true ∧ l.peer.reading = reading

variable {i : Nat} {w : World} {r : Bool}

theorem linkAt_run {l : Link} (hl : w.links[i]? = some l) : (linkAt i).run.run w = (.ok l, w) := by
  unfold linkAt
  rw [run_bind_ok (get_run w)]
  simp [hl]
  rfl

theorem schedule_run (delayMs : Float) (ev : Event) :
    (schedule delayMs ev).run.run w = (.ok (), { w with
      queue := insertScheduled ⟨w.clock + delayMs, w.nextOrder, ev⟩ w.queue,
      nextOrder := w.nextOrder + 1 }) := rfl

theorem updatePeer_run (f : AppLink → AppLink) :
    (updatePeer i f).run.run w =
      (.ok (), { w with links := w.links.modify i fun l => { l with peer := f l.peer } }) := rfl

namespace RecorderAt

theorem modify (h : RecorderAt i r w) (f : AppLink → AppLink) {r' : Bool}
    (hf : ∀ p : AppLink, p.reading = r → (f p).reading = r') :
    RecorderAt i r' { w with links := w.links.modify i fun l => { l with peer := f l.peer } } := by
  obtain ⟨l, hl, hrec, hr⟩ := h
  exact ⟨{ l with peer := f l.peer }, by simp [Array.getElem?_modify, hl], hrec, hf _ hr⟩

/-- What the reader and the recorder are is read off the sessions alone. -/
theorem of_links (h : RecorderAt i r w) {w' : World} (hl : w'.links = w.links) :
    RecorderAt i r w' := by
  unfold RecorderAt
  rw [hl]
  exact h

theorem deliverNow_run (h : RecorderAt i r w) (t : String) :
    (deliverNow i t).run.run w = (.ok (), { w with received := w.received ++ [t] }) := by
  obtain ⟨l, hl, hrec, -⟩ := h
  unfold deliverNow
  rw [run_bind_ok (linkAt_run hl)]
  simp [hrec]
  rfl

theorem closeNow_run (h : RecorderAt i r w) :
    (closeNow i).run.run w = (.ok (), { w with closes := w.closes + 1 }) := by
  obtain ⟨l, hl, hrec, -⟩ := h
  unfold closeNow
  rw [run_bind_ok (linkAt_run hl)]
  simp [hrec]
  rfl

/-- The close notice leaves what the recorder received and the reader as they were. -/
theorem notifyClosed_run (h : RecorderAt i r w) :
    ∃ w', (notifyClosed i).run.run w = (.ok (), w') ∧ w'.received = w.received ∧
      RecorderAt i r w' := by
  obtain ⟨l, hl, hrec, hr⟩ := h
  unfold notifyClosed
  rw [run_bind_ok (linkAt_run hl)]
  by_cases hn : l.peer.notified
  · exact ⟨w, by simp [hn]; rfl, rfl, l, hl, hrec, hr⟩
  · have h' := RecorderAt.modify ⟨l, hl, hrec, hr⟩ (fun p => { p with notified := true }) fun _ hp => hp
    refine ⟨{ w with links := _, closes := w.closes + 1 }, ?_, rfl, h'⟩
    simp only [hn, Bool.not_false, if_true]
    rw [run_bind_ok (updatePeer_run _), h'.closeNow_run]

theorem stopReading_run (h : RecorderAt i r w) :
    ∃ w', (Application.stopReading i).run.run w = (.ok (), w') ∧ w'.received = w.received ∧
      RecorderAt i false w' := by
  have h' := h.modify (fun p => { p with reading := false }) fun _ _ => rfl
  obtain ⟨w', hrun, hrecv, hw'⟩ := h'.notifyClosed_run
  exact ⟨w', by unfold Application.stopReading; rw [run_bind_ok (updatePeer_run _), hrun], hrecv, hw'⟩

end RecorderAt

/-- The reader taking one output on a recorder's session: the recorder receives the call
`readOne` makes for it, and the reader reads on exactly when `readOne` does. -/
theorem read_run (h : RecorderAt i true w) (o : Outgoing) :
    ∃ w', (Application.read i o).run.run w = (.ok (), w') ∧
      w'.received = (readOne neverRaises w.received o).1 ∧
      RecorderAt i (readOne neverRaises w.received o).2 w' := by
  cases o with
  | accept sp => exact ⟨w, rfl, rfl, h⟩
  | text t => exact ⟨_, h.deliverNow_run t, rfl, h⟩
  | bytes b =>
    cases hd : Utf8.decode b with
    | ok t =>
      refine ⟨{ w with received := w.received ++ [t] }, by simp only [Application.read, hd,
        h.deliverNow_run], by simp [readOne, hd], ?_⟩
      simp only [readOne, hd, neverRaises, Bool.not_false]
      exact h.of_links rfl
    | error e =>
      obtain ⟨w', hrun, hrecv, hw'⟩ := h.stopReading_run
      exact ⟨w', by simp only [Application.read, hd, hrun], by simp [readOne, hd, hrecv],
        by simpa [readOne, hd] using hw'⟩
  | empty => exact ⟨w, rfl, rfl, h⟩
  | close c =>
    -- the application is told the session ended, then the reader stops
    have h₁ := h.modify (fun p => { p with inbox := p.inbox ++ [.disconnect (c.getD 1000)] })
      fun _ hp => hp
    simp only [Application.read]
    rw [run_bind_ok (updatePeer_run _), run_bind_ok (schedule_run _ _)]
    exact Exists.imp (fun w' hw => ⟨hw.1, by simp [readOne, hw.2.1], by simpa [readOne] using hw.2.2⟩)
      (h₁.of_links (by rfl)).stopReading_run

/-- A reader that stopped reads nothing more. -/
theorem readAll_idle (h : RecorderAt i false w) (os : List Outgoing) :
    (Application.readAll i os).run.run w = (.ok (), w) := by
  obtain ⟨l, hl, -, hr⟩ := h
  cases os with
  | nil => rfl
  | cons o os =>
    simp only [Application.readAll]
    rw [run_bind_ok (linkAt_run hl)]
    simp [hr]
    rfl

/-- The reader as the world runs it on a recorder's session: reading what an application sent
gives the recorder the calls `readFrom` owes for it with a callback that never raises, and
leaves the reader reading exactly when `readFrom` reads on. -/
theorem readAll_run (h : RecorderAt i true w) (os : List Outgoing) :
    ∃ w', (Application.readAll i os).run.run w = (.ok (), w') ∧
      w'.received = (readFrom neverRaises w.received os).1 ∧
      RecorderAt i (readFrom neverRaises w.received os).2 w' := by
  induction os generalizing w with
  | nil => exact ⟨w, rfl, rfl, h⟩
  | cons o os ih =>
    obtain ⟨l, hl, hrec, hr⟩ := h
    obtain ⟨w₁, hrun₁, hrecv₁, h₁⟩ := read_run ⟨l, hl, hrec, hr⟩ o
    -- the reader reads, takes `o`, and goes on with the rest
    have hstep : (Application.readAll i (o :: os)).run.run w =
        (Application.readAll i os).run.run w₁ := by
      simp only [Application.readAll]
      rw [run_bind_ok (linkAt_run hl)]
      simp only [hr, if_true]
      rw [run_bind_ok hrun₁]
    cases hgo : (readOne neverRaises w.received o).2
    · rw [hgo] at h₁
      exact ⟨w₁, by rw [hstep, readAll_idle h₁], by simp [readFrom, hgo, hrecv₁],
        by simpa [readFrom, hgo] using h₁⟩
    · rw [hgo] at h₁
      obtain ⟨w', hrun', hrecv', h'⟩ := ih h₁
      exact ⟨w', by rw [hstep, hrun'], by simp [readFrom, hgo, hrecv', hrecv₁],
        by simpa [readFrom, hgo, hrecv₁] using h'⟩

end GraphProbe.Session
