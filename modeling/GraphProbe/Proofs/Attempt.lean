import GraphProbe.Subscription.Frame

/-!
# Runs of calls on an attempt

The client and the session that delivers frames share one attempt, and each of their calls
runs whole under the attempt's lock. Whatever the order in which the two sides interleave,
the attempt therefore goes through a sequence of calls, `State.run`, and the laws below hold
for every such sequence, from every state.

Design. `call_step` says once what a single call can do to an attempt (`Step`): turn one flag
on (started only when initialized), keep the first failure, buffer one answer while the
attempt is open, take answers from the front of the buffer, or nothing. Every law of a run
is then a case analysis over `Step` and an induction over the calls.

Main results:

* flags only turn on (`flag_run`), and an attempt reached from a fresh one has started only
  once it was initialized (`started_run_fresh`);
* appending answers whether the attempt had ended, and once it has ended every later append
  is refused (`append_refused_run`);
* the failure kept is the one the attempt had, else the first one any call recorded
  (`failure_run`);
* nothing is lost, duplicated or reordered: what the drains took, in order, followed by
  what is still buffered, is what was buffered before followed by every answer that a
  call offered while the attempt was open (`taken_run`).
-/

namespace GraphProbe.Subscription

namespace State

variable {s t : State} {f g : Flag}

/-! ### Flags -/

@[simp] theorem flag_mark (s : State) (f g : Flag) :
    (s.mark f).flag g = (s.flag g || decide (f = g)) := by
  cases f <;> cases g <;> simp [mark, flag]

@[simp] theorem mark_responses (s : State) (f : Flag) : (s.mark f).responses = s.responses := by
  cases f <;> rfl

@[simp] theorem mark_failure (s : State) (f : Flag) : (s.mark f).failure = s.failure := by
  cases f <;> rfl

@[simp] theorem mark_id (s : State) (f : Flag) : (s.mark f).id = s.id := by
  cases f <;> rfl

@[simp] theorem flag_with_responses (s : State) (rs : List Response) (f : Flag) :
    ({ s with responses := rs } : State).flag f = s.flag f := by
  cases f <;> rfl

theorem ended_eq (s : State) : s.ended = (s.flag .stopped || s.flag .completed) := rfl

@[simp] theorem recordFailure_flag (s : State) (e : Fault) (g : Flag) :
    (s.recordFailure e).flag g = s.flag g := by
  unfold recordFailure; split <;> rfl

@[simp] theorem recordFailure_responses (s : State) (e : Fault) :
    (s.recordFailure e).responses = s.responses := by
  unfold recordFailure; split <;> rfl

@[simp] theorem recordFailure_failure (s : State) (e : Fault) :
    (s.recordFailure e).failure = s.failure.or (some e) := by
  unfold recordFailure; split <;> simp_all

/-! ### What one call can do -/

/-- What one call can do to an attempt. -/
inductive Step (s : State) : State → Prop
  /-- Turn a flag on; the started flag only on an initialized attempt. -/
  | mark (f : Flag) (h : f = .started → s.initialized = true) : Step s (s.mark f)
  /-- Keep a failure, unless one is kept already. -/
  | record (e : Fault) : Step s (s.recordFailure e)
  /-- Buffer an answer while the attempt is open. -/
  | buffer (r : Response) (h : s.ended = false) :
      Step s { s with responses := s.responses ++ [r] }
  /-- Take answers from the front of the buffer. -/
  | take (n : Nat) : Step s { s with responses := s.responses.drop n }
  | keep : Step s s

theorem append_step (s : State) (r : Response) : Step s (s.append r).2 := by
  unfold append
  cases h : s.ended
  · exact .buffer r h
  · exact .keep

/-- The state a frame leaves: the handler changes a flag or buffers the answer it carries. -/
theorem receive_state (s : State) (text : String) :
    (s.receive text).2 = match ServerMessage.ofText text with
      | .error e => .error e
      | .ok .complete => .ok (s.mark .completed)
      | .ok .acknowledge => .ok (s.mark .acknowledged)
      | .ok (.answer r) => .ok (s.append r).2
      | .ok .ignored => .ok s := by
  unfold receive
  rcases ServerMessage.ofText text with _ | (_ | _ | r | _)
  case ok.answer =>
    -- an answer: the state is the append's, whether it was kept or not
    dsimp only
    rcases s.append r with ⟨_ | _, _⟩ <;> rfl
  all_goals rfl

/-- Through the client's wrapper a failure is kept in the state, other faults pass. -/
theorem dispatch_state (s : State) (text : String) :
    (s.dispatch text).2 = match (s.receive text).2 with
      | .error e => if e.isFailure then .ok (s.recordFailure e) else .error e
      | .ok t => .ok t := by
  unfold dispatch
  rcases h : s.receive text with ⟨logs, _ | t⟩
  · simp only; split <;> rfl
  · rfl

theorem receive_step (h : (s.receive text).2 = .ok t) : Step s t := by
  rw [receive_state] at h
  split at h <;> cases h
  · exact .mark .completed (by simp)
  · exact .mark .acknowledged (by simp)
  · exact append_step s _
  · exact .keep

theorem dispatch_step (h : (s.dispatch text).2 = .ok t) : Step s t := by
  rw [dispatch_state] at h
  split at h
  · split at h <;> cases h
    exact .record _
  · cases h
    exact receive_step (by assumption)

theorem settle_step (r : List LogRecord × Except Fault State)
    (h : ∀ t, r.2 = .ok t → Step s t) : Step s (s.settle r).2.2 := by
  rcases r with ⟨logs, _ | t⟩
  · exact .keep
  · exact h t rfl

/-- Every call is one `Step`. -/
theorem call_step (s : State) (c : Call) : Step s (s.call c).2.2 := by
  cases c with
  | markInitialized => exact .mark .initialized (by simp)
  | markAcknowledged => exact .mark .acknowledged (by simp)
  | markStarted =>
    simp only [call, markStarted]
    split <;> rename_i h <;> split at h
    · cases h; exact .mark .started fun _ => by assumption
    · cases h
    · cases h
    · exact .keep
  | markStopped => exact .mark .stopped (by simp)
  | markCompleted => exact .mark .completed (by simp)
  | recordFailure e => exact .record e
  | append r => exact append_step s r
  | bufferedCount => exact .keep
  | drain count => exact .take _
  | handle text => exact settle_step _ fun _ => receive_step
  | dispatch text => exact settle_step _ fun _ => dispatch_step

/-! ### Laws of one step -/

namespace Step

/-- A step turns no flag off. -/
theorem flag_le (h : Step s t) (hf : s.flag f = true) : t.flag f = true := by
  cases h with
  | mark g _ => simp [hf]
  | record e => simpa using hf
  | buffer r _ => simpa using hf
  | take n => simpa using hf
  | keep => exact hf

/-- A step keeps "started only once initialized". -/
theorem started_initialized (h : Step s t)
    (hs : s.flag .started = true → s.flag .initialized = true) :
    t.flag .started = true → t.flag .initialized = true := by
  cases h with
  | mark g hg =>
    cases g with
    | initialized => simp
    | started => intro _; simp; exact hg rfl
    | acknowledged | stopped | completed => simpa using hs
  | record e => simpa using hs
  | buffer r _ => simpa using hs
  | take n => simpa using hs
  | keep => exact hs

theorem ended_le (h : Step s t) (he : s.ended = true) : t.ended = true := by
  rw [ended_eq, Bool.or_eq_true] at he ⊢
  exact he.imp h.flag_le h.flag_le

end Step

end State

/-! ### Failures and answers of one call -/

/-- The answer a frame carries: a data or error frame with a payload carries one. -/
def frameAnswer (text : String) : List Response :=
  match ServerMessage.ofText text with
  | .ok (.answer r) => [r]
  | _ => []

namespace Call

/-- The failure a call records: the one it is given, or the failure a frame causes when it
goes through the client's wrapper. -/
def recorded : Call → Option Fault
  | .recordFailure e => some e
  | .dispatch text =>
    match ServerMessage.ofText text with
    | .error e => if e.isFailure then some e else none
    | .ok _ => none
  | _ => none

/-- The calls a session makes on the attempt it serves: it hands frames to the client's
wrapper and tells the attempt that it closed. -/
def bySession : Call → Bool
  | .dispatch _ | .markStopped => true
  | _ => false

/-- The answers a call offers the buffer: the one appended, or the one a frame carries. -/
def offer : Call → List Response
  | .append r => [r]
  | .handle text | .dispatch text => frameAnswer text
  | _ => []

end Call

/-- The answers a call took from the buffer, by what it answered; a fault takes none. -/
def Answer.took : Except Fault Answer → List Response
  | .ok (.taken rs) => rs
  | _ => []

/-- The answers a sequence of calls took from the buffer, in order, by what they answered. -/
def taken (rs : List (Except Fault Answer)) : List Response := rs.flatMap Answer.took

namespace State

variable {s t : State}

@[simp] theorem append_failure (s : State) (r : Response) : (s.append r).2.failure = s.failure := by
  unfold append; split <;> rfl

@[simp] theorem append_responses (s : State) (r : Response) :
    (s.append r).2.responses = s.responses ++ if s.ended then [] else [r] := by
  unfold append; split <;> simp_all

@[simp] theorem append_kept (s : State) (r : Response) : (s.append r).1 = !s.ended := by
  unfold append; split <;> simp_all

@[simp] theorem drain_failure (s : State) (count : Option Int) :
    (s.drain count).2.failure = s.failure := rfl

theorem settle_state (s : State) (r : List LogRecord × Except Fault State) :
    (s.settle r).2.2 = match r.2 with
      | .ok t => t
      | .error _ => s := by
  rcases r with ⟨logs, _ | t⟩ <;> rfl

/-- The state a frame leaves when the handler is called directly. -/
theorem call_handle (s : State) (text : String) :
    (s.call (.handle text)).2.2 = match ServerMessage.ofText text with
      | .error _ => s
      | .ok .complete => s.mark .completed
      | .ok .acknowledge => s.mark .acknowledged
      | .ok (.answer r) => (s.append r).2
      | .ok .ignored => s := by
  rw [call, settle_state, receive_state]
  rcases ServerMessage.ofText text with e | (_ | _ | r | _) <;> rfl

/-- The state a frame leaves through the client's wrapper: a frame the handler refuses with a
failure leaves that failure recorded. -/
theorem call_dispatch (s : State) (text : String) :
    (s.call (.dispatch text)).2.2 = match ServerMessage.ofText text with
      | .error e => if e.isFailure then s.recordFailure e else s
      | .ok .complete => s.mark .completed
      | .ok .acknowledge => s.mark .acknowledged
      | .ok (.answer r) => (s.append r).2
      | .ok .ignored => s := by
  rw [call, settle_state, dispatch_state, receive_state]
  rcases ServerMessage.ofText text with e | (_ | _ | r | _)
  · by_cases hf : e.isFailure = true <;> simp [hf]
  all_goals rfl

/-- A call keeps the failure the attempt had, else the one it records. -/
theorem call_failure (s : State) (c : Call) :
    (s.call c).2.2.failure = s.failure.or c.recorded := by
  cases c with
  | markStarted =>
    by_cases hi : s.initialized = true <;> simp [call, markStarted, hi, Call.recorded]
  | recordFailure e => simp [call, Call.recorded]
  | append r => simp [call, Call.recorded]
  | handle text => rw [call_handle]; split <;> simp [Call.recorded]
  | dispatch text =>
    rw [call_dispatch]
    simp only [Call.recorded]
    split
    · split <;> simp_all
    all_goals simp_all
  | _ => simp [call, Call.recorded]

theorem settle_took (s : State) (r : List LogRecord × Except Fault State) :
    Answer.took (s.settle r).2.1 = [] := by
  rcases r with ⟨logs, _ | t⟩ <;> rfl

/-- What a call takes, followed by the buffer it leaves, is the buffer before it followed by
the answer it offers while the attempt is open. -/
theorem call_took (s : State) (c : Call) :
    Answer.took (s.call c).2.1 ++ (s.call c).2.2.responses =
      s.responses ++ if s.ended then [] else c.offer := by
  cases c with
  | markStarted =>
    by_cases hi : s.initialized = true <;> simp [call, markStarted, hi, Answer.took, Call.offer]
  | append r => simp [call, Answer.took, Call.offer]
  | drain count => simp [call, drain, Answer.took, Call.offer]
  | handle text =>
    rw [show (s.call (.handle text)).2.1 = (s.settle (s.receive text)).2.1 from rfl, settle_took,
      call_handle]
    simp only [Call.offer, frameAnswer, List.nil_append]
    rcases ServerMessage.ofText text with e | (_ | _ | r | _) <;> simp
  | dispatch text =>
    rw [show (s.call (.dispatch text)).2.1 = (s.settle (s.dispatch text)).2.1 from rfl, settle_took,
      call_dispatch]
    simp only [Call.offer, frameAnswer, List.nil_append]
    rcases ServerMessage.ofText text with e | (_ | _ | r | _) <;> simp
    split <;> simp
  | _ => simp [call, Answer.took, Call.offer]

/-! ### Runs -/

/-- Run calls one after another: the answer, or the fault, of each, and the last state. -/
def run (s : State) : List Call → List (Except Fault Answer) × State
  | [] => ([], s)
  | c :: cs => ((s.call c).2.1 :: ((s.call c).2.2.run cs).1, ((s.call c).2.2.run cs).2)

/-- The answers a run of calls offers the buffer while the attempt is open, in order. -/
def accepted (s : State) : List Call → List Response
  | [] => []
  | c :: cs => (if s.ended then [] else c.offer) ++ (s.call c).2.2.accepted cs

@[simp] theorem run_nil (s : State) : s.run [] = ([], s) := rfl

@[simp] theorem run_cons (s : State) (c : Call) (cs : List Call) :
    s.run (c :: cs) = ((s.call c).2.1 :: ((s.call c).2.2.run cs).1, ((s.call c).2.2.run cs).2) :=
  rfl

/-- A run turns no flag off. -/
theorem flag_run (cs : List Call) (hf : s.flag f = true) : (s.run cs).2.flag f = true := by
  induction cs generalizing s with
  | nil => exact hf
  | cons c cs ih => exact ih ((call_step s c).flag_le hf)

theorem ended_run (cs : List Call) (he : s.ended = true) : (s.run cs).2.ended = true := by
  rw [ended_eq, Bool.or_eq_true] at he ⊢
  exact he.imp (flag_run cs) (flag_run cs)

/-- A run keeps "started only once initialized". -/
theorem started_run (cs : List Call) (hs : s.flag .started = true → s.flag .initialized = true) :
    (s.run cs).2.flag .started = true → (s.run cs).2.flag .initialized = true := by
  induction cs generalizing s with
  | nil => exact hs
  | cons c cs ih => exact ih ((call_step s c).started_initialized hs)

/-- An attempt reached from a fresh one has started only once it was initialized. -/
theorem started_run_fresh (id : Int) (cs : List Call) :
    ((fresh id).run cs).2.started = true → ((fresh id).run cs).2.initialized = true :=
  started_run cs (by simp [fresh, flag])

/-- The failure a run leaves is the one the attempt had, else the first one a call recorded. -/
theorem failure_run (s : State) (cs : List Call) :
    (s.run cs).2.failure = s.failure.or (cs.findSome? Call.recorded) := by
  induction cs generalizing s with
  | nil => simp
  | cons c cs ih =>
    rw [run_cons, ih, call_failure, Option.or_assoc, List.findSome?_cons]
    rcases c.recorded with _ | e <;> rfl

/-- Nothing is lost, duplicated or reordered: what the drains of a run took, in order, followed
by what is still buffered, is what was buffered before followed by every answer offered while
the attempt was open. -/
theorem taken_run (s : State) (cs : List Call) :
    taken (s.run cs).1 ++ (s.run cs).2.responses = s.responses ++ s.accepted cs := by
  induction cs generalizing s with
  | nil => simp [taken, accepted]
  | cons c cs ih =>
    have hc := call_took s c
    simp only [run_cons, taken, List.flatMap_cons, accepted] at ih ⊢
    rw [List.append_assoc, ih, ← List.append_assoc, hc, List.append_assoc]

/-! ### Appending -/

/-- An append buffers exactly its answer while the attempt is open, and changes nothing once
the attempt has ended; it answers which. -/
theorem call_append (s : State) (r : Response) :
    s.call (.append r) = if s.ended then ([], .ok (.kept false), s)
      else ([], .ok (.kept true), { s with responses := s.responses ++ [r] }) := by
  simp only [call, append]
  split <;> rfl

/-- Once an append is refused, every append after any further calls is refused. -/
theorem append_refused_run {r : Response} (h : (s.call (.append r)).2.1 = .ok (.kept false))
    (cs : List Call) (r' : Response) :
    (((s.call (.append r)).2.2.run cs).2.call (.append r')).2.1 = .ok (.kept false) := by
  have hs : s.ended = true := by
    rw [call_append] at h
    split at h
    · assumption
    · cases h
  have he : ((s.call (.append r)).2.2.run cs).2.ended = true :=
    ended_run cs ((call_step s _).ended_le hs)
  rw [call_append, if_pos he]

/-! ### What sessions do to an attempt -/

theorem run_append (s : State) (cs ds : List Call) :
    s.run (cs ++ ds) = ((s.run cs).1 ++ ((s.run cs).2.run ds).1, ((s.run cs).2.run ds).2) := by
  induction cs generalizing s with
  | nil => rfl
  | cons c cs ih => simp [ih]

@[simp] theorem append_flag (s : State) (r : Response) (g : Flag) :
    (s.append r).2.flag g = s.flag g := by
  unfold append; split <;> simp

@[simp] theorem append_id (s : State) (r : Response) : (s.append r).2.id = s.id := by
  unfold append; split <;> rfl

@[simp] theorem recordFailure_id (s : State) (e : Fault) : (s.recordFailure e).id = s.id := by
  unfold recordFailure; split <;> rfl

/-- No call changes the id of an attempt. -/
theorem call_id (s : State) (c : Call) : (s.call c).2.2.id = s.id := by
  cases c with
  | markStarted => by_cases hi : s.initialized = true <;> simp [call, markStarted, hi]
  | handle text =>
    rw [call_handle]; rcases ServerMessage.ofText text with e | (_ | _ | r | _) <;> simp
  | dispatch text =>
    rw [call_dispatch]; rcases ServerMessage.ofText text with e | (_ | _ | r | _) <;> simp
    split <;> simp
  | _ => simp [call, drain]

/-- A session hands frames to the client's wrapper and tells its attempt that it closed:
neither marks the initialized or the started flag. -/
theorem flag_call_session {c : Call} (hc : c.bySession) (s : State) {g : Flag}
    (hg : g = .initialized ∨ g = .started) : (s.call c).2.2.flag g = s.flag g := by
  cases c with
  | markStopped => rcases hg with rfl | rfl <;> simp [call]
  | dispatch text =>
    rw [call_dispatch]
    rcases ServerMessage.ofText text with e | (_ | _ | r | _)
    · dsimp only; split <;> simp
    all_goals rcases hg with rfl | rfl <;> simp
  | _ => simp [Call.bySession] at hc

/-- Sessions take nothing from the buffer. -/
theorem taken_session {cs : List Call} (hcs : ∀ c ∈ cs, c.bySession) (s : State) :
    taken (s.run cs).1 = [] := by
  induction cs generalizing s with
  | nil => rfl
  | cons c cs ih =>
    have hc : Answer.took (s.call c).2.1 = [] := by
      have := hcs c (by simp)
      cases c <;> simp [Call.bySession] at this
      · rfl
      · exact settle_took s _
    simp only [taken, run_cons, List.flatMap_cons] at ih ⊢
    rw [hc, ih (fun c h => hcs c (by simp [h]))]
    rfl

/-- An attempt reached from another by calls of its sessions alone. -/
def Heard (s t : State) : Prop := ∃ cs : List Call, (∀ c ∈ cs, c.bySession) ∧ (s.run cs).2 = t

namespace Heard

variable {s t u : State}

theorem refl (s : State) : s.Heard s := ⟨[], by simp, rfl⟩

theorem trans (h₁ : s.Heard t) (h₂ : t.Heard u) : s.Heard u := by
  obtain ⟨cs, hcs, rfl⟩ := h₁
  obtain ⟨ds, hds, rfl⟩ := h₂
  refine ⟨cs ++ ds, fun c hc => ?_, by rw [run_append]⟩
  rcases List.mem_append.1 hc with h | h
  · exact hcs c h
  · exact hds c h

theorem dispatch {text : String} (h : (s.dispatch text).2 = .ok t) : s.Heard t := by
  refine ⟨[.dispatch text], by simp [Call.bySession], ?_⟩
  rcases hd : s.dispatch text with ⟨logs, _ | t'⟩
  · simp [hd] at h
  · simp only [hd, Except.ok.injEq] at h
    simp [call, settle, hd, h]

theorem closed (s : State) : s.Heard (s.mark .stopped) :=
  ⟨[.markStopped], by simp [Call.bySession], rfl⟩

/-- Sessions change neither whether an attempt was initialized or started nor its id. -/
theorem same (h : s.Heard t) :
    t.initialized = s.initialized ∧ t.started = s.started ∧ t.id = s.id := by
  obtain ⟨cs, hcs, rfl⟩ := h
  induction cs generalizing s with
  | nil => exact ⟨rfl, rfl, rfl⟩
  | cons c cs ih =>
    have hc := hcs c (by simp)
    obtain ⟨hi, hs, hd⟩ := ih (fun c h => hcs c (by simp [h]))
    exact ⟨hi.trans (flag_call_session hc s (.inl rfl)),
      hs.trans (flag_call_session hc s (.inr rfl)), hd.trans (call_id s c)⟩

/-- A failure the attempt keeps stays kept. -/
theorem failure {f : Fault} (h : s.Heard t) (hf : s.failure = some f) : t.failure = some f := by
  obtain ⟨cs, -, rfl⟩ := h
  rw [failure_run, hf]
  rfl

/-- Sessions only add to the buffer: what they offer while the attempt is open. -/
theorem responses (h : s.Heard t) : ∃ cs, t.responses = s.responses ++ s.accepted cs := by
  obtain ⟨cs, hcs, rfl⟩ := h
  refine ⟨cs, ?_⟩
  have := taken_run s cs
  rwa [taken_session hcs, List.nil_append] at this

end Heard

/-- The lifecycle of an attempt, over every sequence of calls from both sides in any
interleaving: no flag turns off; an attempt reached from a fresh one has started only once it
was initialized, and starting one that was not initialized raises and changes nothing; an
append buffers exactly its answer while the attempt is neither stopped nor completed, and
otherwise answers `false` and changes nothing, so after one refused append every later one is
refused; and the failure kept is the one recorded first. -/
theorem lifecycle_laws :
    (∀ (s : State) (cs : List Call) (f : Flag), s.flag f = true → (s.run cs).2.flag f = true) ∧
    (∀ (id : Int) (cs : List Call),
      ((fresh id).run cs).2.started = true → ((fresh id).run cs).2.initialized = true) ∧
    (∀ s : State, s.initialized = false → s.call .markStarted =
      ([], .error (Fault.simple .runtime "A subscription cannot start before it is initialized."),
        s)) ∧
    (∀ (s : State) (r : Response), s.call (.append r) =
      if s.stopped || s.completed then ([], .ok (.kept false), s)
      else ([], .ok (.kept true), { s with responses := s.responses ++ [r] })) ∧
    (∀ (s : State) (r r' : Response) (cs : List Call),
      (s.call (.append r)).2.1 = .ok (.kept false) →
      (((s.call (.append r)).2.2.run cs).2.call (.append r')).2.1 = .ok (.kept false)) ∧
    (∀ (s : State) (cs : List Call),
      (s.run cs).2.failure = s.failure.or (cs.findSome? Call.recorded)) := by
  refine ⟨fun s cs f hf => flag_run cs hf, started_run_fresh, ?_, call_append,
    fun s r r' cs h => append_refused_run h cs r', failure_run⟩
  intro s hi
  simp [call, markStarted, hi, startTooEarly]

end State

end GraphProbe.Subscription
