import GraphProbe.Proofs.Attempt

/-!
# What a frame does to an attempt

The handler of a subscription reads each frame's text as JSON and acts on the frame's
`type`. Every text falls in exactly one case, decided by the decoded value alone:

* a text that does not read, a value that has no `type` (a non-object among them), a `null`
  type, and a data or error frame without a payload are refused with a failure that says
  which, and a text nested too deeply for the reader raises the reader's own fault; the
  attempt is left as it was;
* `complete` marks the attempt completed and `connection_ack` marks it acknowledged;
* a data or error frame with a payload buffers the answer made of it (an object as it is, an
  array as the error list, anything else as the one error) unless the attempt is stopped or
  completed;
* a frame of any other type, a non-text type among them, changes nothing.

Design. `ServerMessage.ofText_obj` unfolds the reading of a frame once, for a text that reads
as an object; each case is then a small lemma about `ServerMessage.ofText`, and
`State.call_handle_outcome` lifts what the frame says to what the call does. The main
statement is `State.handle_outcomes`.
-/

namespace GraphProbe.Subscription

namespace ServerMessage

variable {text : String} {v p ty : Value}

/-- What a frame that reads as an object says, by its members. -/
theorem ofText_obj {fs : List (String × Value)} (h : Json.read text = .ok (.obj fs)) :
    ofText text = match fs.lookup "type" with
      | none => .error typeMissing
      | some .null => .error (Fault.fail "GraphQL messages type should not be null.")
      | some (.str "complete") => .ok .complete
      | some (.str "connection_ack") => .ok .acknowledge
      | some (.str "data") | some (.str "error") =>
        match fs.lookup "payload" with
        | none | some .null => .error (Fault.fail "Data/error messages must have a payload.")
        | some p => (Response.make (answerPayload p)).map .answer
      | some _ => .ok .ignored := by
  simp only [ofText, Response.decode, h]
  rfl

/-- Only an object has a type. -/
theorem obj_of_type (ht : v.field? "type" = some ty) :
    ∃ fs, v = .obj fs ∧ fs.lookup "type" = some ty := by
  cases v with
  | obj fs => exact ⟨fs, rfl, ht⟩
  | _ => simp [Value.field?] at ht

theorem ofText_unreadable {e : Json.ReadError} (h : Json.read text = .error e)
    (hd : ∀ b, e ≠ .nestedTooDeep b) :
    ofText text = .error (Fault.failBecause Response.unreadableMessage (Fault.ofReadError e)) := by
  cases e with
  | nestedTooDeep b => exact absurd rfl (hd b)
  | _ => simp only [ofText, Response.decode, h]; rfl

theorem ofText_tooDeep {b : Bool} (h : Json.read text = .error (.nestedTooDeep b)) :
    ofText text = .error (Fault.ofReadError (.nestedTooDeep b)) := by
  simp only [ofText, Response.decode, h]
  rfl

theorem ofText_untyped (h : Json.read text = .ok v) (ht : v.field? "type" = none) :
    ofText text = .error typeMissing := by
  cases v with
  | obj fs =>
    simp only [Value.field?] at ht
    rw [ofText_obj h, ht]
  | _ => simp only [ofText, Response.decode, h]; rfl

theorem ofText_nullType (h : Json.read text = .ok v) (ht : v.field? "type" = some .null) :
    ofText text = .error (Fault.fail "GraphQL messages type should not be null.") := by
  obtain ⟨fs, rfl, hty⟩ := obj_of_type ht
  rw [ofText_obj h, hty]

theorem ofText_complete (h : Json.read text = .ok v)
    (ht : v.field? "type" = some (.str "complete")) : ofText text = .ok .complete := by
  obtain ⟨fs, rfl, hty⟩ := obj_of_type ht
  rw [ofText_obj h, hty]
  rfl

theorem ofText_acknowledge (h : Json.read text = .ok v)
    (ht : v.field? "type" = some (.str "connection_ack")) : ofText text = .ok .acknowledge := by
  obtain ⟨fs, rfl, hty⟩ := obj_of_type ht
  rw [ofText_obj h, hty]
  rfl

theorem ofText_payloadless {t : String} (h : Json.read text = .ok v)
    (ht : v.field? "type" = some (.str t)) (hd : t = "data" ∨ t = "error")
    (hp : v.field? "payload" = none ∨ v.field? "payload" = some .null) :
    ofText text = .error (Fault.fail "Data/error messages must have a payload.") := by
  obtain ⟨fs, rfl, hty⟩ := obj_of_type ht
  simp only [Value.field?] at hp
  rw [ofText_obj h, hty]
  rcases hd with rfl | rfl <;> rcases hp with hp | hp <;> simp only [hp]

theorem ofText_answer {t : String} (h : Json.read text = .ok v)
    (ht : v.field? "type" = some (.str t)) (hd : t = "data" ∨ t = "error")
    (hp : v.field? "payload" = some p) (hn : p ≠ .null) :
    ofText text = (Response.make (answerPayload p)).map .answer := by
  obtain ⟨fs, rfl, hty⟩ := obj_of_type ht
  simp only [Value.field?] at hp
  rw [ofText_obj h, hty]
  -- the payload is there and not null, so the last branch of the payload match is taken
  rcases hd with rfl | rfl
  all_goals
    simp only
    split <;> simp_all

theorem ofText_other (h : Json.read text = .ok v) (ht : v.field? "type" = some ty)
    (hn : ty ≠ .null) (hk : ∀ k ∈ ["complete", "connection_ack", "data", "error"], ty ≠ .str k) :
    ofText text = .ok .ignored := by
  obtain ⟨fs, rfl, hty⟩ := obj_of_type ht
  rw [ofText_obj h, hty]
  simp only [List.mem_cons, List.not_mem_nil, or_false, forall_eq_or_imp, forall_eq] at hk
  split <;> simp_all

end ServerMessage

namespace State

/-- What a frame handed to the handler answers and leaves: a frame that is refused raises and
leaves the attempt as it was; the others answer and change it as they say. -/
theorem call_handle_outcome (s : State) (text : String) :
    (s.call (.handle text)).2 = match ServerMessage.ofText text with
      | .error e => (.error e, s)
      | .ok .complete => (.ok .done, s.mark .completed)
      | .ok .acknowledge => (.ok .done, s.mark .acknowledged)
      | .ok (.answer r) =>
        (.ok .done, if s.stopped || s.completed then s else { s with responses := s.responses ++ [r] })
      | .ok .ignored => (.ok .done, s) := by
  simp only [call, settle, receive]
  rcases ServerMessage.ofText text with e | (_ | _ | r | _)
  · rfl
  · rfl
  · rfl
  · -- the append keeps the answer exactly when the attempt is neither stopped nor completed
    cases hs : s.stopped <;> cases hc : s.completed <;> simp [append, ended, hs, hc]
  · rfl

/-- The handler's outcome for every frame text and every attempt: the text, read as JSON,
falls in exactly one of these cases. A refused frame raises and leaves the attempt as it was;
`complete` and `connection_ack` set their flag; a data or error frame with a payload buffers
the answer made of the payload (`answerPayload`: an object as it is, an array as the error
list, anything else as the one error, with status 200) unless the attempt is stopped or
completed; a frame of any other type changes nothing. -/
theorem handle_outcomes (s : State) (text : String) :
    (∀ e, Json.read text = .error e → (∀ b, e ≠ .nestedTooDeep b) →
      (s.call (.handle text)).2 =
        (.error (Fault.failBecause
          "Exception while parsing server response. Response is not a valid GraphQL response."
          (Fault.ofReadError e)), s)) ∧
    (∀ b, Json.read text = .error (.nestedTooDeep b) →
      (s.call (.handle text)).2 = (.error (Fault.ofReadError (.nestedTooDeep b)), s)) ∧
    (∀ v, Json.read text = .ok v → v.field? "type" = none →
      (s.call (.handle text)).2 =
        (.error (Fault.fail "GraphQL messages should have a type field."), s)) ∧
    (∀ v, Json.read text = .ok v → v.field? "type" = some .null →
      (s.call (.handle text)).2 =
        (.error (Fault.fail "GraphQL messages type should not be null."), s)) ∧
    (∀ v t, Json.read text = .ok v → v.field? "type" = some (.str t) →
      (t = "data" ∨ t = "error") →
      (v.field? "payload" = none ∨ v.field? "payload" = some .null) →
      (s.call (.handle text)).2 =
        (.error (Fault.fail "Data/error messages must have a payload."), s)) ∧
    (∀ v, Json.read text = .ok v → v.field? "type" = some (.str "complete") →
      (s.call (.handle text)).2 = (.ok .done, { s with completed := true })) ∧
    (∀ v, Json.read text = .ok v → v.field? "type" = some (.str "connection_ack") →
      (s.call (.handle text)).2 = (.ok .done, { s with acknowledged := true })) ∧
    (∀ v t p, Json.read text = .ok v → v.field? "type" = some (.str t) →
      (t = "data" ∨ t = "error") → v.field? "payload" = some p → p ≠ .null →
      (s.call (.handle text)).2 = match Response.make (answerPayload p) (.int 200) with
        | .ok r => (.ok .done,
            if s.stopped || s.completed then s else { s with responses := s.responses ++ [r] })
        | .error e => (.error e, s)) ∧
    (∀ v ty, Json.read text = .ok v → v.field? "type" = some ty → ty ≠ .null →
      (∀ k ∈ ["complete", "connection_ack", "data", "error"], ty ≠ .str k) →
      (s.call (.handle text)).2 = (.ok .done, s)) := by
  refine ⟨?_, ?_, ?_, ?_, ?_, ?_, ?_, ?_, ?_⟩
  · intro e h hd
    rw [call_handle_outcome, ServerMessage.ofText_unreadable h hd]
    rfl
  · intro b h
    rw [call_handle_outcome, ServerMessage.ofText_tooDeep h]
  · intro v h ht
    rw [call_handle_outcome, ServerMessage.ofText_untyped h ht]
    rfl
  · intro v h ht
    rw [call_handle_outcome, ServerMessage.ofText_nullType h ht]
  · intro v t h ht hd hp
    rw [call_handle_outcome, ServerMessage.ofText_payloadless h ht hd hp]
  · intro v h ht
    rw [call_handle_outcome, ServerMessage.ofText_complete h ht]
    rfl
  · intro v h ht
    rw [call_handle_outcome, ServerMessage.ofText_acknowledge h ht]
    rfl
  · intro v t p h ht hd hp hn
    rw [call_handle_outcome, ServerMessage.ofText_answer h ht hd hp hn]
    rcases Response.make (answerPayload p) with e | r <;> rfl
  · intro v ty h ht hn hk
    rw [call_handle_outcome, ServerMessage.ofText_other h ht hn hk]

end State

end GraphProbe.Subscription
