import GraphProbe.Subscription.Frame
import Mathlib.Tactic.Common

/-!
# Asserting that an answer has no errors

`Response.assertNoErrors` is there to fail a test: it returns the answer when the status is a
success and the payload lists no errors, fails with the status when that is no success, and
otherwise fails with the errors' messages, an error's message being its `message` member or
the whole error.

The messages are read off the errors as objects, and an error that is no object has no member
to read: asking it for one raises `AttributeError`. `assertNoErrors_outcome` says what the
assertion does for every object payload and integer status, in terms of the listed errors
alone. From it, `assertNoErrors_exact`: the assertion returns the answer exactly for a success
without errors, reports the status or the messages as a test failure, and raises nothing but a
test failure exactly when the status is no success or every error is an object. Errors that are
no object are what a frame carrying a bare text or list turns into, and
`bare_error_escapes_assertion` shows one escaping the assertion.
-/

namespace GraphProbe.Response

/-- The text an error shows in a failed assertion: its `message` member, or the whole error. -/
def errorText (e : Value) : String := ((e.field? "message").getD e).display

/-- The errors an object payload lists: its `errors` member when that is an array. -/
def listedErrors (fs : List (String × Value)) : List Value :=
  match fs.lookup "errors" with
  | some (.arr xs) => xs
  | _ => []

/-- An integer status is a success when `200 ≤ status < 300`. -/
theorem isOk_int (p : Value) (n : Int) :
    (Response.mk p (.int n)).isOk = .ok (decide (200 ≤ n ∧ n < 300)) := by
  by_cases h : 200 ≤ n <;>
    simp [isOk, intLe, ltInt, Value.asInt?, h, bind, Except.bind, pure, Except.pure]

/-- The errors of an object payload are the ones it lists. -/
theorem errors_obj (fs : List (String × Value)) (status : Value) :
    (Response.mk (.obj fs) status).errors = .ok (listedErrors fs) := by
  simp only [errors, listedErrors]
  split <;> simp_all

/-- Reading the messages of errors that are all objects gives their texts. -/
theorem mapM_errorMessage_of_objects {es : List Value} (h : ∀ e ∈ es, e.isObj) :
    es.mapM errorMessage = .ok (es.map errorText) := by
  induction es with
  | nil => rfl
  | cons e es ih =>
    obtain ⟨fs, rfl⟩ : ∃ fs, e = .obj fs := by
      cases e <;> simp_all [Value.isObj]
    have hrest := ih fun e he => h e (List.mem_cons_of_mem _ he)
    simp [List.mapM_cons, errorMessage, errorText, Value.field?, hrest, bind, Except.bind,
      pure, Except.pure]

/-- Reading the messages stops at the first error that is no object, which has no member to
read. -/
theorem mapM_errorMessage_of_find {es : List Value} {e : Value}
    (h : es.find? (fun x => !x.isObj) = some e) : es.mapM errorMessage = .error (noGetFault e) := by
  induction es with
  | nil => simp at h
  | cons x es ih =>
    cases x with
    | obj fs =>
      simp only [List.find?_cons, Value.isObj, Bool.not_true] at h
      simp [List.mapM_cons, errorMessage, ih h, bind, Except.bind]
    | _ =>
      simp only [List.find?_cons, Value.isObj, Bool.not_false, Option.some.injEq] at h
      subst h
      simp [List.mapM_cons, errorMessage, bind, Except.bind]

/-- What the assertion does for an object payload and an integer status: a status that is no
success fails the test; with a success, no errors return the answer, errors that are all objects
fail the test with their texts, and the first error that is no object raises. -/
theorem assertNoErrors_outcome (fs : List (String × Value)) (n : Int) :
    (Response.mk (.obj fs) (.int n)).assertNoErrors =
      if 200 ≤ n ∧ n < 300 then
        if listedErrors fs = [] then .ok ⟨.obj fs, .int n⟩
        else match (listedErrors fs).find? (fun x => !x.isObj) with
          | some e => .error (noGetFault e)
          | none => .error (Fault.fail ("Expected no GraphQL errors, but received: " ++
              (Value.arr ((listedErrors fs).map fun e => .str (errorText e))).literal))
      else .error (Fault.fail
        ("Expected a successful response, but status was " ++ Number.intText n ++ ".")) := by
  by_cases hok : 200 ≤ n ∧ n < 300
  · simp only [assertNoErrors, isOk_int, errors_obj, hok]
    by_cases hnone : listedErrors fs = []
    · simp [hnone, bind, Except.bind, pure, Except.pure]
    · simp only [hnone, if_false]
      cases hfind : (listedErrors fs).find? (fun x => !x.isObj) with
      | some e =>
        simp [mapM_errorMessage_of_find hfind, hnone, bind, Except.bind]
      | none =>
        -- no error fails the test, so all of them are objects
        have hall : ∀ e ∈ listedErrors fs, e.isObj := by
          simpa using List.find?_eq_none.1 hfind
        simp [mapM_errorMessage_of_objects hall, hnone, bind, Except.bind, List.map_map,
          Function.comp_def, throw, throwThe, MonadExceptOf.throw, toString, Value.literal]
  · simp [assertNoErrors, isOk_int, hok, statusText, Value.display, Value.literal,
      bind, Except.bind, throw, throwThe, MonadExceptOf.throw, toString]

/-- The assertion returns the answer exactly for a success without errors. -/
theorem assertNoErrors_eq_ok_iff (fs : List (String × Value)) (n : Int) :
    (Response.mk (.obj fs) (.int n)).assertNoErrors = .ok ⟨.obj fs, .int n⟩ ↔
      (200 ≤ n ∧ n < 300) ∧ listedErrors fs = [] := by
  rw [assertNoErrors_outcome]
  by_cases hok : 200 ≤ n ∧ n < 300
  · by_cases hnone : listedErrors fs = []
    · simp [hok, hnone]
    · cases (listedErrors fs).find? (fun x => !x.isObj) <;> simp [hok, hnone]
  · simp [hok]

/-- The assertion raises nothing but a test failure exactly when the status is no success or
every listed error is an object. -/
theorem assertNoErrors_fails_only_test_iff (fs : List (String × Value)) (n : Int) :
    (∀ f, (Response.mk (.obj fs) (.int n)).assertNoErrors = .error f →
      f.kindName = "GraphQLTestFailure") ↔
      ¬(200 ≤ n ∧ n < 300) ∨ ∀ e ∈ listedErrors fs, e.isObj := by
  rw [assertNoErrors_outcome]
  by_cases hok : 200 ≤ n ∧ n < 300
  · by_cases hnone : listedErrors fs = []
    · simp [hok, hnone]
    · cases hfind : (listedErrors fs).find? (fun x => !x.isObj) with
      | some x =>
        -- the first error that is no object raises `AttributeError`
        have hx : x.isObj = false := by simpa using List.find?_some hfind
        simp only [hok, hnone, not_true_eq_false, false_or, and_self, if_true, if_false]
        simp [noGetFault, Fault.simple, Fault.kindName, FaultKind.name]
        exact ⟨x, List.mem_of_find?_eq_some hfind, hx⟩
      | none =>
        have hall : ∀ e ∈ listedErrors fs, e.isObj := by simpa using List.find?_eq_none.1 hfind
        simpa [hok, hnone, Fault.fail, Fault.kindName] using hall
  · simp [hok, Fault.fail, Fault.kindName]

/-- Asserting that an answer has no errors, exactly, for an object payload and an integer
status: it returns the answer exactly for a success without errors; a status that is no success
fails the test with the status; with a success, errors that are all objects fail the test with
their texts; and the assertion raises nothing but a test failure exactly when the status is no
success or every error is an object. -/
theorem assertNoErrors_exact (fs : List (String × Value)) (n : Int) :
    let r : Response := ⟨.obj fs, .int n⟩
    (r.assertNoErrors = .ok r ↔ (200 ≤ n ∧ n < 300) ∧ listedErrors fs = []) ∧
    (¬(200 ≤ n ∧ n < 300) → r.assertNoErrors = .error (Fault.fail
      ("Expected a successful response, but status was " ++ Number.intText n ++ "."))) ∧
    ((200 ≤ n ∧ n < 300) → listedErrors fs ≠ [] → (∀ e ∈ listedErrors fs, e.isObj) →
      r.assertNoErrors = .error (Fault.fail ("Expected no GraphQL errors, but received: " ++
        (Value.arr ((listedErrors fs).map fun e => .str (errorText e))).literal))) ∧
    ((∀ f, r.assertNoErrors = .error f → f.kindName = "GraphQLTestFailure") ↔
      ¬(200 ≤ n ∧ n < 300) ∨ ∀ e ∈ listedErrors fs, e.isObj) := by
  refine ⟨assertNoErrors_eq_ok_iff fs n, fun hok => ?_, fun hok hne hall => ?_,
    assertNoErrors_fails_only_test_iff fs n⟩
  · simp [assertNoErrors_outcome, hok]
  · have hfind : (listedErrors fs).find? (fun x => !x.isObj) = none :=
      List.find?_eq_none.2 (by simpa using hall)
    simp [assertNoErrors_outcome, hok, hne, hfind]

/-- A frame whose payload is a bare text turns into an answer listing that text as its one
error, and asserting that this answer has no errors raises `AttributeError` instead of failing
the test. -/
theorem bare_error_escapes_assertion :
    (Response.mk (Subscription.answerPayload (.str "boom")) (.int 200)).assertNoErrors =
      .error (noGetFault (.str "boom")) ∧
    (noGetFault (.str "boom")).kindName = "AttributeError" :=
  ⟨rfl, rfl⟩

end GraphProbe.Response
