import GraphProbe.Exercise.Answers
import Mathlib.Tactic.Common

/-!
# Looking values up by path

`Path.Reaches v p u` says, step by step, what following a path means: a key enters the member
of an object under that key, an index enters the element of an array at that place, counting
from the end when it is negative and lying within the array. A key on anything but an object
and an index on anything but an array reach nothing, and neither does an index outside the
array, however large.

`resolve_eq_some_iff` proves that `Path.resolve` follows exactly that relation, by induction
on the path. The main statement, `lookup_by_path`, lifts this to the lookups of an answer:
for a path text that parses, `getOrNone` gives the value reached or nothing, and `get` gives
the value reached (a null one too) or fails naming the path and the payload's canonical
text; for a path text that does not parse, both fail with the parse error's text as message
and the parse error as cause, and the parse error is a `ValueError`.

Equality of answers compares payloads loosely while hash keys compare canonical texts, and
`equal_answers_keyed_apart` shows two equal answers whose keys differ.
-/

namespace GraphProbe

namespace Path

/-- `Reaches v p u`: following the steps `p` from `v` arrives at `u`. -/
inductive Reaches : Value → Path → Value → Prop
  | here (v : Value) : Reaches v [] v
  | member {fs : List (String × Value)} {k : String} {w u : Value} {p : Path}
      (hk : fs.lookup k = some w) (hrest : Reaches w p u) : Reaches (.obj fs) (.key k :: p) u
  | element {xs : List Value} {i : Int} {w u : Value} {p : Path}
      (hlo : -(xs.length : Int) ≤ i) (hhi : i < xs.length)
      (hi : xs[(if i < 0 then i + xs.length else i).toNat]? = some w) (hrest : Reaches w p u) :
      Reaches (.arr xs) (.index i :: p) u

/-- An index lies within an array of `len` elements when `-len ≤ i < len`; a negative one
counts from the end. -/
theorem arrayPosition_eq_some {len j : Nat} {i : Int} :
    arrayPosition len i = some j ↔
      -(len : Int) ≤ i ∧ i < len ∧ j = (if i < 0 then i + len else i).toNat := by
  unfold arrayPosition
  by_cases hi : i < 0
  · simp only [hi, ↓reduceIte, Bool.and_eq_true, decide_eq_true_eq]
    split_ifs with h <;> simp only [Option.some.injEq, false_iff] <;> omega
  · simp only [hi, ↓reduceIte, Bool.and_eq_true, decide_eq_true_eq]
    split_ifs with h <;> simp only [Option.some.injEq, false_iff] <;> omega

/-- One step of `resolve` is one step of `Reaches`. -/
theorem follow_eq_some {v w : Value} {s : Step} :
    follow v s = some w ↔
      (∃ fs k, v = .obj fs ∧ s = .key k ∧ fs.lookup k = some w) ∨
      (∃ xs i, v = .arr xs ∧ s = .index i ∧ -(xs.length : Int) ≤ i ∧ i < xs.length ∧
        xs[(if i < 0 then i + xs.length else i).toNat]? = some w) := by
  cases v <;> cases s <;> simp [follow, Option.bind_eq_some_iff, arrayPosition_eq_some, and_assoc]

/-- `resolve` follows a path exactly as `Reaches` says. -/
theorem resolve_eq_some_iff {v u : Value} {p : Path} : resolve v p = some u ↔ Reaches v p u := by
  induction p generalizing v with
  | nil =>
    simp only [resolve, Option.some.injEq]
    constructor
    · rintro rfl
      exact .here _
    · rintro ⟨⟩
      rfl
  | cons s p ih =>
    simp only [resolve, Option.bind_eq_some_iff, ih]
    constructor
    · rintro ⟨w, hw, hrest⟩
      rcases follow_eq_some.1 hw with ⟨fs, k, rfl, rfl, hk⟩ | ⟨xs, i, rfl, rfl, hlo, hhi, hi⟩
      · exact .member hk hrest
      · exact .element hlo hhi hi hrest
    · intro h
      cases h with
      | member hk hrest => exact ⟨_, follow_eq_some.2 (.inl ⟨_, _, rfl, rfl, hk⟩), hrest⟩
      | element hlo hhi hi hrest =>
        exact ⟨_, follow_eq_some.2 (.inr ⟨_, _, rfl, rfl, hlo, hhi, hi⟩), hrest⟩

/-- A path reaches nothing exactly when `resolve` gives nothing. -/
theorem resolve_eq_none_iff {v : Value} {p : Path} : resolve v p = none ↔ ∀ u, ¬ Reaches v p u := by
  simp only [← resolve_eq_some_iff]
  cases resolve v p <;> simp

end Path

namespace Response

/-- The failure that reports a path text that does not parse: the parse error's text, caused by
the parse error. -/
theorem steps_error {text : String} {e : Path.ParseError} (h : Path.parse text = .error e) :
    steps text = .error (Fault.failBecause (Exercise.pathFault text e).text
      (Exercise.pathFault text e)) := by
  cases e <;> simp [steps, h, Exercise.pathFault, Fault.simple, Fault.text, Fault.raisedText,
    FaultKind.rule, Value.display]

/-- Looking values up by path. For a path text that parses, `getOrNone` gives the value the
path reaches, or nothing, and `get` gives the value reached, a null one too, or fails naming
the path and the payload's canonical text. For a path text that does not parse, both fail with
the text of the parse error, a `ValueError`, caused by it. -/
theorem lookup_by_path (r : Response) (text : String) :
    match Path.parse text with
    | .ok p =>
      (∀ u, r.getOrNone text = .ok (some u) ↔ Path.Reaches r.payload p u) ∧
      (r.getOrNone text = .ok none ↔ ∀ u, ¬ Path.Reaches r.payload p u) ∧
      (∀ u, r.get text = .ok u ↔ Path.Reaches r.payload p u) ∧
      (r.get text = .error (Fault.fail s!"Path '{text}' not found in GraphQL response: {r.canonical}") ↔
        ∀ u, ¬ Path.Reaches r.payload p u)
    | .error e =>
      r.getOrNone text = .error (Fault.failBecause (Exercise.pathFault text e).text
        (Exercise.pathFault text e)) ∧
      r.get text = .error (Fault.failBecause (Exercise.pathFault text e).text
        (Exercise.pathFault text e)) ∧
      (Exercise.pathFault text e).kindName = "ValueError" := by
  split
  · rename_i p hp
    have hsteps : steps text = .ok p := by simp [steps, hp]
    have hlook : r.getOrNone text = .ok (Path.resolve r.payload p) := by
      simp [getOrNone, hsteps, bind, Except.bind, pure, Except.pure]
    -- `get` reads the lookup's answer back
    have hget : r.get text = (Path.resolve r.payload p).elim
        (.error (Fault.fail s!"Path '{text}' not found in GraphQL response: {r.canonical}")) .ok := by
      unfold get
      rw [hlook]
      cases Path.resolve r.payload p <;> rfl
    rw [hlook, hget]
    refine ⟨fun u => ?_, ?_, fun u => ?_, ?_⟩
    · simp [Path.resolve_eq_some_iff]
    · simp [Path.resolve_eq_none_iff]
    · cases hr : Path.resolve r.payload p <;> simp [← Path.resolve_eq_some_iff, hr]
    · cases hr : Path.resolve r.payload p <;> simp [← Path.resolve_eq_none_iff, hr]
  · rename_i e he
    have hsteps := steps_error he
    refine ⟨?_, ?_, by cases e <;> rfl⟩
    · simp [getOrNone, hsteps, bind, Except.bind]
    · simp [get, getOrNone, hsteps, bind, Except.bind]

/-- Equal answers need not have equal hash keys: a payload member `true` equals `1`, but the
canonical texts write the two apart. -/
theorem equal_answers_keyed_apart :
    looseEq ⟨.obj [("a", .bool true)], .int 200⟩ ⟨.obj [("a", .int 1)], .int 200⟩ = true ∧
      sameKey ⟨.obj [("a", .bool true)], .int 200⟩ ⟨.obj [("a", .int 1)], .int 200⟩ = .ok false := by
  have hne : canonical ⟨.obj [("a", .bool true)], .int 200⟩ ≠
      canonical ⟨.obj [("a", .int 1)], .int 200⟩ := by decide +kernel
  refine ⟨rfl, ?_⟩
  simp only [sameKey, statusKey, bind, Except.bind, pure, Except.pure]
  rw [beq_false_of_ne hne, Bool.and_false]

end Response

end GraphProbe
