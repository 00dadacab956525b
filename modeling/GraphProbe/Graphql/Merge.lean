import GraphProbe.Graphql.Check

/-!
# Fields that can be merged

Two selections with one response key are answered by one entry, so they must ask for the
same thing: the same field with the same arguments, and sub-selections that merge in turn.
Selections on two different object types never meet in one answer, so between those only
the types they return must agree.

Design.  A selection set is read as a *field map*: the fields under each response key, in
order, each with the type it was selected on and its definition there, and the names of
the fragments it spreads. Inline fragments are read in place; named fragments are compared
as wholes, between the set's own fields and each fragment, and between every two fragments.
A pair of fragments is compared once per exclusivity: the pair is remembered, and a pair
compared as not mutually exclusive covers the exclusive comparison too. A fragment's map is
never compared with itself. The search is bounded by a depth budget far beyond any document
a request carries.

Each conflict names the key, the reason (nested for sub-selections, joined by `and`) and
the fields on both sides.
-/

namespace GraphProbe.Graphql

/-- A field as merging sees it: the type it was selected on, its node, and its definition
when that type is an object type that declares it. -/
structure FieldEntry where
  parent : Option String
  head : FieldHead
  block : Option SelectionSet
  sig : Option FieldSig

/-- The fields of a selection set under their keys, and the set they came from. -/
structure FieldMap where
  /-- Where the selection set starts, which tells sets apart. -/
  origin : Nat
  groups : List (String × List FieldEntry)

/-- A conflict: the key, why the fields conflict, and the fields on each side. -/
structure Conflict where
  key : String
  reason : String
  left : List Nat
  right : List Nat

/-- Add a field under its key. -/
def addEntry (groups : List (String × List FieldEntry)) (e : FieldEntry) :
    List (String × List FieldEntry) :=
  let k := e.head.key
  if groups.any (·.1 == k) then
    groups.map fun (k', es) => if k' == k then (k', es ++ [e]) else (k', es)
  else groups ++ [(k, [e])]

mutual
/-- Collect the fields and spread names of a selection, on a type. -/
def Selection.collectEntries (s : Schema) (parent : Option String) :
    Selection → List (String × List FieldEntry) × List String →
    List (String × List FieldEntry) × List String
  | .field h block, (groups, names) =>
    let sig := parent.bind fun p => if s.isComposite p then s.ownFieldSig? p h.name else none
    (addEntry groups ⟨parent, h, block, sig⟩, names)
  | .spread n _ _ _, (groups, names) =>
    (groups, if names.contains n then names else names ++ [n])
  | .inline cond _ b _, acc =>
    let t := match cond with
      | some c => s.conditionType c.name
      | none => parent
    b.collectEntries s t acc

/-- Collect the fields and spread names of a list of selections, on a type. -/
def Selection.listCollectEntries (s : Schema) (parent : Option String) :
    List Selection → List (String × List FieldEntry) × List String →
    List (String × List FieldEntry) × List String
  | [], acc => acc
  | x :: xs, acc => Selection.listCollectEntries s parent xs (x.collectEntries s parent acc)

/-- Collect the fields and spread names of a selection set, on a type. -/
def SelectionSet.collectEntries (s : Schema) (parent : Option String) :
    SelectionSet → List (String × List FieldEntry) × List String →
    List (String × List FieldEntry) × List String
  | .mk _ items, acc => Selection.listCollectEntries s parent items acc
end

/-- The field map of a selection set on a type, and the fragments it spreads. -/
def fieldMapOf (s : Schema) (parent : Option String) (set : SelectionSet) :
    FieldMap × List String :=
  let (groups, names) := set.collectEntries s parent ([], [])
  (⟨set.start, groups⟩, names)

/-- The field map of a named fragment, on the type it names. -/
def fragmentMap (s : Schema) (f : Fragment) : FieldMap × List String :=
  fieldMapOf s (s.conditionType f.condition.name) f.block

/-- Whether two types cannot both describe one answer: lists and non-null wrappers must
match, and leaves must be the same. -/
def typesConflict : TypeExpr → TypeExpr → Bool
  | .list a, .list b => typesConflict a b
  | .list _, _ | _, .list _ => true
  | .nonNull a, .nonNull b => typesConflict a b
  | .nonNull _, _ | _, .nonNull _ => true
  | .named a, .named b => a != b && (isLeafName a || isLeafName b)
where
  /-- Whether a name is a leaf type's. -/
  isLeafName (n : String) : Bool :=
    (Scalar.ofName? n).isSome || isMetaEnum n

/-- No type conflicts with itself. -/
theorem typesConflict_self (t : TypeExpr) : typesConflict t t = false := by
  induction t with
  | named a => simp [typesConflict]
  | list t ih => simpa [typesConflict] using ih
  | nonNull t ih => simpa [typesConflict] using ih

/-- A literal with the fields of every object in it sorted by name. -/
def Literal.sorted : Literal → Literal
  | .list items s => .list (items.attach.map fun ⟨x, _⟩ => x.sorted) s
  | .object fields starts s =>
    let sortedFields := fields.attach.map fun ⟨(k, v), _⟩ => (k, v.sorted)
    .object (sortedFields.mergeSort fun a b => decide (a.1 ≤ b.1)) starts s
  | l => l
decreasing_by
  all_goals simp_wf
  · have := List.sizeOf_lt_of_mem ‹_ ∈ items›; omega
  · have := List.sizeOf_lt_of_mem ‹_ ∈ fields›; simp at this; omega

/-- The arguments of a field as one text, sorted by name, for comparing calls. -/
def argumentsText (args : List Argument) : String :=
  printLiteral (Literal.sorted (.object (args.map fun a => (a.name, a.value)) [] 0))

/-! ### Comparing fragments once -/

/-- Whether a pair of fragments was compared: a pair compared as not mutually exclusive
covers both. -/
def pairCompared (a b : String) (exclusive : Bool) : Check Bool := do
  let (x, y) := if a < b then (a, b) else (b, a)
  match (← get).comparedPairs.find? fun (p, q, _) => p == x && q == y with
  | some (_, _, e) => pure (exclusive || e == exclusive)
  | none => pure false

/-- Remember that a pair of fragments was compared. -/
def markCompared (a b : String) (exclusive : Bool) : Check Unit := do
  let (x, y) := if a < b then (a, b) else (b, a)
  modify fun c => { c with comparedPairs :=
    (x, y, exclusive) :: c.comparedPairs.filter fun (p, q, _) => !(p == x && q == y) }

/-- The conflict of two fields whose sub-selections conflict. -/
def subfieldConflict (key : String) (l r : Nat) (subs : List Conflict) : Option Conflict :=
  if subs.isEmpty then none
  else some ⟨key, " and ".intercalate (subs.map fun c =>
      s!"subfields '{c.key}' conflict because {c.reason}"),
    l :: subs.flatMap (·.left), r :: subs.flatMap (·.right)⟩

/-- How deep the search for conflicts may go. -/
def mergeDepth : Nat := 1000

mutual
/-- The conflict between two fields of one key, their sub-selections included. -/
def fieldConflict (s : Schema) (d : Document) : Nat → Bool → String → FieldEntry →
    FieldEntry → Check (Option Conflict)
  | 0, _, _, _, _ => pure none
  | fuel + 1, parentsExclusive, key, f1, f2 => do
    let exclusive := parentsExclusive ||
      (match f1.parent, f2.parent with
        | some p1, some p2 => p1 != p2 && s.isComposite p1 && s.isComposite p2
        | _, _ => false)
    let l := f1.head.start
    let r := f2.head.start
    if !exclusive && f1.head.name != f2.head.name then
      return some ⟨key, s!"'{f1.head.name}' and '{f2.head.name}' are different fields", [l], [r]⟩
    if !exclusive && argumentsText f1.head.args != argumentsText f2.head.args then
      return some ⟨key, "they have differing arguments", [l], [r]⟩
    if let (some d1, some d2) := (f1.sig, f2.sig) then
      if typesConflict d1.type d2.type then
        return some ⟨key, s!"they return conflicting types '{d1.type.text}' and '{d2.type.text}'",
          [l], [r]⟩
    match f1.block, f2.block with
    | some b1, some b2 =>
      let subs ← subSetConflicts s d fuel exclusive ((f1.sig.map (·.type.base))) b1
        ((f2.sig.map (·.type.base))) b2
      pure (subfieldConflict key l r subs)
    | _, _ => pure none

/-- The conflicts between the fields of two selection sets, with the fragments they
spread. -/
def subSetConflicts (s : Schema) (d : Document) : Nat → Bool → Option String → SelectionSet →
    Option String → SelectionSet → Check (List Conflict)
  | 0, _, _, _, _, _ => pure []
  | fuel + 1, exclusive, p1, b1, p2, b2 => do
    let (m1, names1) := fieldMapOf s p1 b1
    let (m2, names2) := fieldMapOf s p2 b2
    let mut out ← mapsConflicts s d fuel exclusive m1 m2
    for n in names2 do
      out := out ++ (← mapFragmentConflicts s d fuel exclusive m1 n)
    for n in names1 do
      out := out ++ (← mapFragmentConflicts s d fuel exclusive m2 n)
    for n1 in names1 do
      for n2 in names2 do
        out := out ++ (← fragmentsConflicts s d fuel exclusive n1 n2)
    pure out

/-- The conflicts between the fields of two field maps with a key in common. -/
def mapsConflicts (s : Schema) (d : Document) : Nat → Bool → FieldMap → FieldMap →
    Check (List Conflict)
  | 0, _, _, _ => pure []
  | fuel + 1, exclusive, m1, m2 => do
    let mut out := []
    for (key, fields1) in m1.groups do
      let fields2 := (m2.groups.lookup key).getD []
      for f1 in fields1 do
        for f2 in fields2 do
          if let some c ← fieldConflict s d fuel exclusive key f1 f2 then out := out ++ [c]
    pure out

/-- The conflicts between a field map and a named fragment, with the fragments it spreads
in turn. -/
def mapFragmentConflicts (s : Schema) (d : Document) : Nat → Bool → FieldMap → String →
    Check (List Conflict)
  | 0, _, _, _ => pure []
  | fuel + 1, exclusive, m, name => do
    let some f := d.fragment? name | return []
    let (m2, names2) := fragmentMap s f
    if m.origin == m2.origin then return []
    let mut out ← mapsConflicts s d fuel exclusive m m2
    for n in names2 do
      if !(← pairCompared n name exclusive) then
        markCompared n name exclusive
        out := out ++ (← mapFragmentConflicts s d fuel exclusive m n)
    pure out

/-- The conflicts between two named fragments, with the fragments each spreads. -/
def fragmentsConflicts (s : Schema) (d : Document) : Nat → Bool → String → String →
    Check (List Conflict)
  | 0, _, _, _ => pure []
  | fuel + 1, exclusive, n1, n2 => do
    if n1 == n2 then return []
    if ← pairCompared n1 n2 exclusive then return []
    markCompared n1 n2 exclusive
    let (some f1, some f2) := (d.fragment? n1, d.fragment? n2) | return []
    let (m1, names1) := fragmentMap s f1
    let (m2, names2) := fragmentMap s f2
    let mut out ← mapsConflicts s d fuel exclusive m1 m2
    for n in names2 do
      out := out ++ (← fragmentsConflicts s d fuel exclusive n1 n)
    for n in names1 do
      out := out ++ (← fragmentsConflicts s d fuel exclusive n n2)
    pure out
end

/-- The conflicts within one field map: every two fields of a key. -/
def withinConflicts (s : Schema) (d : Document) (m : FieldMap) : Check (List Conflict) := do
  let mut out := []
  for (key, fields) in m.groups do
    let rec pairs : List FieldEntry → List (FieldEntry × FieldEntry)
      | [] => []
      | f :: rest => rest.map (f, ·) ++ pairs rest
    for (f1, f2) in pairs fields do
      if let some c ← fieldConflict s d mergeDepth false key f1 f2 then out := out ++ [c]
  pure out

/-- The conflicts of a selection set on a type: within its fields, between its fields and
each fragment it spreads, and between every two of those fragments. -/
def setConflicts (s : Schema) (d : Document) (parent : Option String) (set : SelectionSet) :
    Check (List Conflict) := do
  let (m, names) := fieldMapOf s parent set
  let mut out ← withinConflicts s d m
  let rec rounds : List String → Check (List Conflict)
    | [] => pure []
    | n :: rest => do
      let a ← mapFragmentConflicts s d mergeDepth false m n
      let b ← rest.foldlM (fun acc n2 => do
        pure (acc ++ (← fragmentsConflicts s d mergeDepth false n n2))) []
      pure (a ++ b ++ (← rounds rest))
  out := out ++ (← rounds names)
  pure out

/-- Report the conflicts of a selection set. -/
def checkMerging (s : Schema) (d : Document) (parent : Option String) (set : SelectionSet) :
    Check Unit := do
  for c in ← setConflicts s d parent set do
    report s!"Fields '{c.key}' conflict because {c.reason}. Use different aliases on the fields to fetch both if this was intentional."
      (c.left ++ c.right)

end GraphProbe.Graphql
