import GraphProbe.Graphql.Execute
import GraphProbe.Graphql.Suggest

/-!
# What validation knows

Validation reads a document against a schema before it is executed, and reports every rule
the document breaks, in the order a walk through the document meets them. This module holds
what the rules share:

* the schema seen as validation sees it: the fields of a type (the meta fields `__typename`,
  and `__schema` and `__type` on the query root, included), the directives and the places
  they may stand, and which named types are composite, leaves or inputs;
* the checker's state: the errors so far and what the rules remember between nodes;
* the variables a selection uses, each with the type its position expects, and the
  fragments a selection spreads, directly or through other fragments.
-/

namespace GraphProbe.Graphql

/-- What validation knows of a field: its name, its type and its arguments. -/
structure FieldSig where
  name : String
  type : TypeExpr
  args : List InputDef
  deriving Inhabited

/-- What validation knows of a field definition. -/
def FieldDef.sig (f : FieldDef) : FieldSig := ⟨f.name, f.type, f.args⟩

/-- Whether an argument must be given: its type is non-null and it has no default. -/
def InputDef.isRequired (d : InputDef) : Bool := d.type.isNonNull && d.default.isNone

/-- The place of a directive on an operation of a kind. -/
def OperationKind.location : OperationKind → DirectiveLocation
  | .query => .query
  | .mutation => .mutation
  | .subscription => .subscription

/-- A written type as text: `[Int!]`. -/
def TypeRef.text : TypeRef → String
  | .named n _ => n
  | .list t _ => "[" ++ t.text ++ "]"
  | .nonNull t _ => t.text ++ "!"

/-- The named type inside a written type, with where its name stands. -/
def TypeRef.innerName : TypeRef → String × Nat
  | .named n s => (n, s)
  | .list t _ => t.innerName
  | .nonNull t _ => t.innerName

/-! ### Directives and types a document defines

A document may hold definitions of a schema besides its operations. It cannot be run then,
but what it defines still counts while it is validated: its directive definitions stand
beside the schema's directives (replacing one of the same name), and its type definitions
name types that are known.
-/

/-- An argument as validation knows it: its name, its type as text, and whether it must be
given. -/
structure ArgSig where
  name : String
  typeText : String
  required : Bool
  deriving Inhabited

/-- A directive as validation knows it: its arguments, the places it may stand and whether
it may stand twice in one place. -/
structure DirectiveSig where
  name : String
  args : List ArgSig
  locations : List DirectiveLocation
  repeatable : Bool
  deriving Inhabited

/-- What validation knows of a directive of the schema. -/
def DirectiveDef.sig (d : DirectiveDef) : DirectiveSig :=
  ⟨d.name, d.args.map fun a => ⟨a.name, a.type.text, a.isRequired⟩, d.locations, d.repeatable⟩

/-- Whether a written type is non-null. -/
def TypeRef.isNonNull : TypeRef → Bool
  | .nonNull .. => true
  | _ => false

/-- What validation knows of a directive a document defines. -/
def SchemaItem.directiveSig? (item : SchemaItem) : Option DirectiveSig :=
  match item.kind, item.name with
  | .directive, some n =>
    some ⟨n, item.args.map fun a => ⟨a.name, a.type.text, a.type.isNonNull && a.default.isNone⟩,
      item.locations.filterMap DirectiveLocation.ofName?, item.repeatable⟩
  | _, _ => none

/-- The directives validation knows, the document's first, the last defined of a name
before an earlier one, then the schema's. -/
def Document.directiveSigs (d : Document) : List DirectiveSig :=
  (d.schemaItems.filterMap SchemaItem.directiveSig?).reverse ++ builtinDirectives.map DirectiveDef.sig

/-- Whether a definition of a schema defines a type (rather than extending one, or defining
the schema or a directive). -/
def SchemaItem.definesType (item : SchemaItem) : Bool :=
  !item.extension && item.kind != .schema && item.kind != .directive

/-- The names of the types a document defines, in order. -/
def Document.definedTypes (d : Document) : List String :=
  d.schemaItems.filterMap fun i => if i.definesType then i.name else none

/-- The names of the built-in scalars and the meta types: a definition of a schema may
name them whatever the schema holds. -/
def standardTypeNames : List String :=
  ["String", "Int", "Float", "Boolean", "ID"] ++ metaTypeNames

namespace Schema

/-- Whether a named type has fields to select: an object type, the only kind of composite
type a schema here has. -/
def isComposite (s : Schema) (name : String) : Bool :=
  match s.shape? name with
  | some (.object _) => true
  | _ => false

/-- Whether a named type is a leaf: a scalar or an enumeration. -/
def isLeaf (s : Schema) (name : String) : Bool :=
  match s.shape? name with
  | some (.scalar _) | some (.enum _) => true
  | _ => false

/-- The fields an object type declares, by name. -/
def ownFieldSig? (s : Schema) (parent name : String) : Option FieldSig :=
  match s.shape? parent with
  | some (.object o) => (o.field? name).map FieldDef.sig
  | _ => none

/-- The field of a composite type with a name, the meta fields included. -/
def fieldSig? (s : Schema) (parent name : String) : Option FieldSig :=
  match s.shape? parent with
  | some (.object o) => (s.fieldDefOf o name).map FieldDef.sig
  | _ => none

/-- The names of the fields an object type declares, in order. -/
def fieldNames (s : Schema) (parent : String) : List String :=
  match s.shape? parent with
  | some (.object o) => o.fields.map (·.name)
  | _ => []

/-- The composite type a written type condition names, if the schema knows it. -/
def conditionType (s : Schema) (name : String) : Option String :=
  if (s.shape? name).isSome then some name else none

end Schema

/-- What validation has found so far and what its rules remember between nodes. -/
structure Checker where
  /-- The directives known: the document's and the schema's (see `Document.directiveSigs`). -/
  directives : List DirectiveSig := builtinDirectives.map DirectiveDef.sig
  /-- The names of the types the document defines. -/
  definedTypes : List String := []
  errors : Array GraphqlError := #[]
  /-- Whether too many errors were found, or a rule failed: nothing more is reported. -/
  aborted : Bool := false
  /-- The error a rule failed with, which ends validation. -/
  crash : Option GraphqlError := none
  /-- Operation names seen, with where each first stood. -/
  operationNames : List (String × Nat) := []
  /-- Fragment names seen, with where each first stood. -/
  fragmentNames : List (String × Nat) := []
  /-- Fragments already searched for cycles. -/
  visitedFragments : List String := []
  /-- Pairs of fragments already compared for merging fields, and whether they were
  compared as mutually exclusive. -/
  comparedPairs : List (String × String × Bool) := []
  /-- Directives seen on definitions of the schema itself, with where each first stood. -/
  schemaDirectives : List (String × Nat) := []
  /-- Directives seen on the definitions of each type, with where each first stood. -/
  typeDirectives : List (String × List (String × Nat)) := []
  deriving Inhabited

/-- A validation in progress. -/
abbrev Check := StateM Checker

/-- The most errors reported before validation gives up. -/
def errorLimit : Nat := 100

/-- Report an error at positions. Past the limit, one last error says validation gave up,
and nothing is reported after it. -/
def report (message : String) (positions : List Nat) : Check Unit :=
  modify fun c =>
    if c.aborted then c
    else if c.errors.size ≥ errorLimit then
      let last : GraphqlError :=
        { message := "Too many validation errors, error limit reached. Validation aborted." }
      { c with aborted := true, errors := c.errors.push last }
    else { c with errors := c.errors.push { message, positions } }

/-- A rule fails with an error: validation ends there. -/
def fail (e : GraphqlError) : Check Unit :=
  modify fun c => if c.aborted then c else { c with aborted := true, crash := some e }

/-! ### Fragments a selection spreads -/

mutual
/-- How many selection sets a selection holds. -/
def Selection.setCount : Selection → Nat
  | .field _ none => 0
  | .field _ (some b) => b.setCount
  | .spread .. => 0
  | .inline _ _ b _ => b.setCount

/-- How many selection sets a list of selections holds. -/
def Selection.listSetCount : List Selection → Nat
  | [] => 0
  | x :: xs => x.setCount + Selection.listSetCount xs

/-- How many selection sets a set holds, itself included. -/
def SelectionSet.setCount : SelectionSet → Nat
  | .mk _ items => 1 + Selection.listSetCount items
end

/-- The spreads of a selection set, in the sets below it too but not through named
fragments: the sets are searched from a stack, each set's own spreads first in order, then
its nested sets from the last one back. Each spread is its fragment's name and where the
spread stands. -/
def SelectionSet.spreads (set : SelectionSet) : List (String × Nat) :=
  go (set.setCount + 1) [set] []
where
  /-- Search the sets on the stack. -/
  go : Nat → List SelectionSet → List (String × Nat) → List (String × Nat)
    | 0, _, acc => acc
    | _ + 1, [], acc => acc
    | fuel + 1, s :: stack, acc =>
      let own := s.items.filterMap fun
        | .spread n _ _ start => some (n, start)
        | _ => none
      let nested := s.items.filterMap fun
        | .field _ b => b
        | .inline _ _ b _ => some b
        | .spread .. => none
      go fuel (nested.reverse ++ stack) (acc ++ own)

/-- The fragment of a name in a document: the last one defined with it. -/
def Document.fragment? (d : Document) (name : String) : Option Fragment :=
  d.fragments.reverse.find? (·.name == name)

/-- The fragments a selection set spreads, directly or through other fragments, each once,
in the order a stack of sets to search finds them. -/
def Document.referencedFragments (d : Document) (set : SelectionSet) : List Fragment :=
  go (d.fragments.length + 1) [set] [] []
where
  /-- Search the sets on the stack, remembering the names met. -/
  go : Nat → List SelectionSet → List String → List Fragment → List Fragment
    | 0, _, _, acc => acc
    | _ + 1, [], _, acc => acc
    | fuel + 1, s :: stack, seen, acc =>
      let (stack, seen, acc) := s.spreads.foldl (fun (st : List SelectionSet × List String × List Fragment) (n, _) =>
        let (stack, seen, acc) := st
        if seen.contains n then st
        else
          match d.fragment? n with
          | some f => (f.block :: stack, n :: seen, acc ++ [f])
          | none => (stack, n :: seen, acc)) (stack, seen, acc)
      go fuel stack seen acc

/-! ### How deep introspection goes

An introspection query may nest the lists of a type's fields, interfaces, possible types
and input fields inside each other without end. Three such lists on one path of
selections, counted through fragments, is too deep. A fragment already on the path is not
entered again, so the walk ends.
-/

/-- The fields of the meta types that list fields or types. -/
def introspectionLists : List String := ["fields", "interfaces", "possibleTypes", "inputFields"]

/-- How many lists on one path are too many. -/
def introspectionListLimit : Nat := 3

/-- Whether a selection, with a number of lists above it, reaches the limit of nested lists
on some path; the fragments on the path are not entered again. Each step down takes one of
the budget. -/
def Document.listsTooDeep (d : Document) : Nat → List String → Nat → Selection → Bool
  | 0, _, _, _ => false
  | fuel + 1, path, depth, sel =>
    match sel with
    | .field h block =>
      let counted := introspectionLists.contains h.name
      let depth := if counted then depth + 1 else depth
      if counted && depth ≥ introspectionListLimit then true
      else match block with
        | some b => b.items.any (d.listsTooDeep fuel path depth)
        | none => false
    | .inline _ _ b _ => b.items.any (d.listsTooDeep fuel path depth)
    | .spread n _ _ _ =>
      if path.contains n then false
      else match d.fragment? n with
        | some f => f.block.items.any (d.listsTooDeep fuel (n :: path) depth)
        | none => false

/-- Whether the selections of an introspection field nest too many lists. A path enters
each fragment once and descends at most as many levels in each body as it has selection
sets, which bounds the budget. -/
def Document.introspectionTooDeep (d : Document) (block : SelectionSet) : Bool :=
  let sets := block.setCount + d.fragments.foldr (fun f n => f.block.setCount + n) 0
  block.items.any (d.listsTooDeep (sets + d.fragments.length + 2) [] 0)

/-! ### Variables a selection uses -/

/-- A variable used in a document: its name, where it stands, the type its position
expects (when known) and whether that position has a default. -/
structure VariableUsage where
  name : String
  start : Nat
  type : Option TypeExpr
  hasDefault : Bool
  deriving Inhabited

/-- The type of the items at a position of a type: the item type of a list, else the type
without its non-null wrapper. -/
def itemType : Option TypeExpr → Option TypeExpr
  | some t =>
    match t.nullable with
    | .list i => some i
    | other => some other
  | none => none

mutual
/-- The variables a value uses, at a position expecting a type. -/
def Literal.usages (t : Option TypeExpr) (hasDefault : Bool) : Literal → List VariableUsage
  | .var n start => [⟨n, start, t, hasDefault⟩]
  | .list items _ => Literal.itemUsages (itemType t) items
  | .object fields _ _ => Literal.fieldUsages fields
  | _ => []

/-- The variables the items of a list use. -/
def Literal.itemUsages (t : Option TypeExpr) : List Literal → List VariableUsage
  | [] => []
  | x :: xs => x.usages t false ++ Literal.itemUsages t xs

/-- The variables the fields of an object use: no field has a known type. -/
def Literal.fieldUsages : List (String × Literal) → List VariableUsage
  | [] => []
  | (_, v) :: rest => v.usages none false ++ Literal.fieldUsages rest
end

/-- The variables arguments use, given the arguments declared where they stand. -/
def argumentUsages (defs : Option (List InputDef)) (args : List Argument) : List VariableUsage :=
  args.flatMap fun a =>
    let d := defs.bind fun ds => ds.find? (·.name == a.name)
    a.value.usages (d.map (·.type)) ((d.bind (·.default)).isSome)

/-- The variables directives use; the arguments of a directive the schema does not know
are read against the field's. -/
def directiveUsages (field : Option FieldSig) (ds : List Directive) : List VariableUsage :=
  ds.flatMap fun d =>
    let defs := match directive? d.name with
      | some dd => some dd.args
      | none => field.map (·.args)
    argumentUsages defs d.args

mutual
/-- The variables a selection uses, on a parent type, inside a field. -/
def Selection.usages (s : Schema) (parent : Option String) (field : Option FieldSig) :
    Selection → List VariableUsage
  | .field h block =>
    let sig := parent.bind (s.fieldSig? · h.name)
    let own := argumentUsages (sig.map (·.args)) h.args ++ directiveUsages sig h.directives
    let inner := match block with
      | some b =>
        let p := sig.bind fun f => if s.isComposite f.type.base then some f.type.base else none
        b.usages s p sig
      | none => []
    own ++ inner
  | .spread _ _ ds _ => directiveUsages field ds
  | .inline cond ds b _ =>
    let t := match cond with
      | some c => s.conditionType c.name
      | none => parent
    directiveUsages field ds ++
      b.usages s (t.bind fun n => if s.isComposite n then some n else none) field

/-- The variables a list of selections uses. -/
def Selection.listUsages (s : Schema) (parent : Option String) (field : Option FieldSig) :
    List Selection → List VariableUsage
  | [] => []
  | x :: xs => x.usages s parent field ++ Selection.listUsages s parent field xs

/-- The variables a selection set uses. -/
def SelectionSet.usages (s : Schema) (parent : Option String) (field : Option FieldSig) :
    SelectionSet → List VariableUsage
  | .mk _ items => Selection.listUsages s parent field items
end

/-- The variables a fragment uses. -/
def Fragment.usages (s : Schema) (f : Fragment) : List VariableUsage :=
  let t := s.conditionType f.condition.name
  directiveUsages none f.directives ++
    f.block.usages s (t.bind fun n => if s.isComposite n then some n else none) none

/-- The variables an operation uses, in the fragments it spreads too. -/
def Operation.usages (s : Schema) (d : Document) (op : Operation) : List VariableUsage :=
  let root := (s.rootOf op.kind).map (·.name)
  directiveUsages none op.directives ++ op.block.usages s root none ++
    (d.referencedFragments op.block).flatMap (·.usages s)

end GraphProbe.Graphql
