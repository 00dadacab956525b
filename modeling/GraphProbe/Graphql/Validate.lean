import GraphProbe.Graphql.Merge

/-!
# Validating documents

`validate` checks a document against a schema before it is executed, by the rules every
server applies, and gives the errors in the order a walk through the document meets them.

Design.  The walk visits each node once, in document order, and at each node runs the
checks of every rule that looks at such a node, in the fixed order of the rules; checks
that need what lies below a node (required arguments, the variables an operation uses) run
when the walk leaves it. What the walk knows at a node is its *place*: the composite type
of the enclosing selections, the output type at hand and the innermost field's definition.
Values are checked against the input type expected where they stand; a value refused as a
whole is not checked inside.

The rules, in order: only executable definitions, unique operation names, a lone anonymous operation, single-field
subscriptions, known type names, fragments on composite types, variables of input types,
leaf fields without selections (and composite fields with them), fields that exist, unique
fragment names, known fragments, no unused fragments, possible fragment spreads, no
fragment cycles, unique variable names, no undefined variables, no unused variables, known
directives in their places, directives used once per place, known argument names, unique
argument names, values of the right type, required arguments given, variables used where
their type fits, fields that can be merged, unique input field names, and introspection
that does not nest too deep.

After 100 errors validation gives up with one last error. A rule that fails (reading the
subscription's root fields can fail on a directive's argument) ends validation with its
error.
-/

namespace GraphProbe.Graphql

/-- Where the walk stands: the composite type of the enclosing selections, the output type
at hand and the innermost field's definition. -/
structure Place where
  parent : Option String := none
  type : Option TypeExpr := none
  field : Option FieldSig := none
  /-- Whether an introspection field above was found too deep: the rule looks no further. -/
  deepReported : Bool := false

/-- Whether a named type may be given as input: a scalar or an enumeration. -/
def Schema.isInputName (s : Schema) (name : String) : Bool := s.isLeaf name

/-- The composite type a type names, if it names one. -/
def Schema.compositeOf (s : Schema) (t : Option TypeExpr) : Option String :=
  t.bind fun t => if s.isComposite t.base then some t.base else none

/-- Whether a variable's type fits where a type is expected: the same type, where the
variable may be non-null where the position is nullable. -/
def subTypeOf : TypeExpr → TypeExpr → Bool
  | .nonNull v, .nonNull t => subTypeOf v t
  | _, .nonNull _ => false
  | .nonNull v, t => subTypeOf v t
  | .list v, .list t => subTypeOf v t
  | _, .list _ => false
  | .list _, _ => false
  | .named a, .named b => a == b

/-- Every type fits where it is itself expected. -/
theorem subTypeOf_refl (t : TypeExpr) : subTypeOf t t = true := by
  induction t with
  | named a => simp [subTypeOf]
  | list t ih => simpa [subTypeOf] using ih
  | nonNull t ih => simpa [subTypeOf] using ih

/-- Whether a variable may be used where a type is expected. A nullable variable fits a
non-null position when the variable or the position has a default that is not `null`. -/
def allowedUsage (varType : TypeExpr) (varDefault : Option Literal) (location : TypeExpr)
    (locationDefault : Bool) : Bool :=
  match location with
  | .nonNull inner =>
    if varType.isNonNull then subTypeOf varType location
    else
      let nonNullDefault := match varDefault with
        | some (.null _) | none => false
        | some _ => true
      (nonNullDefault || locationDefault) && subTypeOf varType inner
  | _ => subTypeOf varType location

/-! ### Names and types -/

/-- Known type names: a named type must exist in the schema or be defined by the document.
Inside a definition of a schema (`sdl`) the built-in scalars and the meta types are known
too, and they are offered as suggestions. -/
def checkTypeName (s : Schema) (sdl : Bool) (name : String) (start : Nat) : Check Unit := do
  let defined := (← get).definedTypes
  if (s.shape? name).isSome || defined.contains name then pure ()
  else if sdl && standardTypeNames.contains name then pure ()
  else
    let names := (if sdl then standardTypeNames else []) ++ s.typeNames ++ defined
    report (s!"Unknown type '{name}'." ++ didYouMean (suggestionList name names)) [start]

/-- Directives used once per place: a directive that may not repeat appears at most once
among the directives of a place, given those seen there before (with where each first
stood). Returns them with the new ones added. -/
def uniqueDirectives (seen : List (String × Nat)) (ds : List Directive) :
    Check (List (String × Nat)) := do
  let table := (← get).directives
  let mut seen := seen
  for dir in ds do
    if let some dd := table.find? (·.name == dir.name) then
      if !dd.repeatable then
        match seen.lookup dir.name with
        | some first =>
          report s!"The directive '@{dir.name}' can only be used once at this location."
            [first, dir.start]
        | none => seen := seen ++ [(dir.name, dir.start)]
  pure seen

/-- Directives used once per place, on a node that is a place of its own. -/
def checkUniqueDirectives (ds : List Directive) : Check Unit := do
  let _ ← uniqueDirectives [] ds

/-! ### Values -/

/-- Whether a literal fits a leaf type, as the type reads literals; the message of the
refusal otherwise. -/
def literalFits (s : Schema) (t : Option TypeExpr) (l : Literal) : Check Unit :=
  match t with
  | none => pure ()
  | some t =>
    match s.shape? t.base with
    | some (.scalar sc) =>
      match parseScalarLiteral sc l with
      | .ok _ => pure ()
      | .error m => report m [l.start]
    | some (.enum e) =>
      match parseEnumLiteral e l with
      | .ok _ => pure ()
      | .error m => report m [l.start]
    | _ => report s!"Expected value of type '{t.text}', found {printLiteral l}." [l.start]

mutual
/-- Check a value at a position expecting a type (when known). `typed` tells whether the
value is still checked against types: inside a value refused as a whole it is not. -/
def checkValue (s : Schema) : Option TypeExpr → Bool → Literal → Check Unit
  | t, typed, .list items start => do
    let item := itemType t
    let isList := match t with
      | some t => match t.nullable with
        | .list _ => true
        | _ => false
      | none => false
    if typed && !isList then literalFits s item (.list items start)
    checkItems s item (typed && isList) items
  | t, typed, .object fields starts start => do
    if typed then literalFits s t (.object fields starts start)
    checkFields s [] starts fields
  | t, typed, .null start =>
    match t with
    | some ty =>
      if typed && ty.isNonNull then report s!"Expected value of type '{ty.text}', found null." [start]
      else pure ()
    | none => pure ()
  | _, _, .var .. => pure ()
  | t, typed, l => if typed then literalFits s t l else pure ()

/-- Check the items of a list. -/
def checkItems (s : Schema) (t : Option TypeExpr) (typed : Bool) : List Literal → Check Unit
  | [] => pure ()
  | x :: xs => do checkValue s t typed x; checkItems s t typed xs

/-- Check the fields of an object value, given where their names start: each name once. -/
def checkFields (s : Schema) (seen : List (String × Nat)) (starts : List Nat) :
    List (String × Literal) → Check Unit
  | [] => pure ()
  | (k, v) :: rest => do
    let start := starts.headD 0
    let seen ← match seen.lookup k with
      | some first => do
        report s!"There can be only one input field named '{k}'." [first, start]
        pure seen
      | none => pure (seen ++ [(k, start)])
    checkValue s none false v
    checkFields s seen starts.tail rest
end

/-! ### Arguments and directives -/

/-- Check the arguments of a field or a directive: each name once, and each value against
the argument's type. `unknown` checks an argument's name against the field's. -/
def checkArguments (s : Schema) (defs : Option (List InputDef)) (unknown : Argument → Check Unit)
    (args : List Argument) : Check Unit := do
  let mut seen : List (String × Nat) := []
  for a in args do
    unknown a
    match seen.lookup a.name with
    | some first => report s!"There can be only one argument named '{a.name}'." [first, a.start]
    | none => seen := seen ++ [(a.name, a.start)]
    let d := defs.bind fun ds => ds.find? (·.name == a.name)
    checkValue s (d.map (·.type)) true a.value

/-- Check a directive standing at a place: known, allowed there, with known and unique
arguments of the right types, and its required arguments given. Which directives are known,
with their arguments and places, counts the document's definitions; the types of the
arguments' values are the schema's directive's, and for a directive the schema does not
know they are read against the field's arguments. -/
def checkDirective (s : Schema) (loc : DirectiveLocation) (place : Place) (dir : Directive) :
    Check Unit := do
  let valueDefs := match directive? dir.name with
    | some dd => some dd.args
    | none => place.field.map (·.args)
  match (← get).directives.find? (·.name == dir.name) with
  | some dd =>
    if dd.locations.isEmpty then report s!"Unknown directive '@{dir.name}'." [dir.start]
    else if !dd.locations.contains loc then
      report s!"Directive '@{dir.name}' may not be used on {loc.text}." [dir.start]
    for a in dir.args do
      if !dd.args.any (·.name == a.name) then
        report (s!"Unknown argument '{a.name}' on directive '@{dir.name}'." ++
          didYouMean (suggestionList a.name (dd.args.map (·.name)))) [a.start]
    checkArguments s valueDefs (fun _ => pure ()) dir.args
    for arg in dd.args do
      if arg.required && !dir.args.any (·.name == arg.name) then
        report s!"Directive '@{dir.name}' argument '{arg.name}' of type '{arg.typeText}' is required, but it was not provided."
          [dir.start]
  | none =>
    report s!"Unknown directive '@{dir.name}'." [dir.start]
    checkArguments s valueDefs (fun _ => pure ()) dir.args

/-- Check the directives of a node. -/
def checkDirectives (s : Schema) (loc : DirectiveLocation) (place : Place) (ds : List Directive) :
    Check Unit :=
  ds.forM (checkDirective s loc place)

/-! ### Selections -/

/-- The checks of a field before what lies below it: leaf fields without selections and
composite fields with them, fields that exist, directives once; then its arguments and
directives. The place of its selections. -/
def enterField (s : Schema) (d : Document) (place : Place) (h : FieldHead)
    (block : Option SelectionSet) : Check Place := do
  let sig := place.parent.bind (s.fieldSig? · h.name)
  let type := sig.map (·.type)
  if let some t := type then
    if s.isLeaf t.base then
      if let some b := block then
        report s!"Field '{h.name}' must not have a selection since type '{t.text}' has no subfields."
          [b.start]
    else if block.isNone then
      report s!"Field '{h.name}' of type '{t.text}' must have a selection of subfields. Did you mean '{h.name} \x7b ... \x7d'?"
        [h.start]
  if let some p := place.parent then
    if sig.isNone then
      report (s!"Cannot query field '{h.name}' on type '{p}'." ++
        didYouMean (suggestionList h.name (s.fieldNames p))) [h.start]
  checkUniqueDirectives h.directives
  let tooDeep := !place.deepReported && (h.name == "__schema" || h.name == "__type") &&
    (block.map d.introspectionTooDeep).getD false
  if tooDeep then report "Maximum introspection depth exceeded" [h.start]
  let unknown (a : Argument) : Check Unit :=
    match sig, place.parent with
    | some f, some p =>
      if f.args.any (·.name == a.name) then pure ()
      else report (s!"Unknown argument '{a.name}' on field '{p}.{h.name}'." ++
        didYouMean (suggestionList a.name (f.args.map (·.name)))) [a.start]
    | _, _ => pure ()
  checkArguments s (sig.map (·.args)) unknown h.args
  let inner : Place :=
    { parent := s.compositeOf type, type, field := sig, deepReported := place.deepReported || tooDeep }
  checkDirectives s .field { place with field := sig } h.directives
  pure inner

/-- The check of a field after what lies below it: its required arguments are given. -/
def leaveField (s : Schema) (place : Place) (h : FieldHead) : Check Unit := do
  let sig := place.parent.bind (s.fieldSig? · h.name)
  if let some f := sig then
    for a in f.args do
      if a.isRequired && !h.args.any (·.name == a.name) then
        report s!"Field '{h.name}' argument '{a.name}' of type '{a.type.text}' is required, but it was not provided."
          [h.start]

/-- The checks of a fragment spread: the fragment is known and can apply here; directives
once; then its directives. -/
def checkSpread (s : Schema) (d : Document) (place : Place) (name : String) (nameStart : Nat)
    (ds : List Directive) (start : Nat) : Check Unit := do
  let fragment := d.fragment? name
  if fragment.isNone then report s!"Unknown fragment '{name}'." [nameStart]
  let fragType := fragment.bind fun f =>
    if s.isComposite f.condition.name then some f.condition.name else none
  if let (some ft, some pt) := (fragType, place.parent) then
    if ft != pt then
      report s!"Fragment '{name}' cannot be spread here as objects of type '{pt}' can never be of type '{ft}'."
        [start]
  checkUniqueDirectives ds
  checkDirectives s .fragmentSpread place ds

/-- The checks of an inline fragment before its selections: its condition is composite and
can apply here; directives once; then its condition and directives. The place of its
selections. -/
def enterInline (s : Schema) (place : Place) (cond : Option TypeCondition) (ds : List Directive)
    (start : Nat) : Check Place := do
  let type : Option TypeExpr := match cond with
    | some c => if (s.shape? c.name).isSome then some (.named c.name) else none
    | none => place.type.map fun t => .named t.base
  if let some c := cond then
    if (s.shape? c.name).isSome && !s.isComposite c.name then
      report s!"Fragment cannot condition on non composite type '{c.name}'." [c.start]
  if let (some ft, some pt) := (s.compositeOf type, place.parent) then
    if ft != pt then
      report s!"Fragment cannot be spread here as objects of type '{pt}' can never be of type '{ft}'."
        [start]
  checkUniqueDirectives ds
  if let some c := cond then checkTypeName s false c.name c.start
  checkDirectives s .inlineFragment place ds
  pure { place with parent := s.compositeOf type, type }

mutual
/-- Check a selection set at a place: its fields can be merged, then each selection. -/
def checkSet (s : Schema) (d : Document) : Place → SelectionSet → Check Unit
  | place, .mk start items => do
    checkMerging s d place.parent (.mk start items)
    checkSelections s d place items

/-- Check selections in order. -/
def checkSelections (s : Schema) (d : Document) : Place → List Selection → Check Unit
  | _, [] => pure ()
  | place, x :: xs => do
    checkSelection s d place x
    checkSelections s d place xs

/-- Check one selection. -/
def checkSelection (s : Schema) (d : Document) : Place → Selection → Check Unit
  | place, .field h none => do
    let _ ← enterField s d place h none
    leaveField s place h
  | place, .field h (some b) => do
    let inner ← enterField s d place h (some b)
    checkSet s d inner b
    leaveField s place h
  | place, .spread name nameStart ds start => checkSpread s d place name nameStart ds start
  | place, .inline cond ds b start => do
    let inner ← enterInline s place cond ds start
    checkSet s d inner b
end

/-! ### Definitions -/

/-- Single-field subscriptions: a subscription selects one root field, and not an
introspection field. Its root fields are collected as execution collects them, without
variables; a directive that cannot be read so ends validation. -/
def checkSubscription (s : Schema) (d : Document) (op : Operation) : Check Unit := do
  let some root := s.subscription | return
  let ctx : ExecContext := ⟨s, op, d.fragments.reverse, []⟩
  match ctx.rootFields root with
  | .error e => fail e
  | .ok groups =>
    let lead := match op.name with
      | some n => s!"Subscription '{n}'"
      | none => "Anonymous Subscription"
    if groups.length > 1 then
      report (lead ++ " must select only one top level field.")
        ((groups.drop 1).flatMap fun (_, nodes) => nodes.map (·.1.start))
    for (_, nodes) in groups do
      match nodes.head? with
      | some (h, _) =>
        if h.name.startsWith "__" then
          report (lead ++ " must not select an introspection top level field.")
            (nodes.map (·.1.start))
      | none => pure ()

/-- Check a variable definition: of an input type, named once, its type known and its
default of that type. Returns the names seen so far. -/
def checkVariable (s : Schema) (seen : List (String × Nat)) (v : VariableDefinition) :
    Check (List (String × Nat)) := do
  let t := s.typeOf v.type
  if let some ty := t then
    if !s.isInputName ty.base then
      report s!"Variable '${v.name}' cannot be non-input type '{v.type.text}'." [v.type.start]
  let seen ← match seen.lookup v.name with
    | some first => do
      report s!"There can be only one variable named '${v.name}'." [first, v.nameStart]
      pure seen
    | none => pure (seen ++ [(v.name, v.nameStart)])
  checkUniqueDirectives v.directives
  let (n, nStart) := v.type.innerName
  checkTypeName s false n nStart
  if let some dv := v.default then
    checkValue s (t.bind fun ty => if s.isInputName ty.base then some ty else none) true dv
  checkDirectives s .variableDefinition {} v.directives
  pure seen

/-- The checks of an operation when the walk leaves it: every variable used is defined,
every variable defined is used, and each is used where its type fits. -/
def leaveOperation (s : Schema) (d : Document) (op : Operation) : Check Unit := do
  let usages := op.usages s d
  for u in usages do
    if !op.vars.any (·.name == u.name) then
      report (match op.name with
        | some n => s!"Variable '${u.name}' is not defined by operation '{n}'."
        | none => s!"Variable '${u.name}' is not defined.") [u.start, op.start]
  for v in op.vars do
    if !usages.any (·.name == v.name) then
      report (match op.name with
        | some n => s!"Variable '${v.name}' is never used in operation '{n}'."
        | none => s!"Variable '${v.name}' is never used.") [v.start]
  for u in usages do
    if let (some vd, some location) := (op.vars.reverse.find? (·.name == u.name), u.type) then
      if let some varType := s.typeOf vd.type then
        if !allowedUsage varType vd.default location u.hasDefault then
          report s!"Variable '${u.name}' of type '{varType.text}' used in position expecting type '{location.text}'."
            [vd.start, u.start]

/-- Check an operation. -/
def checkOperation (s : Schema) (d : Document) (op : Operation) : Check Unit := do
  if let some n := op.name then
    match (← get).operationNames.lookup n with
    | some first => report s!"There can be only one operation named '{n}'." [first, op.nameStart]
    | none => modify fun c => { c with operationNames := c.operationNames ++ [(n, op.nameStart)] }
  if op.name.isNone && d.operations.length > 1 then
    report "This anonymous operation must be the only defined operation." [op.start]
  if op.kind == .subscription then checkSubscription s d op
  checkUniqueDirectives op.directives
  let _ ← op.vars.foldlM (checkVariable s) []
  checkDirectives s op.kind.location {} op.directives
  let root := s.rootOf op.kind
  let type : Option TypeExpr := root.map fun o => .named o.name
  checkSet s d { parent := root.map (·.name), type } op.block
  leaveOperation s d op

/-- Search the fragments a fragment spreads for cycles back to a fragment on the path of
spreads being followed, each fragment searched once. Every cycle found is reported at its
spreads. The budget, one more than the number of fragments, bounds the depth: each step
enters a fragment not entered before. -/
def findCycles (d : Document) : Nat → Fragment → List (String × Nat) → List (String × Nat) →
    Check Unit
  | 0, _, _, _ => pure ()
  | fuel + 1, f, path, onPath => do
    if (← get).visitedFragments.contains f.name then return
    modify fun c => { c with visitedFragments := c.visitedFragments ++ [f.name] }
    let spreads := f.block.spreads
    if spreads.isEmpty then return
    let onPath := (f.name, path.length) :: onPath
    for (n, start) in spreads do
      let path' := path ++ [(n, start)]
      match onPath.lookup n with
      | none =>
        if let some g := d.fragment? n then findCycles d fuel g path' onPath
      | some i =>
        let cycle := path'.drop i
        let via := ", ".intercalate (cycle.dropLast.map fun (m, _) => "'" ++ m ++ "'")
        report (s!"Cannot spread fragment '{n}' within itself" ++
          (if via.isEmpty then "." else s!" via {via}.")) (cycle.map (·.2))

/-- Check a fragment definition. -/
def checkFragment (s : Schema) (d : Document) (f : Fragment) : Check Unit := do
  let known := (s.shape? f.condition.name).isSome
  if known && !s.isComposite f.condition.name then
    report s!"Fragment '{f.name}' cannot condition on non composite type '{f.condition.name}'."
      [f.condition.start]
  match (← get).fragmentNames.lookup f.name with
  | some first => report s!"There can be only one fragment named '{f.name}'." [first, f.nameStart]
  | none => modify fun c => { c with fragmentNames := c.fragmentNames ++ [(f.name, f.nameStart)] }
  findCycles d (d.fragments.length + 1) f [] []
  checkUniqueDirectives f.directives
  checkTypeName s false f.condition.name f.condition.start
  checkDirectives s .fragmentDefinition {} f.directives
  let type : Option TypeExpr := if known then some (.named f.condition.name) else none
  checkSet s d { parent := s.compositeOf type, type } f.block

/-! ### Definitions of a schema

A document that defines a schema's parts cannot be run: each such definition is reported
first. The walk then checks them as it checks the rest, with the rules that apply to them:
the types they name are known, their directives are known, allowed where they stand, used
once there and given their arguments, and object values in defaults name each field once.
The definitions and extensions of the schema itself are one place for the rule of directives
used once, and so are those of each type.
-/

/-- How a definition of a schema is named when it is refused as not executable. -/
def SchemaItem.label (item : SchemaItem) : String :=
  match item.kind, item.name with
  | .schema, _ => "schema"
  | _, some n => s!"'{n}'"
  | _, none => "schema"

/-- The place of a directive on a definition of a schema of a kind. -/
def SchemaItemKind.location : SchemaItemKind → DirectiveLocation
  | .schema => .schema
  | .scalar => .scalar
  | .object => .object
  | .interface => .interface
  | .union => .union
  | .enum => .enum
  | .inputObject => .inputObject
  | .directive => .directiveDefinition

/-- Check an input value a definition declares: its directives once, the type it names,
its default, then its directives at their place. -/
def checkInputValue (s : Schema) (loc : DirectiveLocation) (iv : InputValueDefinition) :
    Check Unit := do
  checkUniqueDirectives iv.directives
  let (n, start) := iv.type.innerName
  checkTypeName s true n start
  if let some dv := iv.default then checkValue s none true dv
  checkDirectives s loc {} iv.directives

/-- Check a field a definition declares: its directives once, its arguments, its type,
then its directives. -/
def checkFieldDefinition (s : Schema) (f : FieldDefinition) : Check Unit := do
  checkUniqueDirectives f.directives
  for a in f.args do checkInputValue s .argumentDefinition a
  let (n, start) := f.type.innerName
  checkTypeName s true n start
  checkDirectives s .fieldDefinition {} f.directives

/-- Directives used once on a definition of a schema, sharing the place of the schema or of
the type it defines or extends. -/
def uniqueItemDirectives (item : SchemaItem) : Check Unit := do
  match item.kind, item.name with
  | .schema, _ =>
    let seen ← uniqueDirectives (← get).schemaDirectives item.directives
    modify fun c => { c with schemaDirectives := seen }
  | .directive, _ => pure ()
  | _, some n =>
    let seen ← uniqueDirectives (((← get).typeDirectives.lookup n).getD []) item.directives
    modify fun c => { c with typeDirectives :=
      (n, seen) :: c.typeDirectives.filter (·.1 != n) }
  | _, none => pure ()

/-- Check a definition of a schema, its parts in the order they are written. The input
fields of an input object type's extension stand where arguments do. -/
def checkSchemaItem (s : Schema) (item : SchemaItem) : Check Unit := do
  uniqueItemDirectives item
  let loc := item.kind.location
  match item.kind with
  | .schema =>
    checkDirectives s loc {} item.directives
    for (_, t) in item.rootTypes do checkTypeName s true t.name t.start
  | .scalar => checkDirectives s loc {} item.directives
  | .object | .interface =>
    for t in item.interfaces do checkTypeName s true t.name t.start
    checkDirectives s loc {} item.directives
    for f in item.fields do checkFieldDefinition s f
  | .union =>
    checkDirectives s loc {} item.directives
    for t in item.members do checkTypeName s true t.name t.start
  | .enum =>
    checkDirectives s loc {} item.directives
    for v in item.values do
      checkUniqueDirectives v.directives
      checkDirectives s .enumValue {} v.directives
  | .inputObject =>
    checkDirectives s loc {} item.directives
    let fieldLoc : DirectiveLocation :=
      if item.extension then .argumentDefinition else .inputFieldDefinition
    for f in item.inputFields do checkInputValue s fieldLoc f
  | .directive =>
    for a in item.args do checkInputValue s .argumentDefinition a

/-- Check a whole document: its definitions of a schema are refused, then each definition
is checked in order, then every fragment must be used. -/
def checkDocument (s : Schema) (d : Document) : Check Unit := do
  for item in d.schemaItems do
    report s!"The {item.label} definition is not executable." [item.start]
  for defn in d do
    match defn with
    | .operation op => checkOperation s d op
    | .fragment f => checkFragment s d f
    | .schemaItem item => checkSchemaItem s item
  let used := d.operations.flatMap fun op => (d.referencedFragments op.block).map (·.name)
  for f in d.fragments do
    if !used.contains f.name then report s!"Fragment '{f.name}' is never used." [f.start]

/-- Validate a document against a schema: the errors found, none when the document is
valid, or the error a rule failed with. -/
def validate (s : Schema) (d : Document) : Except GraphqlError (List GraphqlError) :=
  let start : Checker := { directives := d.directiveSigs, definedTypes := d.definedTypes }
  let (_, c) := (checkDocument s d).run start |>.run
  match c.crash with
  | some e => .error e
  | none => .ok c.errors.toList

end GraphProbe.Graphql
