import GraphProbe.Graphql.Values
import GraphProbe.Fault

/-!
# Executing operations

`execute` answers an operation of a document against a schema: it picks the operation
(by name, or the only one), coerces the variables, collects the root fields (following
fragments, honouring `@skip` and `@include`), and answers each field by its resolver from
the root value. A failing field is answered by `null` and its error, located at the field
and carrying the field's path, is added to the answer; a failure where `null` is not
allowed passes to the parent.

`subscribe` is the subscription's first half: it finds the event source of the operation's
first root field. Each event is then answered by `execute` with the event as the root
value.
-/

namespace GraphProbe.Graphql

/-- The answer of an execution: its data (`none` when there is none) and its errors. -/
structure ExecutionResult where
  data : Option Value
  errors : List GraphqlError := []
  deriving Inhabited

/-- An execution's setting: the schema, the operation, the fragments by name and the
coerced values of the variables. -/
structure ExecContext where
  schema : Schema
  operation : Operation
  /-- The fragments, the last of a name first. -/
  fragments : List Fragment
  vars : List (String × Value)

/-- The fields collected under their keys, in order, with the nodes of each. -/
abbrev FieldGroups := List (String × List (FieldHead × Option SelectionSet))

/-- Choose the operation of a document and coerce its variables. Without a name the
document must hold one operation; with one, the last operation of that name is taken. -/
def ExecContext.build (schema : Schema) (doc : Document) (operationName : Option String)
    (raw : List (String × Value)) : Except (List GraphqlError) ExecContext := do
  let pick (chosen : Except GraphqlError (Option Operation)) (d : Definition) :
      Except GraphqlError (Option Operation) := do
    let c ← chosen
    match d with
    | .operation op =>
      match operationName with
      | none =>
        if c.isSome then
          throw { message := "Must provide operation name if query contains multiple operations." }
        else pure (some op)
      | some n => pure (if op.name == some n then some op else c)
    | _ => pure c
  let chosen ← match doc.foldl pick (.ok none) with
    | .ok c => pure c
    | .error e => throw [e]
  let some op := chosen
    | match operationName with
      | some n => throw [{ message := s!"Unknown operation named '{n}'." }]
      | none => throw [{ message := "Must provide an operation." }]
  let vars ← coerceVariables schema op.vars raw
  pure ⟨schema, op, doc.fragments.reverse, vars⟩

/-! ### Arguments -/

/-- Add the value of one declared argument to those found so far, from the arguments
written at a node (of an argument written twice, the last counts): a missing argument takes
its default, or is left out, or, when it is non-null, fails at the node. -/
def addArgument (s : Schema) (args : List Argument) (nodeStart : Nat)
    (vars : List (String × Value)) (acc : Arguments) (d : InputDef) :
    Except GraphqlError Arguments := do
    match args.reverse.find? (·.name == d.name) with
    | none =>
      match d.default with
      | some v => pure (acc ++ [(d.name, v)])
      | none =>
        if d.type.isNonNull then
          throw { message := s!"Argument '{d.name}' of required type '{d.type.text}' was not provided.",
                  positions := [nodeStart] }
        else pure acc
    | some a =>
      let isNull ← match a.value with
        | .var n _ =>
          match vars.lookup n with
          | none =>
            match d.default with
            | some v => return acc ++ [(d.name, v)]
            | none =>
              if d.type.isNonNull then
                throw { message := s!"Argument '{d.name}' of required type '{d.type.text}' was provided the variable '${n}' which was not provided a runtime value.",
                        positions := [a.value.start] }
              else return acc
          | some v => pure (match v with | .null => true | _ => false)
        | .null _ => pure true
        | _ => pure false
      if isNull && d.type.isNonNull then
        throw { message := s!"Argument '{d.name}' of non-null type '{d.type.text}' must not be null.",
                positions := [a.value.start] }
      match valueOfLiteral s d.type (some vars) a.value with
      | some v => pure (acc ++ [(d.name, v)])
      | none =>
        throw { message := s!"Argument '{d.name}' has invalid value {printLiteral a.value}.",
                positions := [a.value.start] }

/-- The values of the arguments a field or directive declares, in the order declared. -/
def argumentValues (s : Schema) (defs : List InputDef) (args : List Argument) (nodeStart : Nat)
    (vars : List (String × Value)) : Except GraphqlError Arguments :=
  defs.foldlM (addArgument s args nodeStart vars) []

/-- The argument of the directives `@skip` and `@include`. -/
def conditionArgs : List InputDef := [{ name := "if", type := .required "Boolean" }]

/-- Whether a node's directives let it be included: not skipped, and not left out by a
false `@include`. The first directive of each name counts. -/
def included (ctx : ExecContext) (ds : List Directive) : Except GraphqlError Bool := do
  let flag (name : String) : Except GraphqlError (Option Bool) := do
    match ds.find? (·.name == name) with
    | none => pure none
    | some d =>
      let args ← argumentValues ctx.schema conditionArgs d.args d.start ctx.vars
      pure (match args.lookup "if" with
        | some (.bool b) => some b
        | _ => some false)
  if (← flag "skip") == some true then return false
  if (← flag "include") == some false then return false
  return true

/-! ### Collecting fields -/

/-- Whether a fragment applies to an object type. -/
def conditionMatches (o : ObjectDef) : Option TypeCondition → Bool
  | none => true
  | some c => c.name == o.name

/-- Add a field node under its key. -/
def addField (groups : FieldGroups) (h : FieldHead) (block : Option SelectionSet) :
    FieldGroups :=
  let k := h.key
  if groups.any (·.1 == k) then
    groups.map fun (k', ns) => if k' == k then (k', ns ++ [(h, block)]) else (k', ns)
  else groups ++ [(k, [(h, block)])]

/-- Collect the fields a list of selections selects on an object type, following inline
fragments and named fragments (each named fragment once). The budget bounds how deep
fragments nest. -/
def collectFields (ctx : ExecContext) (o : ObjectDef) (fuel : Nat)
    (acc : FieldGroups × List String) (sels : List Selection) :
    Except GraphqlError (FieldGroups × List String) :=
  List.foldlM (fun (groups, visited) sel => do
    match sel with
    | .field h block =>
      if ← included ctx h.directives then pure (addField groups h block, visited)
      else pure (groups, visited)
    | .inline cond ds block _ =>
      if (← included ctx ds) && conditionMatches o cond then
        match fuel with
        | 0 => pure (groups, visited)
        | n + 1 => collectFields ctx o n (groups, visited) block.items
      else pure (groups, visited)
    | .spread name _ ds _ =>
      if visited.contains name then pure (groups, visited)
      else if !(← included ctx ds) then pure (groups, visited)
      else
        let visited := visited ++ [name]
        match ctx.fragments.find? (·.name == name) with
        | some f =>
          if conditionMatches o (some f.condition) then
            match fuel with
            | 0 => pure (groups, visited)
            | n + 1 => collectFields ctx o n (groups, visited) f.block.items
          else pure (groups, visited)
        | none => pure (groups, visited)) acc sels
termination_by structural fuel

/-- A bound on how deeply selections nest while fields are collected and answered: each
named fragment is entered at most once on a path, and inline fragments and sub-selections
get ample room beside them. -/
def ExecContext.budget (ctx : ExecContext) : Nat := 64 * (ctx.fragments.length + 1) + 4096

/-- The root fields of the operation on a root type. -/
def ExecContext.rootFields (ctx : ExecContext) (o : ObjectDef) : Except GraphqlError FieldGroups :=
  (·.1) <$> collectFields ctx o ctx.budget ([], []) ctx.operation.block.items

/-! ### Answering fields -/

/-- An execution step: it adds errors of fields as it goes and may fail with an error that
passes to the parent. -/
abbrev Exec := ExceptT GraphqlError (StateM (List GraphqlError))

/-- The value of a scalar answer, or why it cannot be one. -/
def serializeScalar (sc : Scalar) (v : Value) : Except String Value :=
  match sc with
  | .int =>
    match v with
    | .bool b => .ok (.int (if b then 1 else 0))
    | _ =>
      match wholeNumber? v with
      | some n =>
        if minInt ≤ n && n ≤ maxInt then .ok (.int n)
        else .error ("Int cannot represent non 32-bit signed integer value: " ++ inspect v)
      | none => .error ("Int cannot represent non-integer value: " ++ inspect v)
  | .float =>
    match v with
    | .bool b => .ok (.int (if b then 1 else 0))
    | .int n => .ok (.float (Number.floatOfInt n))
    | .float x =>
      if Number.isFinite x then .ok (.float x)
      else .error ("Float cannot represent non numeric value: " ++ inspect v)
    | _ => .error ("Float cannot represent non numeric value: " ++ inspect v)
  | .string =>
    match v with
    | .str s => .ok (.str s)
    | .bool b => .ok (.str (if b then "true" else "false"))
    | .int n => .ok (.str (Number.intText n))
    | .float x =>
      if Number.isFinite x then .ok (.str (Number.floatText .literal x))
      else .error ("String cannot represent value: " ++ inspect v)
    | _ => .error ("String cannot represent value: " ++ inspect v)
  | .boolean =>
    match v with
    | .bool b => .ok (.bool b)
    | .int n => .ok (.bool (n != 0))
    | .float x =>
      if Number.isFinite x then .ok (.bool (x != 0))
      else .error ("Boolean cannot represent a non boolean value: " ++ inspect v)
    | _ => .error ("Boolean cannot represent a non boolean value: " ++ inspect v)
  | .id =>
    match v with
    | .str s => .ok (.str s)
    | _ =>
      match wholeNumber? v with
      | some n => .ok (.str (Number.intText n))
      | none => .error ("ID cannot represent value: " ++ inspect v)

/-- The error of a field, located at its nodes and carrying its path. -/
def fieldError (message : String) (nodes : List (FieldHead × Option SelectionSet))
    (path : List PathKey) : GraphqlError :=
  { message, positions := nodes.map (·.1.start), path := some path }

/-- An error raised while a field was answered, given the field's path unless it has one;
it keeps the nodes it names. -/
def locate (e : GraphqlError) (nodes : List (FieldHead × Option SelectionSet))
    (path : List PathKey) : GraphqlError :=
  match e.path with
  | some _ => e
  | none =>
    { e with positions := if e.positions.isEmpty then nodes.map (·.1.start) else e.positions,
             path := some path }

/-- Record the error of a field that may be null, or pass it on when it may not. -/
def fieldFailed (e : GraphqlError) (t : TypeExpr) : Exec Value := do
  if t.isNonNull then throw e
  modify (· ++ [e])
  pure .null

/-- The definition of a field of an object type, the meta fields included: `__schema` and
`__type` on the query root, `__typename` everywhere. -/
def Schema.fieldDefOf (s : Schema) (o : ObjectDef) (name : String) : Option FieldDef :=
  if name == "__schema" && o.name == s.query.name then some s.schemaField
  else if name == "__type" && o.name == s.query.name then some s.typeField
  else if name == "__typename" then some typenameField
  else o.field? name

mutual
/-- Answer the fields of an object from its value, in order; fields the type does not have
are left out. -/
def executeFields (ctx : ExecContext) (o : ObjectDef) (source : Value) (path : List PathKey) :
    Nat → FieldGroups → Exec (List (String × Value))
  | _, [] => pure []
  | fuel, (key, nodes) :: rest => do
    let here ← match nodes.head? with
      | some (h, _) =>
        match ctx.schema.fieldDefOf o h.name with
        | some fd => do
          let v ← executeField ctx o fd source (path ++ [.key key]) fuel nodes
          pure [(key, v)]
        | none => pure []
      | none => pure []
    let others ← executeFields ctx o source path fuel rest
    pure (here ++ others)
termination_by fuel groups => (fuel, 2, groups.length)

/-- Answer one field: its arguments, its resolver, then the completion of the value. -/
def executeField (ctx : ExecContext) (o : ObjectDef) (fd : FieldDef) (source : Value)
    (path : List PathKey) (fuel : Nat) (nodes : List (FieldHead × Option SelectionSet)) :
    Exec Value := do
  let some (h, _) := nodes.head? | pure .null
  let args := argumentValues ctx.schema fd.args h.args h.start ctx.vars
  match args with
  | .error e => fieldFailed (locate e nodes path) fd.type
  | .ok args =>
    let resolved := if fd.name == "__typename" then .ok (.str o.name) else fd.resolve source args
    match resolved with
    | .error m => fieldFailed (fieldError m nodes path) fd.type
    | .ok v =>
      tryCatch (completeValue ctx o fd fd.type nodes path fuel v) fun e =>
        fieldFailed (locate e nodes path) fd.type
termination_by (fuel, 1, 0)

/-- Complete a resolved value to the field's type: non-null checked, lists item by item,
scalars serialized, objects answered by their own fields. -/
def completeValue (ctx : ExecContext) (o : ObjectDef) (fd : FieldDef) :
    TypeExpr → List (FieldHead × Option SelectionSet) → List PathKey → Nat → Value →
    Exec Value
  | .nonNull t, nodes, path, fuel, v => do
    let c ← completeValue ctx o fd t nodes path fuel v
    match c with
    | .null =>
      throw (fieldError s!"Cannot return null for non-nullable field {o.name}.{fd.name}."
        nodes path)
    | _ => pure c
  | _, _, _, _, .null => pure .null
  | .list t, nodes, path, fuel, v =>
    match v with
    | .arr xs => do
      let items ← (xs.zipIdx).mapM fun (x, i) =>
        tryCatch (completeValue ctx o fd t nodes (path ++ [.index i]) fuel x) fun e =>
          fieldFailed (locate e nodes (path ++ [.index i])) t
      pure (.arr items)
    | _ =>
      throw (fieldError
        s!"Expected Iterable, but did not find one for field '{o.name}.{fd.name}'." nodes path)
  | .named n, nodes, path, fuel, v =>
    match ctx.schema.lookupType n with
    | some (.scalar sc) =>
      match serializeScalar sc v with
      | .ok r => pure r
      | .error m => throw (fieldError m nodes path)
    | some (.enum e) =>
      match v with
      | .str t => if e.names.contains t then pure v
        else throw (fieldError s!"Enum '{e.name}' cannot represent value: {inspect v}" nodes path)
      | _ => throw (fieldError s!"Enum '{e.name}' cannot represent value: {inspect v}" nodes path)
    | some (.object sub) =>
      match fuel with
      | 0 => pure .null
      | n + 1 => do
        let blocks := nodes.filterMap (·.2)
        let collected := blocks.foldlM (fun acc b =>
          collectFields ctx sub ctx.budget acc b.items) ([], [])
        match collected with
        | .error e => throw e
        | .ok (groups, _) => .obj <$> executeFields ctx sub v path n groups
    | _ => pure .null
termination_by t _ _ fuel _ => (fuel, 0, sizeOf t)
end

/-- Answer the chosen operation with a root value. -/
def ExecContext.run (ctx : ExecContext) (root : Value) : ExecutionResult :=
  match ctx.schema.rootOf ctx.operation.kind with
  | none =>
    { data := none,
      errors := [{ message := s!"Schema is not configured to execute {ctx.operation.kind.keyword} operation.",
                   positions := [ctx.operation.start] }] }
  | some o =>
    match ctx.rootFields o with
    | .error e => { data := none, errors := [e] }
    | .ok groups =>
      let (r, errors) := (executeFields ctx o root [] ctx.budget groups).run.run []
      match r with
      | .ok fields => { data := some (.obj fields), errors }
      | .error e => { data := none, errors := errors ++ [e] }

/-- Execute an operation of a document with the given variables and root value. -/
def execute (schema : Schema) (doc : Document) (operationName : Option String)
    (vars : List (String × Value)) (root : Value) : ExecutionResult :=
  match ExecContext.build schema doc operationName vars with
  | .error errs => { data := none, errors := errs }
  | .ok ctx => ctx.run root

/-! ### Subscriptions -/

/-- What subscribing gives: errors to answer with, an event source, or a failure that is
no error of the query language (the subscriber breaks down). -/
inductive Subscribed where
  | failed (errors : List GraphqlError)
  | stream (source : EventSource)
  | breakdown (fault : Fault)
  deriving Inhabited

/-- Subscribe: the event source of the first root field of the operation on the
subscription type, whatever the operation's kind. -/
def subscribe (schema : Schema) (doc : Document) (operationName : Option String)
    (vars : List (String × Value)) : Subscribed :=
  match ExecContext.build schema doc operationName vars with
  | .error errs => .failed errs
  | .ok ctx =>
    match schema.subscription with
    | none =>
      .failed [{ message := "Schema is not configured to execute subscription operation.",
                 positions := [ctx.operation.start] }]
    | some o =>
      match ctx.rootFields o with
      | .error e => .failed [e]
      | .ok [] => .breakdown (Fault.simple .runtime "coroutine raised StopIteration")
      | .ok ((key, nodes) :: _) =>
        match nodes.head? with
        | none => .breakdown (Fault.simple .runtime "coroutine raised StopIteration")
        | some (h, _) =>
          if h.name == "__typename" then
            .breakdown (Fault.simple .wrongType "Subscription field must return AsyncIterable. Received: None.")
          else
          match o.field? h.name with
          | none =>
            .failed [{ message := s!"The subscription field '{h.name}' is not defined.",
                       positions := nodes.map (·.1.start) }]
          | some fd =>
            match argumentValues schema fd.args h.args h.start ctx.vars with
            | .error e => .failed [locate e nodes [.key key]]
            | .ok args =>
              match fd.subscribe with
              | none =>
                .breakdown (Fault.simple .wrongType "Subscription field must return AsyncIterable. Received: None.")
              | some start =>
                match start args with
                | .ok src => .stream src
                | .error m => .failed [fieldError m nodes [.key key]]

end GraphProbe.Graphql
