import GraphProbe.Graphql.Lexer

/-!
# Parsing documents

A recursive-descent parser over the tokens of `tokenize`. It keeps the index of the current
token; moving past a token reads the next one, and when the lexer stopped there the lexer's
error is raised at that moment. A parse error names the token it met and the token or
keyword it wanted: `Expected Name, found <EOF>.`, `Unexpected "}".`.

Nesting (selection sets, lists and objects of values, list types) is bounded by a depth
budget and every repetition by a step budget; each step and each level eats at least one
token, so budgets of the token count are never spent on a real document.
-/

namespace GraphProbe.Graphql

/-- The tokens of a document, and the error of the lexer after the last one when it stopped
early. -/
structure TokenStream where
  tokens : Array Token
  stop : Option SyntaxError
  deriving Inhabited

/-- A parse: reads the stream, moves the index of the current token, may fail. -/
abbrev Parse := ReaderT TokenStream (StateT Nat (Except SyntaxError))

/-- The current token. -/
def current : Parse Token := do
  let s ← read
  let i ← get
  match s.tokens[i]? with
  | some t => pure t
  | none => pure ⟨.eof, 0, none⟩

/-- The token after the current one, reading it raises the lexer's error there. -/
def lookahead : Parse Token := do
  let s ← read
  let i ← get
  match s.tokens[i]? with
  | some t =>
    if t.kind == .eof then pure t
    else match s.tokens[i + 1]? with
      | some u => pure u
      | none => throw (s.stop.getD ⟨t.start, "Unexpected <EOF>."⟩)
  | none => throw (s.stop.getD ⟨0, "Unexpected <EOF>."⟩)

/-- Move past the current token; the end stays where it is. -/
def advance : Parse Unit := do
  let t ← current
  if t.kind != .eof then
    let _ ← lookahead
    modify (· + 1)

/-- The error of meeting a token where it does not belong. -/
def unexpectedAt (t : Token) : SyntaxError := ⟨t.start, s!"Unexpected {t.describe}."⟩

/-- Fail at the current token. -/
def unexpected {α : Type} : Parse α := do throw (unexpectedAt (← current))

/-- Whether the current token is of a kind. -/
def peek (k : TokenKind) : Parse Bool := return (← current).kind == k

/-- Take a token of a kind, or fail. -/
def expectToken (k : TokenKind) : Parse Token := do
  let t ← current
  if t.kind == k then
    advance
    pure t
  else throw ⟨t.start, s!"Expected {k.describe}, found {t.describe}."⟩

/-- Take a token of a kind if it is the current one. -/
def expectOptional (k : TokenKind) : Parse Bool := do
  if (← current).kind == k then
    advance
    pure true
  else pure false

/-- Take a keyword, or fail. -/
def expectKeyword (word : String) : Parse Unit := do
  let t ← current
  if t.kind == .name && t.value == some word then advance
  else throw ⟨t.start, s!"Expected '{word}', found {t.describe}."⟩

/-- Take a keyword if it is the current token. -/
def expectOptionalKeyword (word : String) : Parse Bool := do
  let t ← current
  if t.kind == .name && t.value == some word then
    advance
    pure true
  else pure false

/-- A name, with where it starts. -/
def parseName : Parse (String × Nat) := do
  let t ← expectToken .name
  pure (t.value.getD "", t.start)

/-- Items up to a closing token, which is taken too. -/
def itemsUntil {α : Type} (close : TokenKind) (item : Parse α) : Nat → List α → Parse (List α)
  | 0, acc => do
    if ← expectOptional close then pure acc.reverse else unexpected
  | n + 1, acc => do
    if ← expectOptional close then pure acc.reverse
    else
      let x ← item
      itemsUntil close item n (x :: acc)

/-- The budget of a parse: the number of tokens, and one more. -/
def budget : Parse Nat := return (← read).tokens.size + 1

/-- One item or more between an opening and a closing token. -/
def many {α : Type} (openKind closeKind : TokenKind) (item : Parse α) : Parse (List α) := do
  let _ ← expectToken openKind
  let first ← item
  itemsUntil closeKind item (← budget) [first]

/-- One item or more between an opening and a closing token, or none without the opening
token. -/
def optionalMany {α : Type} (openKind closeKind : TokenKind) (item : Parse α) :
    Parse (List α) := do
  if ← expectOptional openKind then
    let first ← item
    itemsUntil closeKind item (← budget) [first]
  else pure []

/-- Any number of items between an opening and a closing token. -/
def anyBetween {α : Type} (openKind closeKind : TokenKind) (item : Parse α) :
    Parse (List α) := do
  let _ ← expectToken openKind
  itemsUntil closeKind item (← budget) []

/-- Items as long as a token of a kind comes next. -/
def itemsWhile {α : Type} (k : TokenKind) (item : Parse α) : Nat → List α → Parse (List α)
  | 0, acc => pure acc.reverse
  | n + 1, acc => do
    if ← peek k then
      let x ← item
      itemsWhile k item n (x :: acc)
    else pure acc.reverse

/-! ### Values and types -/

/-- A variable, `$name`, with where the `$` stands and where the name starts. -/
def parseVariable : Parse (String × Nat × Nat) := do
  let t ← expectToken .dollar
  let (name, nameStart) ← parseName
  pure (name, t.start, nameStart)

/-- A value; a constant value may not hold variables. -/
def parseValue (const : Bool) : Nat → Parse Literal
  | 0 => unexpected
  | depth + 1 => do
    let t ← current
    match t.kind with
    | .bracketL =>
      let items ← anyBetween .bracketL .bracketR (parseValue const depth)
      pure (.list items t.start)
    | .braceL =>
      let fields ← anyBetween .braceL .braceR (do
        let (name, nameStart) ← parseName
        let _ ← expectToken .colon
        let v ← parseValue const depth
        pure ((name, v), nameStart))
      pure (.object (fields.map (·.1)) (fields.map (·.2)) t.start)
    | .int => advance; pure (.int (t.value.getD "") t.start)
    | .float => advance; pure (.float (t.value.getD "") t.start)
    | .string => advance; pure (.str (t.value.getD "") false t.start)
    | .blockString => advance; pure (.str (t.value.getD "") true t.start)
    | .name =>
      advance
      match t.value.getD "" with
      | "true" => pure (.bool true t.start)
      | "false" => pure (.bool false t.start)
      | "null" => pure (.null t.start)
      | n => pure (.enum n t.start)
    | .dollar =>
      if const then
        let _ ← expectToken .dollar
        let u ← current
        if u.kind == .name then
          let name := u.value.getD ""
          throw ⟨t.start, s!"Unexpected variable '${name}' in constant value."⟩
        else throw (unexpectedAt t)
      else
        let (name, s, _) ← parseVariable
        pure (.var name s)
    | _ => unexpected

/-- The arguments of a field or directive, `(name: value, …)`, or none. -/
def parseArguments (const : Bool) : Parse (List Argument) := do
  let depth ← budget
  optionalMany .parenL .parenR (do
    let (name, s) ← parseName
    let _ ← expectToken .colon
    let v ← parseValue const depth
    pure ⟨name, v, s⟩)

/-- One directive, `@name(args)`. -/
def parseDirective (const : Bool) : Parse Directive := do
  let t ← expectToken .atSign
  let (name, _) ← parseName
  let args ← parseArguments const
  pure ⟨name, args, t.start⟩

/-- The directives on a node, perhaps none. -/
def parseDirectives (const : Bool) : Parse (List Directive) := do
  itemsWhile .atSign (parseDirective const) (← budget) []

/-- A type reference: a name, a list `[T]`, either perhaps followed by `!`. -/
def parseTypeRef : Nat → Parse TypeRef
  | 0 => unexpected
  | depth + 1 => do
    let t ← current
    let inner ← if ← expectOptional .bracketL then do
        let item ← parseTypeRef depth
        let _ ← expectToken .bracketR
        pure (TypeRef.list item t.start)
      else do
        let (name, s) ← parseName
        pure (TypeRef.named name s)
    if ← expectOptional .bang then pure (.nonNull inner t.start) else pure inner

/-! ### Selections -/

/-- The name of a fragment: any name but `on`. -/
def parseFragmentName : Parse (String × Nat) := do
  if (← current).value == some "on" then unexpected else parseName

/-- A named type, with where it starts. -/
def parseCondition : Parse TypeCondition := do
  let (name, s) ← parseName
  pure ⟨name, s⟩

mutual
/-- The selections between braces. -/
def parseSelectionSet : Nat → Parse SelectionSet
  | 0 => unexpected
  | depth + 1 => do
    let t ← current
    let items ← many .braceL .braceR (parseSelection depth)
    pure (.mk t.start items)

/-- One selection: a fragment after `...`, else a field. -/
def parseSelection : Nat → Parse Selection
  | 0 => unexpected
  | depth + 1 => do
    let t ← current
    if t.kind == .spread then
      advance
      let hasCondition ← expectOptionalKeyword "on"
      if !hasCondition && (← peek .name) then
        let (name, nameStart) ← parseFragmentName
        let ds ← parseDirectives false
        pure (.spread name nameStart ds t.start)
      else
        let condition ← if hasCondition then some <$> parseCondition else pure none
        let ds ← parseDirectives false
        let block ← parseSelectionSet depth
        pure (.inline condition ds block t.start)
    else
      let (first, s) ← parseName
      let (label, name) ← if ← expectOptional .colon then do
          let (n, _) ← parseName
          pure (some first, n)
        else pure (none, first)
      let args ← parseArguments false
      let ds ← parseDirectives false
      let block ← if ← peek .braceL then some <$> parseSelectionSet depth else pure none
      pure (.field ⟨label, name, args, ds, s⟩ block)
end

/-! ### Definitions -/

/-- Whether the current token is a description: a text or a block text. -/
def peekDescription : Parse Bool := do
  let t ← current
  pure (t.kind == .string || t.kind == .blockString)

/-- Skip a description if one stands here. -/
def skipDescription : Parse Unit := do
  if ← peekDescription then advance

/-- One variable definition, `"description" $name: Type = default @directives`; it starts
at its description when it has one. -/
def parseVariableDefinition : Parse VariableDefinition := do
  let start := (← current).start
  skipDescription
  let (name, _, nameStart) ← parseVariable
  let _ ← expectToken .colon
  let type ← parseTypeRef (← budget)
  let default ← if ← expectOptional .equals then some <$> parseValue true (← budget)
    else pure none
  let ds ← parseDirectives true
  pure ⟨name, nameStart, type, default, ds, start⟩

/-- An operation: a bare selection set is a query; otherwise a description perhaps, a
keyword, a name perhaps, variables, directives and the selections. -/
def parseOperation : Parse Operation := do
  let t ← current
  if t.kind == .braceL then
    let block ← parseSelectionSet (← budget)
    pure ⟨.query, none, 0, [], [], block, t.start⟩
  else
    skipDescription
    let k ← expectToken .name
    let kind ← match k.value.getD "" with
      | "query" => pure OperationKind.query
      | "mutation" => pure .mutation
      | "subscription" => pure .subscription
      | _ => throw (unexpectedAt k)
    let (name, nameStart) ← if ← peek .name then do
        let (n, s) ← parseName
        pure (some n, s)
      else pure (none, 0)
    let vars ← optionalMany .parenL .parenR parseVariableDefinition
    let ds ← parseDirectives false
    let block ← parseSelectionSet (← budget)
    pure ⟨kind, name, nameStart, vars, ds, block, t.start⟩

/-- A named fragment, `"description" fragment Name on Type @directives { … }`. -/
def parseFragmentDefinition : Parse Fragment := do
  let t ← current
  skipDescription
  expectKeyword "fragment"
  let (name, nameStart) ← parseFragmentName
  expectKeyword "on"
  let condition ← parseCondition
  let ds ← parseDirectives false
  let block ← parseSelectionSet (← budget)
  pure ⟨name, nameStart, condition, ds, block, t.start⟩

/-! ### Definitions of a schema -/

/-- A named type, with where its name starts. -/
def parseNamedType : Parse TypeCondition := parseCondition

/-- Items separated by a delimiter, which may also stand before the first. -/
def delimitedMany {α : Type} (delimiter : TokenKind) (item : Parse α) : Parse (List α) := do
  let _ ← expectOptional delimiter
  let first ← item
  go (← budget) [first]
where
  /-- Take more items while a delimiter follows. -/
  go : Nat → List α → Parse (List α)
    | 0, acc => pure acc.reverse
    | n + 1, acc => do
      if ← expectOptional delimiter then
        let x ← item
        go n (x :: acc)
      else pure acc.reverse

/-- An argument or input field, `"description" name: Type = default @directives`. -/
def parseInputValueDef : Parse InputValueDefinition := do
  let start := (← current).start
  skipDescription
  let (name, _) ← parseName
  let _ ← expectToken .colon
  let type ← parseTypeRef (← budget)
  let default ← if ← expectOptional .equals then some <$> parseValue true (← budget)
    else pure none
  let ds ← parseDirectives true
  pure ⟨name, type, default, ds, start⟩

/-- The arguments a field or directive declares, `(…)`, or none. -/
def parseArgumentDefs : Parse (List InputValueDefinition) :=
  optionalMany .parenL .parenR parseInputValueDef

/-- A field definition, `"description" name(args): Type @directives`. -/
def parseFieldDefinition : Parse FieldDefinition := do
  let start := (← current).start
  skipDescription
  let (name, _) ← parseName
  let args ← parseArgumentDefs
  let _ ← expectToken .colon
  let type ← parseTypeRef (← budget)
  let ds ← parseDirectives true
  pure ⟨name, args, type, ds, start⟩

/-- The interfaces a type implements, `implements A & B`, or none. -/
def parseImplements : Parse (List TypeCondition) := do
  if ← expectOptionalKeyword "implements" then delimitedMany .amp parseNamedType
  else pure []

/-- The members of a union, `= A | B`, or none. -/
def parseUnionMembers : Parse (List TypeCondition) := do
  if ← expectOptional .equals then delimitedMany .pipe parseNamedType else pure []

/-- The value of an enumeration, which may not be `true`, `false` or `null`. -/
def parseEnumValueDefinition : Parse EnumValueDefinition := do
  let start := (← current).start
  skipDescription
  let t ← current
  if t.value == some "true" || t.value == some "false" || t.value == some "null" then
    throw ⟨t.start, s!"{t.describe} is reserved and cannot be used for an enum value."⟩
  let (name, _) ← parseName
  let ds ← parseDirectives true
  pure ⟨name, ds, start⟩

/-- The places a directive may be used. -/
def directiveLocationNames : List String :=
  ["QUERY", "MUTATION", "SUBSCRIPTION", "FIELD", "FRAGMENT_DEFINITION", "FRAGMENT_SPREAD",
   "INLINE_FRAGMENT", "VARIABLE_DEFINITION", "SCHEMA", "SCALAR", "OBJECT",
   "FIELD_DEFINITION", "ARGUMENT_DEFINITION", "INTERFACE", "UNION", "ENUM", "ENUM_VALUE",
   "INPUT_OBJECT", "INPUT_FIELD_DEFINITION"]

/-- A place a directive may be used, by its name. -/
def parseDirectiveLocation : Parse String := do
  let t ← current
  let (name, _) ← parseName
  if directiveLocationNames.contains name then pure name else throw (unexpectedAt t)

/-- One root type of a schema, `query: Query`. -/
def parseRootType : Parse (OperationKind × TypeCondition) := do
  let k ← expectToken .name
  let kind ← match k.value.getD "" with
    | "query" => pure OperationKind.query
    | "mutation" => pure .mutation
    | "subscription" => pure .subscription
    | _ => throw (unexpectedAt k)
  let _ ← expectToken .colon
  let t ← parseNamedType
  pure (kind, t)

/-- A definition of a schema, after its description: the keyword names its kind. -/
def parseSchemaItem (word : String) : Parse SchemaItem := do
  let start := (← current).start
  skipDescription
  expectKeyword word
  match word with
  | "schema" =>
    let ds ← parseDirectives true
    let roots ← many .braceL .braceR parseRootType
    pure { kind := .schema, extension := false, name := none, directives := ds,
           rootTypes := roots, start }
  | "scalar" =>
    let (name, _) ← parseName
    let ds ← parseDirectives true
    pure { kind := .scalar, extension := false, name := some name, directives := ds, start }
  | "type" | "interface" =>
    let (name, _) ← parseName
    let interfaces ← parseImplements
    let ds ← parseDirectives true
    let fields ← optionalMany .braceL .braceR parseFieldDefinition
    pure { kind := if word == "type" then .object else .interface, extension := false,
           name := some name, interfaces, directives := ds, fields, start }
  | "union" =>
    let (name, _) ← parseName
    let ds ← parseDirectives true
    let members ← parseUnionMembers
    pure { kind := .union, extension := false, name := some name, directives := ds,
           members, start }
  | "enum" =>
    let (name, _) ← parseName
    let ds ← parseDirectives true
    let values ← optionalMany .braceL .braceR parseEnumValueDefinition
    pure { kind := .enum, extension := false, name := some name, directives := ds, values,
           start }
  | "input" =>
    let (name, _) ← parseName
    let ds ← parseDirectives true
    let fields ← optionalMany .braceL .braceR parseInputValueDef
    pure { kind := .inputObject, extension := false, name := some name, directives := ds,
           inputFields := fields, start }
  | _ =>
    let _ ← expectToken .atSign
    let (name, _) ← parseName
    let args ← parseArgumentDefs
    let repeatable ← expectOptionalKeyword "repeatable"
    expectKeyword "on"
    let locations ← delimitedMany .pipe parseDirectiveLocation
    pure { kind := .directive, extension := false, name := some name, args, repeatable,
           locations, start }

/-- The definitions an extension may extend. -/
def extendable : List String := ["schema", "scalar", "type", "interface", "union", "enum", "input"]

/-- An extension of a schema definition, `extend …`: it must add something. -/
def parseExtension : Parse SchemaItem := do
  let start := (← current).start
  let k ← lookahead
  let word := if k.kind == .name then k.value.getD "" else ""
  if !(extendable.contains word) then
    throw (unexpectedAt k)
  expectKeyword "extend"
  expectKeyword word
  let item : SchemaItem ← match word with
    | "schema" =>
      let ds ← parseDirectives true
      let roots ← optionalMany .braceL .braceR parseRootType
      pure { kind := .schema, extension := true, name := none, directives := ds,
             rootTypes := roots, start }
    | "scalar" =>
      let (name, _) ← parseName
      let ds ← parseDirectives true
      pure { kind := .scalar, extension := true, name := some name, directives := ds, start }
    | "type" | "interface" =>
      let (name, _) ← parseName
      let interfaces ← parseImplements
      let ds ← parseDirectives true
      let fields ← optionalMany .braceL .braceR parseFieldDefinition
      pure { kind := if word == "type" then .object else .interface, extension := true,
             name := some name, interfaces, directives := ds, fields, start }
    | "union" =>
      let (name, _) ← parseName
      let ds ← parseDirectives true
      let members ← parseUnionMembers
      pure { kind := .union, extension := true, name := some name, directives := ds,
             members, start }
    | "enum" =>
      let (name, _) ← parseName
      let ds ← parseDirectives true
      let values ← optionalMany .braceL .braceR parseEnumValueDefinition
      pure { kind := .enum, extension := true, name := some name, directives := ds, values,
             start }
    | _ =>
      let (name, _) ← parseName
      let ds ← parseDirectives true
      let fields ← optionalMany .braceL .braceR parseInputValueDef
      pure { kind := .inputObject, extension := true, name := some name, directives := ds,
             inputFields := fields, start }
  let empty := item.directives.isEmpty && item.rootTypes.isEmpty && item.interfaces.isEmpty &&
    item.fields.isEmpty && item.members.isEmpty && item.values.isEmpty &&
    item.inputFields.isEmpty
  if empty then unexpected else pure item

/-- The keywords that begin definitions of a schema. -/
def schemaKeywords : List String :=
  ["schema", "scalar", "type", "interface", "union", "enum", "input", "directive"]

/-- One definition. A description may stand before any definition with a keyword; before a
bare selection set or an extension it may not. -/
def parseDefinition : Parse Definition := do
  let t ← current
  if t.kind == .braceL then return .operation (← parseOperation)
  let described ← peekDescription
  let k ← if described then lookahead else pure t
  if described && k.kind == .braceL then
    throw ⟨t.start, "Unexpected description, descriptions are not supported on shorthand queries."⟩
  if k.kind == .name then
    let word := k.value.getD ""
    if schemaKeywords.contains word then return .schemaItem (← parseSchemaItem word)
    if word == "query" || word == "mutation" || word == "subscription" then
      return .operation (← parseOperation)
    if word == "fragment" then return .fragment (← parseFragmentDefinition)
    if word == "extend" then
      if described then
        throw ⟨t.start, "Unexpected description, only GraphQL definitions support descriptions."⟩
      return .schemaItem (← parseExtension)
  throw (unexpectedAt k)

/-- A document: one definition or more, up to the end. -/
def parseDocument : Parse Document := do
  let first ← parseDefinition
  itemsUntil .eof parseDefinition (← budget) [first]

/-- Parse a source text into a document, or the syntax error that stops it. -/
def parse (source : String) : Except SyntaxError Document :=
  let (tokens, stop) := tokenize source
  match tokens[0]? with
  | none => .error (stop.getD ⟨0, "Unexpected <EOF>."⟩)
  | some _ => (parseDocument.run ⟨tokens, stop⟩).run' 0

end GraphProbe.Graphql
