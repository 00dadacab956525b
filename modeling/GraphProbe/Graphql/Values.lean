import GraphProbe.Graphql.Introspection
import GraphProbe.Json.Reader
import GraphProbe.Text.Quote
import GraphProbe.Graphql.Suggest

/-!
# Input values

Values reach a field's arguments in two ways: written into the document as literals, or
passed beside it as variables. Both are coerced to the type the argument declares.

* A variable's value is coerced by `coerceInput`: `null` only where the type allows it,
  lists item by item (a single value stands for a list of one), scalars by their rules:
  an `Int` is a whole number within 32 bits, a `Float` any finite number, a `String` only a
  text, a `Boolean` only a truth value, an `ID` a text or a whole number. Every failure is
  reported with the path inside the value where it happened; coercion goes on past it.
* A literal is coerced by `valueOfLiteral`, which gives no reason when it fails: the
  caller reports the literal as invalid.

Messages show values as `inspect` does: `None`, `True`, quoted texts, `[1, 2]`, long texts
cut in the middle, long lists cut after five items, collections nested deeper than two
levels elided. Literals are shown as the document would print them (`printLiteral`).
-/

namespace GraphProbe.Graphql

/-! ### Showing values -/

/-- A text cut to at most 240 characters, the middle replaced by `...`. -/
def truncText (s : String) : String :=
  if s.length > 240 then
    String.ofList (s.toList.take 118) ++ "..." ++ String.ofList (s.toList.drop (s.length - 119))
  else s

/-- A list cut to at most ten items: the first five, an ellipsis, the last four. -/
def truncItems (xs : List String) : List String :=
  if xs.length > 10 then xs.take 5 ++ ["..."] ++ xs.drop (xs.length - 4) else xs

mutual
/-- How messages show a value nested `depth` collections deep. -/
def inspectAt (depth : Nat) : Value → String
  | .null => "None"
  | .bool b => if b then "True" else "False"
  | .float x => Number.floatText .literal x
  | .int n => truncText (Number.intText n)
  | .str s => truncText (Text.quote s)
  | .bytes bs => truncText (Text.quoteBytes bs)
  | .arr [] => "[]"
  | .obj [] => "\x7b\x7d"
  | .arr xs =>
    if depth < 2 then "[" ++ ", ".intercalate (truncItems (inspectItems depth xs)) ++ "]"
    else "[...]"
  | .obj fs =>
    if depth < 2 then
      "\x7b" ++ ", ".intercalate (truncItems (inspectMembers depth fs)) ++ "\x7d"
    else "\x7b...\x7d"

/-- How messages show the items of a list. -/
def inspectItems (depth : Nat) : List Value → List String
  | [] => []
  | x :: xs => inspectAt (depth + 1) x :: inspectItems depth xs

/-- How messages show the members of a mapping. -/
def inspectMembers (depth : Nat) : List (String × Value) → List String
  | [] => []
  | (k, v) :: rest =>
    (truncText (Text.quote k) ++ ": " ++ inspectAt (depth + 1) v) :: inspectMembers depth rest
end

/-- How messages show a value. -/
def inspect (v : Value) : String := inspectAt 0 v

/-- The lines of a text as its line breaks split it; a final break opens no new line. -/
def splitLines (s : String) : List String :=
  let rec go : List Char → List Char → List String → List String
    | [], [], acc => acc.reverse
    | [], cur, acc => (String.ofList cur.reverse :: acc).reverse
    | '\r' :: '\n' :: rest, cur, acc => go rest [] (String.ofList cur.reverse :: acc)
    | c :: rest, cur, acc =>
      if isLineBreak c then go rest [] (String.ofList cur.reverse :: acc)
      else go rest (c :: cur) acc
  go s.toList [] []

/-- A text as a block literal of the query language, set on lines of its own when that
reads better. -/
def printBlockString (value : String) : String :=
  let escaped := (value.splitOn "\"\"\"").foldl (fun acc part =>
    if acc.isEmpty then part else acc ++ "\\\"\"\"" ++ part) ""
  let escaped := if (value.splitOn "\"\"\"").length > 1 then escaped else value
  let lines := match splitLines escaped with | [] => [""] | ls => ls
  let single := lines.length == 1
  let blankStart (l : String) : Bool :=
    match l.toList with | [] => true | c :: _ => c == ' ' || c == '\t'
  let forceLeading := lines.length > 1 && (lines.drop 1).all blankStart
  let trailingTriple := escaped.endsWith "\\\"\"\""
  let trailingQuote := value.endsWith "\"" && !trailingTriple
  let forceTrailing := trailingQuote || value.endsWith "\\"
  let multiple := !single || value.length > 70 || forceTrailing || forceLeading ||
    trailingTriple
  let skipLeading := single && (match value.toList with
    | c :: _ => c == ' ' || c == '\t'
    | [] => false)
  let before := if multiple && !skipLeading || forceLeading then "\n" else ""
  let after := if multiple || forceTrailing then "\n" else ""
  "\"\"\"" ++ before ++ escaped ++ after ++ "\"\"\""

mutual
/-- A literal as the document would print it. -/
def printLiteral : Literal → String
  | .var n _ => "$" ++ n
  | .int t _ | .float t _ | .enum t _ => t
  | .str s block _ => if block then printBlockString s else printString s
  | .bool b _ => if b then "true" else "false"
  | .null _ => "null"
  | .list items _ => "[" ++ ", ".intercalate (printItems items) ++ "]"
  | .object fields _ _ => "\x7b" ++ ", ".intercalate (printFields fields) ++ "\x7d"

/-- The printed items of a list literal. -/
def printItems : List Literal → List String
  | [] => []
  | x :: xs => printLiteral x :: printItems xs

/-- The printed fields of an object literal, `name: value`. -/
def printFields : List (String × Literal) → List String
  | [] => []
  | (k, v) :: rest => (k ++ ": " ++ printLiteral v) :: printFields rest
end

/-! ### Scalars -/

/-- The smallest and largest `Int`. -/
def minInt : Int := -2147483648
def maxInt : Int := 2147483647

/-- The whole number a value is: integers, and finite doubles without a fraction. -/
def wholeNumber? : Value → Option Int
  | .int n => some n
  | .float x =>
    match Number.classify x with
    | .finite b =>
      if x == x.floor then
        let m : Int := b.mant * 2 ^ b.exp.toNat / 2 ^ (-b.exp).toNat
        some (if b.negative then -m else m)
      else none
    | _ => none
  | _ => none

/-- Coerce an input value to a scalar, or say why not. -/
def parseScalarValue (sc : Scalar) (v : Value) : Except String Value :=
  match sc with
  | .int =>
    match wholeNumber? v with
    | some n =>
      if minInt ≤ n && n ≤ maxInt then .ok (.int n)
      else .error ("Int cannot represent non 32-bit signed integer value: " ++ inspect v)
    | none => .error ("Int cannot represent non-integer value: " ++ inspect v)
  | .float =>
    match v with
    | .int n =>
      let x := Number.floatOfInt n
      if Number.isFinite x then .ok (.float x)
      else .error "Expected type 'Float'. int too large to convert to float"
    | .float x =>
      if Number.isFinite x then .ok (.float x)
      else .error ("Float cannot represent non numeric value: " ++ inspect v)
    | _ => .error ("Float cannot represent non numeric value: " ++ inspect v)
  | .string =>
    match v with
    | .str s => .ok (.str s)
    | _ => .error ("String cannot represent a non string value: " ++ inspect v)
  | .boolean =>
    match v with
    | .bool b => .ok (.bool b)
    | _ => .error ("Boolean cannot represent a non boolean value: " ++ inspect v)
  | .id =>
    match v with
    | .str s => .ok (.str s)
    | _ =>
      match wholeNumber? v with
      | some n => .ok (.str (Number.intText n))
      | none => .error ("ID cannot represent value: " ++ inspect v)

/-- The whole number of an integer literal's text. -/
def literalInt (text : String) : Int :=
  match text.toList with
  | '-' :: ds => -(Number.digitsValue (ds.map fun d => d.toNat - 48) : Int)
  | ds => Number.digitsValue (ds.map fun d => d.toNat - 48)

/-- The double of a number literal's text. -/
def literalFloat (text : String) : Float :=
  let cs := text.toList.toArray
  match Json.numberValue cs 0 cs.size true with
  | .ok (.float x) => x
  | _ => 0

/-- Coerce a literal to a scalar, or say why not. -/
def parseScalarLiteral (sc : Scalar) (l : Literal) : Except String Value :=
  match sc, l with
  | .int, .int t _ =>
    let n := literalInt t
    if minInt ≤ n && n ≤ maxInt then .ok (.int n)
    else .error ("Int cannot represent non 32-bit signed integer value: " ++ t)
  | .int, _ => .error ("Int cannot represent non-integer value: " ++ printLiteral l)
  | .float, .int t _ | .float, .float t _ => .ok (.float (literalFloat t))
  | .float, _ => .error ("Float cannot represent non numeric value: " ++ printLiteral l)
  | .string, .str s _ _ => .ok (.str s)
  | .string, _ => .error ("String cannot represent a non string value: " ++ printLiteral l)
  | .boolean, .bool b _ => .ok (.bool b)
  | .boolean, _ => .error ("Boolean cannot represent a non boolean value: " ++ printLiteral l)
  | .id, .str s _ _ => .ok (.str s)
  | .id, .int t _ => .ok (.str t)
  | .id, _ =>
    .error ("ID cannot represent a non-string and non-integer value: " ++ printLiteral l)

/-! ### Enumerations

An enumeration value is read from a text naming it, as an input value, or from an enum
literal. A refusal offers the values whose names are close to what was given.
-/

/-- The sentence offering the values of an enumeration close to a text. -/
def EnumDef.suggest (e : EnumDef) (written : String) : String :=
  didYouMean (suggestionList written e.names) (some "the enum value")

/-- Coerce an input value to an enumeration, or say why not. -/
def parseEnumValue (e : EnumDef) (v : Value) : Except String Value :=
  match v with
  | .str t =>
    if e.names.contains t then .ok (.str t)
    else .error (s!"Value '{t}' does not exist in '{e.name}' enum." ++ e.suggest t)
  | _ =>
    let shown := inspect v
    .error (s!"Enum '{e.name}' cannot represent non-string value: {shown}." ++ e.suggest shown)

/-- Coerce a literal to an enumeration, or say why not. -/
def parseEnumLiteral (e : EnumDef) (l : Literal) : Except String Value :=
  match l with
  | .enum t _ =>
    if e.names.contains t then .ok (.str t)
    else .error (s!"Value '{t}' does not exist in '{e.name}' enum." ++ e.suggest t)
  | _ =>
    let shown := printLiteral l
    .error (s!"Enum '{e.name}' cannot represent non-enum value: {shown}." ++ e.suggest shown)

/-! ### Coercing literals -/

/-- Whether a literal is a variable without a value. -/
def missingVariable (vars : Option (List (String × Value))) : Literal → Bool
  | .var n _ =>
    match vars with
    | none | some [] => true
    | some vs => (vs.lookup n).isNone
  | _ => false

/-- The value of a literal coerced to a type, given the values of the variables; none when
the literal does not fit the type. A variable stands for its value, which was coerced
before; without values at all every variable is missing. -/
def valueOfLiteral (s : Schema) : TypeExpr → Option (List (String × Value)) → Literal →
    Option Value
  | t, vars, .var n _ =>
    match vars with
    | none | some [] => none
    | some vs =>
      match vs.lookup n with
      | none => none
      | some .null => if t.isNonNull then none else some .null
      | some v => some v
  | .nonNull t, vars, l =>
    match l with
    | .null _ => none
    | _ => valueOfLiteral s t vars l
  | _, _, .null _ => some .null
  | .list t, vars, .list items _ =>
    let rec go : List Literal → Option (List Value)
      | [] => some []
      | x :: xs =>
        if missingVariable vars x then
          if t.isNonNull then none else (go xs).map (Value.null :: ·)
        else do
          let v ← valueOfLiteral s t vars x
          let vs ← go xs
          pure (v :: vs)
    (go items).map Value.arr
  | .list t, vars, l => (valueOfLiteral s t vars l).map fun v => .arr [v]
  | .named n, _, l =>
    match s.shape? n with
    | some (.scalar sc) => (parseScalarLiteral sc l).toOption
    | some (.enum e) => (parseEnumLiteral e l).toOption
    | _ => none

/-! ### Coercing variables -/

/-- A failure of coercing an input value: where inside the value, the value there, and
why. -/
structure InputFault where
  path : List PathKey
  value : Value
  message : String
  deriving Inhabited

/-- Coerce an input value to a type. The value is absent when it was not given. Returns the
failures met, in order, and the coerced value unless coercion failed. -/
def coerceInput (s : Schema) : TypeExpr → Option Value → List PathKey →
    List InputFault × Option Value
  | .nonNull t, v, path =>
    match v with
    | none | some .null =>
      ([⟨path, v.getD .null, s!"Expected non-nullable type '{(TypeExpr.nonNull t).text}' not to be null."⟩], none)
    | some x => coerceInput s t (some x) path
  | _, none, _ => ([], some .null)
  | _, some .null, _ => ([], some .null)
  | .list t, some (.arr xs), path =>
    let results := xs.zipIdx.map fun (x, i) => coerceInput s t (some x) (path ++ [PathKey.index i])
    (results.flatMap (·.1), some (.arr (results.map fun r => r.2.getD .null)))
  | .list t, some x, path =>
    let (fs, r) := coerceInput s t (some x) path
    (fs, r.map fun y => .arr [y])
  | .named n, some x, path =>
    match s.shape? n with
    | some (.scalar sc) =>
      match parseScalarValue sc x with
      | .ok y => ([], some y)
      | .error m => ([⟨path, x, m⟩], none)
    | some (.enum e) =>
      match parseEnumValue e x with
      | .ok y => ([], some y)
      | .error m => ([⟨path, x, m⟩], none)
    | _ => ([⟨path, x, s!"Expected type '{n}'."⟩], none)

/-- The text of a path inside a value: `[0]` for an index, `.k` for a key. -/
def pathText (path : List PathKey) : String :=
  String.join (path.map fun
    | .index i => "[" ++ toString i ++ "]"
    | .key k => "." ++ k)

/-- Coerce the values of an operation's variables. Every variable the operation declares is
coerced from the given values or from its default; all failures are reported, each at the
declaration of its variable. -/
def coerceVariables (s : Schema) (defs : List VariableDefinition) (inputs : List (String × Value)) :
    Except (List GraphqlError) (List (String × Value)) :=
  let step (acc : List GraphqlError × List (String × Value)) (d : VariableDefinition) :
      List GraphqlError × List (String × Value) :=
    let (errs, vals) := acc
    match s.typeOf d.type with
    | some t =>
      if !s.isInputType t then
        (errs ++ [inputTypeError d], vals)
      else
        match inputs.lookup d.name with
        | none =>
          match d.default with
          | some lit =>
            match valueOfLiteral s t none lit with
            | some v => (errs, vals ++ [(d.name, v)])
            | none => (errs, vals)
          | none =>
            if t.isNonNull then
              (errs ++ [{ message := s!"Variable '${d.name}' of required type '{t.text}' was not provided.",
                          positions := [d.start] }], vals)
            else (errs, vals)
        | some .null =>
          if t.isNonNull then
            (errs ++ [{ message := s!"Variable '${d.name}' of non-null type '{t.text}' must not be null.",
                        positions := [d.start] }], vals)
          else (errs, vals ++ [(d.name, .null)])
        | some v =>
          let (faults, r) := coerceInput s t (some v) []
          let faultErrors := faults.map fun f =>
            let at_ := if f.path.isEmpty then "" else s!" at '{d.name}{pathText f.path}'"
            { message := s!"Variable '${d.name}' got invalid value {inspect f.value}{at_}; {f.message}",
              positions := [d.start] : GraphqlError }
          (errs ++ faultErrors, vals ++ [(d.name, r.getD .null)])
    | none => (errs ++ [inputTypeError d], vals)
  match defs.foldl step ([], []) with
  | ([], vals) => .ok vals
  | (errs, _) => .error errs
where
  /-- The error of a variable whose type cannot be given as input. -/
  inputTypeError (d : VariableDefinition) : GraphqlError :=
    { message := s!"Variable '${d.name}' expected value of type '{typeRefText d.type}' which cannot be used as an input type.",
      positions := [d.type.start] }
  /-- A written type as text. -/
  typeRefText : TypeRef → String
    | .named n _ => n
    | .list t _ => "[" ++ typeRefText t ++ "]"
    | .nonNull t _ => typeRefText t ++ "!"

end GraphProbe.Graphql
