import GraphProbe.Code.Parse.Basic

/-!
# Reading expressions

Expressions are read by precedence, loosest first: conditional expressions and lambdas,
`or`, `and`, `not`, comparisons, the bitwise operators, shifts, sums, products, signs,
powers, `await`, and then atoms with their attributes, calls and subscripts. Displays in
brackets hold elements or one comprehension; calls hold positional arguments, then keyword
arguments.

Besides the rules, this module recognises the usual mistakes inside expressions and reports
them as such: two expressions side by side within brackets (a missing comma), the old print
statement, `=` where a comparison was meant, keyword arguments that are not names, positional
arguments after keyword arguments, an unparenthesised generator among other arguments, and
parameters in an order that cannot be.

Every function takes a budget that shrinks with each call; reading a source needs no more
than a fixed multiple of its token count.
-/

namespace GraphProbe.Code.Parse

/-- The binary operators by precedence, loosest first. -/
def binaryLevels : List (List (String × BinaryOp)) :=
  [[("|", .bitOr)], [("^", .bitXor)], [("&", .bitAnd)], [("<<", .shiftLeft), (">>", .shiftRight)],
   [("+", .add), ("-", .sub)],
   [("*", .mul), ("/", .div), ("//", .floorDiv), ("%", .mod), ("@", .matMul)]]

/-- The binary operator a token stands for at a level of precedence. -/
def binaryOpAt (level : Nat) (t : Token) : Option BinaryOp :=
  if t.kind != .op then none else ((binaryLevels[level]?).getD []).lookup t.text

/-- The comparison operator at the next tokens, with the number of tokens it takes. -/
def compareOp : Parse (Option (CompareOp × Nat)) := do
  let t <- peek
  if t.kind == .op then
    pure (match t.text with
      | "==" => some (.eq, 1)
      | "!=" => some (.ne, 1)
      | "<" => some (.lt, 1)
      | "<=" => some (.le, 1)
      | ">" => some (.gt, 1)
      | ">=" => some (.ge, 1)
      | _ => none)
  else if t.isKeyword "in" then pure (some (.isIn, 1))
  else if t.isKeyword "not" then
    if (<- tokenAt 1).isKeyword "in" then pure (some (.notIn, 2)) else pure none
  else if t.isKeyword "is" then
    if (<- tokenAt 1).isKeyword "not" then pure (some (.isNot, 2)) else pure (some (.is, 1))
  else pure none

/-- Take the operator `s`, or fail. -/
def expectOp (s : String) : Parse Unit := do
  if (<- peek).isOp s then advance else noFit

/-- Take the keyword `s`, or fail. -/
def expectKeyword (s : String) : Parse Unit := do
  if (<- peek).isKeyword s then advance else noFit

/-- Take the operator `s`; any other token is the mistake of a missing `s`. -/
def forceOp (s : String) : Parse Unit := do
  let t <- peek
  if t.isOp s then advance else mistake s!"expected '{s}'" t.line

/-- Consecutive text literals. -/
def stringRun : Nat -> List Token -> Parse (List Token)
  | 0, acc => pure acc
  | fuel + 1, acc => do
    let t <- peek
    if t.kind == .string then
      advance
      stringRun fuel (acc ++ [t])
    else pure acc

/-- The error of a field expression of an f-string, read as a source of its own: its lines
are counted from the literal's line, `shift` lines on, and an error of the rules (not one the
reader reports) tells it is in an f-string. -/
def fieldError (shift : Nat) (lexed : Lexed) (e : CodeError) : CodeError :=
  let reported := match lexed.stop with
    | some (.reported m l) => m == e.message && l == e.line
    | _ => false
  { e with line := e.line + shift,
           message := if reported then e.message else "f-string: " ++ e.message }

/-- The atom at the far left of an expression. -/
def leftmostAtom : Expr -> Expr
  | .binary _ l _ => leftmostAtom l
  | .attribute o _ => leftmostAtom o
  | .subscript o _ => leftmostAtom o
  | .call f _ _ => leftmostAtom f
  | e => e

/-- Whether an expression starts with a display that a mistaken `=` does not count as an
assignment target: a list, a tuple, a generator, `True`, `False` or `None`. -/
def startsWithDisplay (e : Expr) : Bool :=
  match leftmostAtom e with
  | .list _ | .tuple _ | .comprehension .generator .. | .trueLit | .falseLit | .noneLit => true
  | _ => false

/-- Whether an expression is made of bitwise operators and tighter ones only. -/
def isOperand : Expr -> Bool
  | .compare .. | .and .. | .or .. | .unary .not _ | .ifElse .. | .lambda .. | .named .. => false
  | .starred _ | .yield .. | .yieldFrom .. => false
  | _ => true

/-- What parameters have shown so far, to tell their order. -/
structure ParamsSeen where
  count : Nat := 0
  defaulted : Bool := false
  slash : Bool := false
  star : Bool := false
  doubleStar : Bool := false

mutual

/-- Expressions separated by commas: a tuple when there is a comma. -/
def starExpressions : Nat -> Parse Expr
  | 0 => noFit
  | fuel + 1 => do
    let first <- starExpression fuel
    if (<- peek).isOp "," then pure (.tuple (<- starItems fuel [first])) else pure first
termination_by structural fuel => fuel

/-- The items after a comma of a tuple without brackets. -/
def starItems : Nat -> List Expr -> Parse (List Expr)
  | 0, _ => noFit
  | fuel + 1, acc => do
    advance
    if (<- peek).startsExpression then
      let e <- starExpression fuel
      if (<- peek).isOp "," then starItems fuel (acc ++ [e]) else pure (acc ++ [e])
    else pure acc
termination_by structural fuel => fuel

/-- An expression, or a starred one. -/
def starExpression : Nat -> Parse Expr
  | 0 => noFit
  | fuel + 1 => do
    if (<- peek).isOp "*" then
      advance
      pure (.starred (<- operand fuel 0))
    else expression fuel
termination_by structural fuel => fuel

/-- The expression after the star of a starred argument or index. A star before something
that is no expression is a mistake, found as soon as the expression fails. -/
def starredValue : Nat -> Parse Expr
  | 0 => noFit
  | fuel + 1 => do
    tryCatch (expression fuel) fun
      | .fatal e => throw (.fatal e)
      | .pastEnd => throw .pastEnd
      | _ => mistakeAtFill "Invalid star expression"
termination_by structural fuel => fuel

/-- The first item of a display, after its opening bracket: a star there before something
that is no expression is a mistake. -/
def firstItem : Nat -> Parse Expr
  | 0 => noFit
  | fuel + 1 => do
    if (<- peek).isOp "*" then
      if !(<- fits (do advance; expression fuel)) then mistakeAtFill "Invalid star expression"
    starNamedExpression fuel
termination_by structural fuel => fuel

/-- A named expression, or a starred one. -/
def starNamedExpression : Nat -> Parse Expr
  | 0 => noFit
  | fuel + 1 => do
    if (<- peek).isOp "*" then
      advance
      pure (.starred (<- operand fuel 0))
    else namedExpression fuel
termination_by structural fuel => fuel

/-- An expression that may bind a name with `:=`. A `=` after it is a mistake. -/
def namedExpression : Nat -> Parse Expr
  | 0 => noFit
  | fuel + 1 => do
    let start <- position
    let t <- peek
    if (<- andAt t.isPlainName 1 (·.isOp ":=")) then
      advance
      advance
      pure (.named t.text (<- expression fuel) t.line)
    else
      let e <- expression fuel
      let t2 <- peek
      if t2.isOp ":=" then
        mistake s!"cannot use assignment expressions with {e.describe}" t.line
      else if t2.isOp "=" && !(<- get).probing then
        misplacedAssign fuel start e
        pure e
      else pure e
termination_by structural fuel => fuel

/-- The mistake of `=` after an expression where a comparison was meant: when what follows
the `=` reads as an operand not followed by another `=`. -/
def misplacedAssign : Nat -> Nat -> Expr -> Parse Unit
  | 0, _, _ => pure ()
  | fuel + 1, start, e => do
    let first <- tokenBefore start
    let atEq <- position
    advance
    let rhs <- probe (operand fuel 0)
    let fitting <- match rhs with
      | some _ => do
        let t <- peek
        pure !(t.isOp "=" || t.isOp ":=")
      | none => pure false
    restore atEq
    if fitting then
      let single := atEq == start + 1 && first.isPlainName
      match e with
      | .name _ =>
        if single then
          mistake "invalid syntax. Maybe you meant '==' or ':=' instead of '='?" first.line
        else
          mistake "cannot assign to name here. Maybe you meant '==' instead of '='?" first.line
      | _ =>
        -- a group in brackets is an operand, whatever it holds, unless it is a tuple or a
        -- generator expression
        let group := (<- oneGroup start atEq) && !(e matches .tuple _) &&
          !(e matches .comprehension .generator ..)
        if group || (isOperand e && !startsWithDisplay e) then
          mistake s!"cannot assign to {e.describe} here. Maybe you meant '==' instead of '='?"
            first.line
        else pure ()
termination_by structural fuel => fuel

/-- An expression: a lambda, a conditional expression, or an `or` of operands. -/
def expression : Nat -> Parse Expr
  | 0 => noFit
  | fuel + 1 => do
    let t <- peek
    if t.isKeyword "lambda" then lambdaExpr fuel
    else
      let start <- position
      let a <- disjunction fuel
      let t2 <- peek
      if t2.isKeyword "if" then
        advance
        let b <- disjunction fuel
        let t3 <- peek
        if t3.isKeyword "else" then
          advance
          pure (.ifElse b a (<- expression fuel))
        else if t3.isOp ":" || (<- get).probing then noFit
        else mistake "expected 'else' after 'if' expression" t.line
      else
        if t2.startsJuxtaposed && !(<- get).probing then juxtaposed fuel start a
        pure a
termination_by structural fuel => fuel

/-- Recognise a second expression written right after the first, `a`, which started at
`start`: within brackets that is a missing comma; after `print` or `exec` it is the old
statement form. Otherwise nothing is reported here. -/
def juxtaposed : Nat -> Nat -> Expr -> Parse Unit
  | 0, _, _ => pure ()
  | fuel + 1, start, a => do
    let first <- tokenBefore start
    let second <- tokenBefore (start + 1)
    let legacyName := match a with
      | .name n => if n == "print" || n == "exec" then some n else none
      | _ => none
    let excluded := (first.isPlainName && second.kind == .string) ||
      (first.kind == .name && softKeywords.contains first.text) || legacyName.isSome
    let saved <- position
    if !excluded then
      match <- probe (expression fuel) with
      | some _ =>
        let last <- tokenBefore ((<- position) - 1)
        restore saved
        if last.depth > 0 then
          mistake "invalid syntax. Perhaps you forgot a comma?" first.line
      | none => pure ()
    match legacyName with
    | some n =>
      match <- probe (starExpressions fuel) with
      | some _ =>
        restore saved
        mistake s!"Missing parentheses in call to '{n}'. Did you mean {n}(...)?" first.line
      | none => pure ()
    | none => pure ()
termination_by structural fuel => fuel

/-- Operands joined by `or`. -/
def disjunction : Nat -> Parse Expr
  | 0 => noFit
  | fuel + 1 => do orRest fuel (<- conjunction fuel)
termination_by structural fuel => fuel

/-- More `or` operands after `a`. -/
def orRest : Nat -> Expr -> Parse Expr
  | 0, _ => noFit
  | fuel + 1, a => do
    if (<- peek).isKeyword "or" then
      advance
      orRest fuel (.or a (<- conjunction fuel))
    else pure a
termination_by structural fuel => fuel

/-- Operands joined by `and`. -/
def conjunction : Nat -> Parse Expr
  | 0 => noFit
  | fuel + 1 => do andRest fuel (<- inversion fuel)
termination_by structural fuel => fuel

/-- More `and` operands after `a`. -/
def andRest : Nat -> Expr -> Parse Expr
  | 0, _ => noFit
  | fuel + 1, a => do
    if (<- peek).isKeyword "and" then
      advance
      andRest fuel (.and a (<- inversion fuel))
    else pure a
termination_by structural fuel => fuel

/-- A comparison, possibly negated with `not`. -/
def inversion : Nat -> Parse Expr
  | 0 => noFit
  | fuel + 1 => do
    if (<- peek).isKeyword "not" then
      advance
      pure (.unary .not (<- inversion fuel))
    else
      let a <- operand fuel 0
      compareRest fuel a []
termination_by structural fuel => fuel

/-- The comparisons after a first operand. -/
def compareRest : Nat -> Expr -> List (CompareOp × Expr) -> Parse Expr
  | 0, _, _ => noFit
  | fuel + 1, first, acc => do
    match <- compareOp with
    | some (op, width) =>
      for _ in List.range width do advance
      let b <- operand fuel 0
      compareRest fuel first (acc ++ [(op, b)])
    | none => pure (if acc.isEmpty then first else .compare first acc)
termination_by structural fuel => fuel

/-- An operand of the binary operators from a level of precedence on. -/
def operand : Nat -> Nat -> Parse Expr
  | 0, _ => noFit
  | fuel + 1, level => do
    if level ≥ binaryLevels.length then factor fuel
    else
      let a <- operand fuel (level + 1)
      binaryRest fuel level a
termination_by structural fuel => fuel

/-- More operands of one level of precedence after `a`, joined from the left. -/
def binaryRest : Nat -> Nat -> Expr -> Parse Expr
  | 0, _, _ => noFit
  | fuel + 1, level, a => do
    match binaryOpAt level (<- peek) with
    | some op =>
      advance
      let b <- operand fuel (level + 1)
      binaryRest fuel level (.binary op a b)
    | none => pure a
termination_by structural fuel => fuel

/-- A signed operand, or a power. -/
def factor : Nat -> Parse Expr
  | 0 => noFit
  | fuel + 1 => do
    let t <- peek
    if t.isOp "+" then
      advance
      pure (.unary .plus (<- factor fuel))
    else if t.isOp "-" then
      advance
      pure (.unary .minus (<- factor fuel))
    else if t.isOp "~" then
      advance
      pure (.unary .invert (<- factor fuel))
    else
      let a <- awaitPrimary fuel
      if (<- peek).isOp "**" then
        advance
        pure (.binary .pow a (<- factor fuel))
      else pure a
termination_by structural fuel => fuel

/-- A primary, possibly awaited. -/
def awaitPrimary : Nat -> Parse Expr
  | 0 => noFit
  | fuel + 1 => do
    let t <- peek
    if t.isKeyword "await" then
      advance
      pure (.await (<- primary fuel) t.line)
    else primary fuel
termination_by structural fuel => fuel

/-- An atom with its attributes, calls and subscripts. -/
def primary : Nat -> Parse Expr
  | 0 => noFit
  | fuel + 1 => do trailers fuel (<- atom fuel)
termination_by structural fuel => fuel

/-- Attributes, calls and subscripts after `a`. -/
def trailers : Nat -> Expr -> Parse Expr
  | 0, _ => noFit
  | fuel + 1, a => do
    let t <- peek
    if t.isOp "." then
      advance
      let n <- next
      if n.kind == .name && !keywords.contains n.text then trailers fuel (.attribute a n.text)
      else noFit
    else if t.isOp "(" then
      advance
      let (args, kws) <- arguments fuel true [] [] false false
      trailers fuel (.call a args kws)
    else if t.isOp "[" then
      advance
      let index <- subscriptItems fuel []
      trailers fuel (.subscript a index)
    else pure a
termination_by structural fuel => fuel

/-- A name, a constant, literals, or a display in brackets. -/
def atom : Nat -> Parse Expr
  | 0 => noFit
  | fuel + 1 => do
    let t <- peek
    match t.kind with
    | .name =>
      if t.isPlainName then
        advance
        pure (.name t.text)
      else if t.text == "True" then
        advance
        pure .trueLit
      else if t.text == "False" then
        advance
        pure .falseLit
      else if t.text == "None" then
        advance
        pure .noneLit
      else noFit
    | .number =>
      advance
      pure (numberLiteral t.text)
    | .string => joinedStrings fuel (<- stringRun fuel [])
    | .op =>
      if t.text == "(" then
        advance
        parenAtom fuel t
      else if t.text == "[" then
        advance
        listAtom fuel t
      else if t.text == "\x7b" then
        advance
        braceAtom fuel t
      else if t.text == "..." then
        advance
        pure .ellipsis
      else noFit
    | _ => noFit
termination_by structural fuel => fuel

/-- The value of consecutive text literals. Each literal is read in turn: its body (a byte
string may hold ASCII only), then whether it mixes byte strings and texts with those before
it, then, for an f-string, its pieces with every field compiled. Errors of a body are found
at the literal itself; the others where the reading stands, at the token after the run. -/
def joinedStrings : Nat -> List Token -> Parse Expr
  | 0, _ => noFit
  | fuel + 1, run => do
    let here := (<- peek).line
    let mut parts : Array TextPart := #[]
    let mut bytesMode : Option Bool := none
    for t in run do
      let (pre, body) := splitTextLiteral t.text
      let isBytes := pre.contains 'b'
      let raw := pre.contains 'r'
      let value <- if pre.contains 'f' then pure none
        else if isBytes then
          if body.any (fun c => c.toNat ≥ 128) then
            fatal "bytes can only contain ASCII literal characters" t.line
          else if raw then pure (some (TextPart.bytes (body.map Char.toNat)))
          else match unescapeBytes body 0 with
            | .ok bs => pure (some (TextPart.bytes bs))
            | .error m => fatal m here
        else if raw then pure (some (TextPart.text body))
        else match unescapeText body with
          | .ok cs => pure (some (TextPart.text cs))
          | .error m => fatal m here
      if let some b := bytesMode then
        if b != isBytes then fatal "cannot mix bytes and nonbytes literals" here
      bytesMode := some isBytes
      match value with
      | some v => parts := parts.push v
      | none =>
        let compile : FieldCompiler := fun cs offset =>
          fieldExpression fuel cs (t.line + lineBreaks (body.take offset) - 1)
        match formatPieces compile raw 0 (body.length + 2) body 0 with
        | .ok (pieces, _) => parts := parts.push (.formatted pieces)
        | .error (.literal m) => fatal m here
        | .error (.expression e) => throw (.fatal e)
    pure (joinTextParts parts.toList)
termination_by structural fuel => fuel

/-- Compile the expression of an f-string field, `shift` lines after the first: it is read
in brackets, as expressions separated by commas. -/
def fieldExpression : Nat -> List Char -> Nat -> Except CodeError Expr
  | 0, _, shift => .error ⟨.general, "f-string: invalid syntax", shift⟩
  | fuel + 1, cs, shift =>
    let lexed := tokenize ("(" ++ String.ofList cs ++ ")")
    match ((starExpressions fuel).run lexed.tokens).run {} with
    | .ok e _ => .ok e
    | .error stop s => .error (fieldError shift lexed (CodeError.ofParse lexed stop s))
termination_by structural fuel => fuel

/-- The mistake of a comprehension whose element is starred, once its clauses read. -/
def comprehensionStart : Nat -> Expr -> Nat -> Parse Unit
  | 0, _, _ => pure ()
  | fuel + 1, first, line => do
    match first with
    | .starred _ =>
      if (<- fits (comprehension fuel [])) then
        mistake "iterable unpacking cannot be used in comprehension" line
    | _ => pure ()
termination_by structural fuel => fuel

/-- What follows `(`: an empty tuple, a yield, a group, a tuple, or a generator. -/
def parenAtom : Nat -> Token -> Parse Expr
  | 0, _ => noFit
  | fuel + 1, opener => do
    let t <- peek
    if t.isOp ")" then
      advance
      pure (.tuple [])
    else if t.isKeyword "yield" then
      let y <- yieldExpr fuel
      expectOp ")"
      pure y
    else if t.isOp "**" then
      advance
      discard <| expression fuel
      if (<- peek).isOp ")" then mistake "cannot use double starred expression here" t.line
      noFit
    else
      let first <- firstItem fuel
      let t2 <- peek
      if t2.isKeyword "for" || t2.isKeyword "async" then
        comprehensionStart fuel first t.line
        let clauses <- comprehension fuel []
        expectOp ")"
        pure (.comprehension .generator first none clauses opener.line)
      else if t2.isOp ")" then
        match first with
        | .starred _ => mistake "cannot use starred expression here" t.line
        | _ =>
          advance
          pure first
      else if t2.isOp "," then pure (.tuple (<- displayItems fuel [first] ")"))
      else noFit
termination_by structural fuel => fuel

/-- The mistake of a list or set display whose elements are followed by a `for`: a
comprehension target needs brackets. -/
def unbracketedTarget : Nat -> Nat -> Parse Unit
  | 0, _ => pure ()
  | fuel + 1, line => do
    let saved <- position
    let found <- probe (do
      let _ <- displayElements fuel []
      let t <- peek
      if t.isKeyword "for" || t.isKeyword "async" then pure () else noFit)
    restore saved
    if found.isSome then
      mistake "did you forget parentheses around the comprehension target?" line
termination_by structural fuel => fuel

/-- Elements after a comma, as many as follow, with a trailing comma allowed. -/
def displayElements : Nat -> List Expr -> Parse (List Expr)
  | 0, _ => noFit
  | fuel + 1, acc => do
    if (<- peek).isOp "," then
      advance
      if (<- peek).startsExpression then
        let e <- starNamedExpression fuel
        displayElements fuel (acc ++ [e])
      else pure acc
    else pure acc
termination_by structural fuel => fuel

/-- What follows `[`: a list display or a list comprehension. -/
def listAtom : Nat -> Token -> Parse Expr
  | 0, _ => noFit
  | fuel + 1, opener => do
    if (<- peek).isOp "]" then
      advance
      pure (.list [])
    else
      let line := (<- peek).line
      let first <- firstItem fuel
      let t <- peek
      if t.isKeyword "for" || t.isKeyword "async" then
        comprehensionStart fuel first line
        let clauses <- comprehension fuel []
        expectOp "]"
        pure (.comprehension .list first none clauses opener.line)
      else if t.isOp "]" then
        advance
        pure (.list [first])
      else if t.isOp "," then
        match <- probe (displayItems fuel [first] "]") with
        | some items => pure (.list items)
        | none =>
          unbracketedTarget fuel line
          pure (.list (<- displayItems fuel [first] "]"))
      else noFit
termination_by structural fuel => fuel

/-- What follows the opening brace: a dict or set display or comprehension. -/
def braceAtom : Nat -> Token -> Parse Expr
  | 0, _ => noFit
  | fuel + 1, opener => do
    let t <- peek
    if t.isOp "\x7d" then
      advance
      pure (.dict [] [])
    else if t.isOp "**" then
      advance
      let v <- operand fuel 0
      let t2 <- peek
      if t2.isKeyword "for" || t2.isKeyword "async" then
        mistake "dict unpacking cannot be used in dict comprehension" t.line
      dictItems fuel [none] [v]
    else
      let first <- firstItem fuel
      let t2 <- peek
      if t2.isOp ":" then
        if let .starred _ := first then noFit
        advance
        let v <- dictValue fuel
        let t3 <- peek
        if t3.isKeyword "for" || t3.isKeyword "async" then
          let clauses <- comprehension fuel []
          expectOp "\x7d"
          pure (.comprehension .dict first (some v) clauses opener.line)
        else dictItems fuel [some first] [v]
      else if t2.isKeyword "for" || t2.isKeyword "async" then
        comprehensionStart fuel first t.line
        let clauses <- comprehension fuel []
        expectOp "\x7d"
        pure (.comprehension .set first none clauses opener.line)
      else if t2.isOp "\x7d" then
        advance
        pure (.set [first])
      else if t2.isOp "," then
        match <- probe (displayItems fuel [first] "\x7d") with
        | some items => pure (.set items)
        | none =>
          unbracketedTarget fuel t.line
          pure (.set (<- displayItems fuel [first] "\x7d"))
      else noFit
termination_by structural fuel => fuel

/-- The value after a dictionary key and its colon; a starred value or none at all is a
mistake. -/
def dictValue : Nat -> Parse Expr
  | 0 => noFit
  | fuel + 1 => do
    let t <- peek
    if t.isOp "*" then
      if (<- fits (do advance; operand fuel 0)) then
        mistake "cannot use a starred expression in a dictionary value" t.line
      else noFit
    else if t.isOp "\x7d" || t.isOp "," then
      mistake "expression expected after dictionary key and ':'" (<- tokenBefore ((<- position) - 1)).line
    else expression fuel
termination_by structural fuel => fuel

/-- The members of a dict display after its first, up to the closing brace. -/
def dictItems : Nat -> List (Option Expr) -> List Expr -> Parse Expr
  | 0, _, _ => noFit
  | fuel + 1, keys, values => do
    let t <- peek
    if t.isOp "\x7d" then
      advance
      pure (.dict keys values)
    else if t.isOp "," then
      advance
      let t2 <- peek
      if t2.isOp "\x7d" then
        advance
        pure (.dict keys values)
      else if t2.isOp "**" then
        advance
        let v <- operand fuel 0
        dictItems fuel (keys ++ [none]) (values ++ [v])
      else
        let k <- expression fuel
        if !(<- peek).isOp ":" then mistake "':' expected after dictionary key" t2.line
        advance
        let v <- dictValue fuel
        dictItems fuel (keys ++ [some k]) (values ++ [v])
    else noFit
termination_by structural fuel => fuel

/-- The elements of a display after a comma, up to the closer. -/
def displayItems : Nat -> List Expr -> String -> Parse (List Expr)
  | 0, _, _ => noFit
  | fuel + 1, acc, closer => do
    advance
    if (<- peek).isOp closer then
      advance
      pure acc
    else
      let e <- starNamedExpression fuel
      let t <- peek
      if t.isOp "," then displayItems fuel (acc ++ [e]) closer
      else if t.isOp closer then
        advance
        pure (acc ++ [e])
      else noFit
termination_by structural fuel => fuel

/-- The `for` and `if` clauses of a comprehension: each a target, an iterable, its
conditions, and whether it is asynchronous. -/
def comprehension : Nat -> List (Expr × Expr × List Expr × Bool) ->
    Parse (List (Expr × Expr × List Expr × Bool))
  | 0, _ => noFit
  | fuel + 1, acc => do
    let isAsync := (<- peek).isKeyword "async"
    if isAsync then advance
    let t <- peek
    if !t.isKeyword "for" then noFit
    advance
    let start <- position
    let target <- forTargets fuel
    if !(<- peek).isKeyword "in" then
      -- read as expressions, the targets may show a missing comma
      restore start
      discard <| starExpressions fuel
      noFit
    advance
    let iter <- disjunction fuel
    let conds <- conditions fuel []
    let acc := acc ++ [(target, iter, conds, isAsync)]
    let t2 <- peek
    if t2.isKeyword "for" || t2.isKeyword "async" then comprehension fuel acc
    else pure acc
termination_by structural fuel => fuel

/-- The `if` clauses of a comprehension. -/
def conditions : Nat -> List Expr -> Parse (List Expr)
  | 0, _ => noFit
  | fuel + 1, acc => do
    if (<- peek).isKeyword "if" then
      advance
      let c <- disjunction fuel
      conditions fuel (acc ++ [c])
    else pure acc
termination_by structural fuel => fuel

/-- The targets of a `for`: operands, perhaps starred, separated by commas; any of them
that cannot be assigned is a mistake. -/
def forTargets : Nat -> Parse Expr
  | 0 => noFit
  | fuel + 1 => do
    let line := (<- peek).line
    let items : List (Expr × Bool) <- targetItems fuel []
    let target : Expr := match items with
      | [(e, false)] => e
      | _ => .tuple (items.map Prod.fst)
    match target.forTargetBad? with
    | some b => mistake s!"cannot assign to {b.describe}" line
    | none => if target.badTarget?.isSome then noFit else pure target
termination_by structural fuel => fuel

/-- Target operands separated by commas, each with whether a comma follows it. -/
def targetItems : Nat -> List (Expr × Bool) -> Parse (List (Expr × Bool))
  | 0, _ => noFit
  | fuel + 1, acc => do
    let e <- if (<- peek).isOp "*" then do
        advance
        pure (Expr.starred (<- operand fuel 0))
      else operand fuel 0
    if (<- peek).isOp "," then
      advance
      let t <- peek
      if t.startsExpression && !t.isKeyword "in" then targetItems fuel (acc ++ [(e, true)])
      else pure (acc ++ [(e, true)])
    else pure (acc ++ [(e, false)])
termination_by structural fuel => fuel

/-- A `yield` expression. -/
def yieldExpr : Nat -> Parse Expr
  | 0 => noFit
  | fuel + 1 => do
    let t <- next
    if (<- peek).isKeyword "from" then
      advance
      pure (.yieldFrom (<- expression fuel) t.line)
    else if (<- peek).startsExpression then pure (.yield (some (<- starExpressions fuel)) t.line)
    else pure (.yield none t.line)
termination_by structural fuel => fuel

/-- A lambda: its parameters, a colon, and its body. -/
def lambdaExpr : Nat -> Parse Expr
  | 0 => noFit
  | fuel + 1 => do
    advance
    let (params, defaults, _) <- parameters fuel false ":" {} [] [] []
    expectOp ":"
    let body <- expression fuel
    pure (.lambda params defaults body)
termination_by structural fuel => fuel

/-- Parameters up to the closer: the parameters, their defaults and, when annotations are
allowed, the annotations with the names they belong to. -/
def parameters : Nat -> Bool -> String -> ParamsSeen -> List Param -> List Expr ->
    List (String × Expr) -> Parse (List Param × List Expr × List (String × Expr))
  | 0, _, _, _, _, _, _ => noFit
  | fuel + 1, annotated, closer, seen, params, defaults, notes => do
    let t <- peek
    if t.isOp closer then pure (params, defaults, notes)
    else
      let noteAfter (name : String) (star : Bool) : Parse (List (String × Expr)) := do
        if (<- andAt annotated 0 (·.isOp ":")) then
          advance
          let e <- if star then starExpression fuel else expression fuel
          pure [(name, e)]
        else pure []
      let (seen, params, defaults, notes) <- do
        if t.isOp "/" then
          if seen.doubleStar then mistake "arguments cannot follow var-keyword argument" t.line
          if seen.star then mistake "/ must be ahead of *" t.line
          if seen.slash then mistake "/ may appear only once" t.line
          if seen.count == 0 then mistake "at least one argument must precede /" t.line
          advance
          if (<- peek).isOp "*" then mistake "expected comma between / and *" (<- peek).line
          let params := params.map fun p =>
            if p.kind == .normal then { p with kind := .positionalOnly } else p
          pure ({ seen with slash := true }, params, defaults, notes)
        else if t.isOp "*" then
          if seen.doubleStar then mistake "arguments cannot follow var-keyword argument" t.line
          if seen.star then mistake "* argument may appear only once" t.line
          advance
          let n <- peek
          if n.isPlainName then
            advance
            let a <- noteAfter n.text true
            if (<- peek).isOp "=" then
              mistake "var-positional argument cannot have default value" (<- peek).line
            pure ({ seen with star := true, count := seen.count + 1 },
              params ++ [⟨n.text, .varPositional, false⟩], defaults, notes ++ a)
          else
            let after <- tokenAt 1
            if n.isOp closer || (n.isOp "," && (after.isOp closer || after.isOp "**")) then
              mistake "named arguments must follow bare *" t.line
            pure ({ seen with star := true }, params, defaults, notes)
        else if t.isOp "**" then
          if seen.doubleStar then mistake "arguments cannot follow var-keyword argument" t.line
          advance
          let n <- peek
          if !n.isPlainName then noFit
          advance
          let a <- noteAfter n.text false
          if (<- peek).isOp "=" then
            mistake "var-keyword argument cannot have default value" (<- peek).line
          pure ({ seen with doubleStar := true, count := seen.count + 1 },
            params ++ [⟨n.text, .varKeyword, false⟩], defaults, notes ++ a)
        else if t.isPlainName then
          if seen.doubleStar then mistake "arguments cannot follow var-keyword argument" t.line
          advance
          let a <- noteAfter t.text false
          let kind := if seen.star then ParamKind.keywordOnly else .normal
          if (<- peek).isOp "=" then
            let eq <- next
            let after <- peek
            if after.isOp ")" || after.isOp "," then
              mistake "expected default value expression" eq.line
            let d <- expression fuel
            pure ({ seen with defaulted := true, count := seen.count + 1 },
              params ++ [⟨t.text, kind, true⟩], defaults ++ [d], notes ++ a)
          else
            if seen.defaulted && !seen.star then
              mistake "non-default argument follows default argument" t.line
            pure ({ seen with count := seen.count + 1 }, params ++ [⟨t.text, kind, false⟩],
              defaults, notes ++ a)
        else if t.isOp "(" && !seen.defaulted && !seen.slash && !seen.star && !seen.doubleStar then
          if <- fits (do advance; bracketedNames fuel annotated) then
            mistake (if annotated then "Function parameters cannot be parenthesized"
              else "Lambda expression parameters cannot be parenthesized") t.line
          noFit
        else noFit
      let t2 <- peek
      if t2.isOp "," then
        advance
        parameters fuel annotated closer seen params defaults notes
      else if t2.isOp closer then pure (params, defaults, notes)
      else noFit
termination_by structural fuel => fuel

/-- Names after an opening bracket, as parameters would stand (with annotations where they
may have them), up to the closing bracket, perhaps with a comma after the last. -/
def bracketedNames : Nat -> Bool -> Parse Unit
  | 0, _ => noFit
  | fuel + 1, annotated => do
    let t <- peek
    if !t.isPlainName then noFit
    advance
    if (<- andAt annotated 0 (·.isOp ":")) then
      advance
      discard <| expression fuel
    if (<- peek).isOp "," then
      advance
      if (<- peek).isOp ")" then advance else bracketedNames fuel annotated
    else expectOp ")"
termination_by structural fuel => fuel

/-- The arguments of a call up to `)`: positional ones (a starred one spreads), then keyword
ones (no name for a `**` spread). A generator without brackets may stand as the only argument
of a call (`call`), not of a class's bases. -/
def arguments : Nat -> Bool -> List Expr -> List (Option String × Expr) -> Bool -> Bool ->
    Parse (List Expr × List (Option String × Expr))
  | 0, _, _, _, _, _ => noFit
  | fuel + 1, call, args, kws, sawKeyword, sawSpread => do
    let t <- peek
    if t.isOp ")" then
      advance
      pure (args, kws)
    else
      let (args, kws, sawKeyword, sawSpread) <- do
        if t.isOp "*" then
          advance
          let e <- starredValue fuel
          let t2 <- peek
          if call && (t2.isKeyword "for" || t2.isKeyword "async") then
            if args.isEmpty && kws.isEmpty then comprehensionStart fuel (.starred e) t.line
            else if !args.isEmpty && (<- fits (comprehension fuel [])) then
              mistake "Generator expression must be parenthesized" t.line
          if sawSpread then
            mistake "iterable argument unpacking follows keyword argument unpacking" t.line
          pure (args ++ [.starred e], kws, sawKeyword, sawSpread)
        else if t.isOp "**" then
          advance
          let e <- expression fuel
          pure (args, kws ++ [(none, e)], sawKeyword, true)
        else if (<- andAt t.isPlainName 1 (·.isOp "=")) then
          advance
          advance
          let v <- expression fuel
          let t2 <- peek
          if t2.isKeyword "for" || t2.isKeyword "async" then
            mistake "invalid syntax. Maybe you meant '==' or ':=' instead of '='?" t.line
          pure (args, kws ++ [(some t.text, v)], true, sawSpread)
        else if (<- andAt (t.isKeyword "True" || t.isKeyword "False" || t.isKeyword "None") 1
            (·.isOp "=")) then
          mistake s!"cannot assign to {t.text}" t.line
        else
          let e <- if (<- andAt t.isPlainName 1 (·.isOp ":=")) then namedExpression fuel
            else expression fuel
          let t2 <- peek
          if t2.isOp "=" then
            mistake "expression cannot contain assignment, perhaps you meant \"==\"?" t.line
          let e <- if t2.isKeyword "for" || t2.isKeyword "async" then do
              let clauses <- comprehension fuel []
              let after <- peek
              if !args.isEmpty || !kws.isEmpty || after.isOp "," then
                mistake "Generator expression must be parenthesized" t.line
              if !call then noFit
              pure (Expr.comprehension .generator e none clauses t.line)
            else pure e
          if sawSpread then
            mistake "positional argument follows keyword argument unpacking" (<- peek).line
          if sawKeyword then
            mistake "positional argument follows keyword argument" (<- peek).line
          pure (args ++ [e], kws, sawKeyword, sawSpread)
      let t3 <- peek
      if t3.isOp "," then
        advance
        arguments fuel call args kws sawKeyword sawSpread
      else if t3.isOp ")" then
        advance
        pure (args, kws)
      else noFit
termination_by structural fuel => fuel

/-- The items of a subscript up to `]`: one index or slice, or a tuple of them. -/
def subscriptItems : Nat -> List Expr -> Parse Expr
  | 0, _ => noFit
  | fuel + 1, acc => do
    let item <- sliceItem fuel
    let t <- peek
    if t.isOp "," then
      advance
      if (<- peek).isOp "]" then
        advance
        pure (.tuple (acc ++ [item]))
      else subscriptItems fuel (acc ++ [item])
    else if t.isOp "]" then
      advance
      -- a starred item alone still makes a tuple
      pure (if acc.isEmpty && !(item matches .starred _) then item else .tuple (acc ++ [item]))
    else noFit
termination_by structural fuel => fuel

/-- One index or slice. -/
def sliceItem : Nat -> Parse Expr
  | 0 => noFit
  | fuel + 1 => do
    let t <- peek
    if t.isOp "*" then
      advance
      pure (.starred (<- starredValue fuel))
    else
      let lo <- if t.isOp ":" then pure none else some <$> namedExpression fuel
      if (<- peek).isOp ":" then
        advance
        let hi <- if (<- peek).startsExpression then some <$> expression fuel else pure none
        let step <- if (<- peek).isOp ":" then do
            advance
            if (<- peek).startsExpression then some <$> expression fuel else pure none
          else pure none
        pure (.slice lo hi step)
      else match lo with
        | some e => pure e
        | none => noFit
termination_by structural fuel => fuel

end

end GraphProbe.Code.Parse
