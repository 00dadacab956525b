import GraphProbe.Code.Parse.Expr

/-!
# Reading statements

A module is a run of statements up to the end marker. A simple statement fills a logical
line (several may share one, separated by semicolons); a compound statement has a header
ending in a colon and a block: either simple statements on the same line, or an indented
run of statements on the following lines.

The mistakes recognised here are those of statements: a header without its colon, a header
without an indented block after it (reported with the header's line), a `try` without
handlers, targets of an assignment, an augmented assignment, an annotation or a deletion that
cannot be assigned, and a trailing comma in an import list without brackets.
-/

namespace GraphProbe.Code.Parse

/-- Whether an expression can be the target of an augmented assignment or an annotation: a
name, an attribute or a subscript. -/
def isSingleTarget : Expr -> Bool
  | .name _ | .attribute .. | .subscript .. => true
  | _ => false

/-- The part of a deletion target that cannot be deleted, if any. -/
def badDeletion? : Expr -> Option Expr
  | .name _ | .attribute .. | .subscript .. => none
  | .tuple items | .list items => firstBad items
  | e => some e
where
  /-- The first element that cannot be deleted. -/
  firstBad : List Expr -> Option Expr
    | [] => none
    | e :: rest => match badDeletion? e with
      | some b => some b
      | none => firstBad rest

/-- The augmented assignment operators. -/
def augmentedOps : List (String × BinaryOp) :=
  [("+=", .add), ("-=", .sub), ("*=", .mul), ("@=", .matMul), ("/=", .div), ("//=", .floorDiv),
   ("%=", .mod), ("**=", .pow), ("<<=", .shiftLeft), (">>=", .shiftRight), ("|=", .bitOr),
   ("^=", .bitXor), ("&=", .bitAnd)]

/-- A name that is no keyword. -/
def plainName : Parse String := do
  let t <- peek
  if t.isPlainName then
    advance
    pure t.text
  else noFit

/-- The mistake of an annotation on a target that cannot have one. -/
def annotationMistake (target : Expr) (line : Nat) : Parse Unit :=
  match target with
  | .name _ | .attribute .. | .subscript .. => pure ()
  | .tuple _ => mistake "only single target (not tuple) can be annotated" line
  | .list _ => mistake "only single target (not list) can be annotated" line
  | _ => mistake "illegal target for annotation" line

/-- Whether an annotated target starting at `start` opens with a single target in brackets
that more follows, as in `(x).y`: the bracketed target is taken as the whole target, so the
rest makes it no target. -/
def bracketedTargetPrefix (fuel start : Nat) : Parse Bool := do
  let saved <- position
  restore start
  let found <- probe do
    advance
    let e <- starExpressions fuel
    expectOp ")"
    pure e
  let after <- peek
  restore saved
  match found with
  | some e => pure (isSingleTarget e && !after.isOp ":")
  | none => pure false

/-- Names separated by commas. -/
def nameList : Nat -> List String -> Parse (List String)
  | 0, _ => noFit
  | fuel + 1, acc => do
    let n <- plainName
    if (<- peek).isOp "," then
      advance
      nameList fuel (acc ++ [n])
    else pure (acc ++ [n])

/-- Dotted names: a name, then names after points. -/
def dottedName : Nat -> String -> Parse String
  | 0, _ => noFit
  | fuel + 1, acc => do
    if (<- peek).isOp "." then
      advance
      let n <- plainName
      dottedName fuel (acc ++ "." ++ n)
    else pure acc

/-- An optional alias after `as`. -/
def asName : Parse (Option String) := do
  if (<- peek).isKeyword "as" then
    advance
    pure (some (<- plainName))
  else pure none

/-- Modules with their aliases, separated by commas. -/
def importedModules : Nat -> List (String × Option String) -> Parse (List (String × Option String))
  | 0, _ => noFit
  | fuel + 1, acc => do
    let first <- plainName
    let n <- dottedName fuel first
    let a <- asName
    if (<- peek).isOp "," then
      advance
      importedModules fuel (acc ++ [(n, a)])
    else pure (acc ++ [(n, a)])

/-- Names imported from a module, with their aliases; inside brackets a trailing comma is
allowed. -/
def importedNames : Nat -> Bool -> List (String × Option String) ->
    Parse (List (String × Option String))
  | 0, _, _ => noFit
  | fuel + 1, bracketed, acc => do
    let n <- plainName
    let a <- asName
    let acc := acc ++ [(n, a)]
    if (<- peek).isOp "," then
      advance
      let t <- peek
      if bracketed && t.isOp ")" then pure acc
      else if !bracketed && t.kind == .newline then
        mistake "trailing comma not allowed without surrounding parentheses" t.line
      else importedNames fuel bracketed acc
    else pure acc

/-- The leading points of a relative import: how many levels up. -/
def relativeLevel : Nat -> Nat -> Parse Nat
  | 0, n => pure n
  | fuel + 1, n => do
    let t <- peek
    if t.isOp "." then
      advance
      relativeLevel fuel (n + 1)
    else if t.isOp "..." then
      advance
      relativeLevel fuel (n + 3)
    else pure n

/-- The annotations of parameters in the order they are evaluated: those of plain
parameters, then positional-only ones, the `*` parameter, keyword-only ones, and the `**`
parameter. -/
def noteOrder (params : List Param) (notes : List (String × Expr)) : List (String × Expr) :=
  let ofKind (k : ParamKind) := notes.filter fun (n, _) =>
    params.any fun p => p.name == n && p.kind == k
  ofKind .normal ++ ofKind .positionalOnly ++ ofKind .varPositional ++ ofKind .keywordOnly ++
    ofKind .varKeyword

/-- Whether a token can start a pattern. -/
def startsPattern (t : Token) : Bool :=
  match t.kind with
  | .name => t.isPlainName || t.text == "None" || t.text == "True" || t.text == "False"
  | .number | .string => true
  | .op => t.text == "-" || t.text == "(" || t.text == "[" || t.text == "\x7b" || t.text == "*"
  | _ => false

/-- The colon after a header whose mistake, at the end of the line, is a missing colon. -/
def headerColon : Parse Unit := do
  let t <- peek
  if t.isOp ":" then advance
  else if t.kind == .newline then mistake "expected ':'" t.line
  else noFit

mutual

/-- Statements until a dedent or the end. -/
def statements : Nat -> List Stmt -> Parse (List Stmt)
  | 0, _ => noFit
  | fuel + 1, acc => do
    let t <- peek
    if t.kind == .dedent || t.kind == .endMarker || t.kind == .indent then pure acc
    else statements fuel (acc ++ (<- statement fuel))
termination_by structural fuel => fuel

/-- One statement: compound, or a line of simple ones. -/
def statement : Nat -> Parse (List Stmt)
  | 0 => noFit
  | fuel + 1 => do
    let t <- peek
    if t.isOp "@" then pure [<- decorated fuel []]
    else if t.kind != .name then simpleStatements fuel
    else match t.text with
      | "def" => pure [<- functionDef fuel [] false]
      | "class" => pure [<- classDef fuel []]
      | "if" => pure [<- ifStatement fuel "if"]
      | "while" => pure [<- whileStatement fuel]
      | "for" => pure [<- forStatement fuel false]
      | "try" => pure [<- tryStatement fuel]
      | "with" => pure [<- withStatement fuel false]
      | "match" => do
        if (<- fits (matchHeader fuel)) then pure [<- matchStatement fuel]
        else
          matchMistake fuel
          simpleStatements fuel
      | "async" => do
        let t2 <- tokenAt 1
        if t2.isKeyword "def" then
          advance
          pure [<- functionDef fuel [] true]
        else if t2.isKeyword "for" then
          advance
          pure [<- forStatement fuel true]
        else if t2.isKeyword "with" then
          advance
          pure [<- withStatement fuel true]
        else noFit
      | _ => simpleStatements fuel
termination_by structural fuel => fuel

/-- The block after a header's colon. -/
def block : Nat -> String -> Nat -> Parse (List Stmt)
  | 0, _, _ => noFit
  | fuel + 1, header, headerLine => do
    let t <- peek
    if t.kind == .newline then
      advance
      let t2 <- peek
      if t2.kind == .indent then
        advance
        let body <- statements fuel []
        if (<- peek).kind == .dedent then
          advance
          pure body
        else noFit
      else indentMistake s!"expected an indented block after {header} on line {headerLine}" t2.line
    else simpleStatements fuel
termination_by structural fuel => fuel

/-- Simple statements on one line, separated by semicolons. -/
def simpleStatements : Nat -> Parse (List Stmt)
  | 0 => noFit
  | fuel + 1 => do
    let s <- simpleStatement fuel
    let t <- peek
    if t.isOp ";" then
      advance
      if (<- peek).kind == .newline then
        advance
        pure [s]
      else pure (s :: (<- simpleStatements fuel))
    else if t.kind == .newline then
      advance
      pure [s]
    else noFit
termination_by structural fuel => fuel

/-- One simple statement. -/
def simpleStatement : Nat -> Parse Stmt
  | 0 => noFit
  | fuel + 1 => do
    let t <- peek
    if t.kind != .name then expressionStatement fuel
    else match t.text with
      | "pass" => do
        advance
        pure (.pass t.line)
      | "break" => do
        advance
        pure (.breakLoop t.line)
      | "continue" => do
        advance
        pure (.continueLoop t.line)
      | "return" => do
        advance
        if (<- peek).startsExpression then pure (.returnValue (some (<- starExpressions fuel)) t.line)
        else pure (.returnValue none t.line)
      | "raise" => do
        advance
        if (<- peek).startsExpression then
          let e <- expression fuel
          if (<- peek).isKeyword "from" then
            advance
            pure (.raise (some e) (some (<- expression fuel)) t.line)
          else pure (.raise (some e) none t.line)
        else pure (.raise none none t.line)
      | "global" => do
        advance
        pure (.global (<- nameList fuel []) t.line)
      | "nonlocal" => do
        advance
        pure (.nonlocal (<- nameList fuel []) t.line)
      | "del" => do
        advance
        let e <- starExpressions fuel
        match badDeletion? e with
        | some b => mistake s!"cannot delete {b.describe}" t.line
        | none =>
          let t2 <- peek
          if t2.isOp ";" || t2.kind == .newline then
            pure (.delete (match e with
              | .tuple items => items
              | _ => [e]) t.line)
          else noFit
      | "assert" => do
        advance
        let test <- expression fuel
        if (<- peek).isOp "," then
          advance
          pure (.assert test (some (<- expression fuel)) t.line)
        else pure (.assert test none t.line)
      | "import" => do
        advance
        pure (.importNames (<- importedModules fuel []) t.line)
      | "from" => do
        advance
        let level <- relativeLevel fuel 0
        let m <- if (<- peek).isPlainName then do
            let first <- plainName
            dottedName fuel first
          else if level == 0 then noFit
          else pure ""
        expectKeyword "import"
        let t2 <- peek
        if t2.isOp "*" then
          advance
          pure (.importFrom level m [("*", none)] t.line)
        else if t2.isOp "(" then
          advance
          let names <- importedNames fuel true []
          expectOp ")"
          pure (.importFrom level m names t.line)
        else pure (.importFrom level m (<- importedNames fuel false []) t.line)
      | _ => expressionStatement fuel

/-- An expression statement, an assignment, an augmented assignment, or an annotation. -/
def expressionStatement : Nat -> Parse Stmt
  | 0 => noFit
  | fuel + 1 => do
    let t <- peek
    if (<- andAt t.isPlainName 1 (·.isOp ":")) then
      advance
      advance
      let note <- expression fuel
      pure (.annAssign (.name t.text) note (<- annotatedValue fuel) true t.line)
    else
      let start <- position
      let bare := t.isKeyword "yield"
      let first <- if bare then yieldExpr fuel else starExpressions fuel
      let t2 <- peek
      if t2.isOp ":" then
        annotationMistake first t.line
        if t.isOp "(" then
          if <- bracketedTargetPrefix fuel start then mistake "illegal target for annotation" t.line
        advance
        let note <- expression fuel
        pure (.annAssign first note (<- annotatedValue fuel) false t.line)
      else if t2.isOp "=" then assignChain fuel start [(first, bare)]
      else match augmentedOps.lookup t2.text with
        | some op =>
          if t2.kind != .op then pure (.expr first t.line) else
          if !isSingleTarget first then
            advance
            if (<- fits (starExpressions fuel)) then
              mistake s!"'{first.describe}' is an illegal expression for augmented assignment"
                t.line
            else noFit
          else
            advance
            let v <- if (<- peek).isKeyword "yield" then yieldExpr fuel else starExpressions fuel
            pure (.augAssign first op v t.line)
        | none => pure (.expr first t.line)

/-- The value after an annotation, if there is one. -/
def annotatedValue : Nat -> Parse (Option Expr)
  | 0 => noFit
  | fuel + 1 => do
    if (<- peek).isOp "=" then
      advance
      if (<- peek).isKeyword "yield" then pure (some (<- yieldExpr fuel))
      else pure (some (<- starExpressions fuel))
    else pure none

/-- An assignment from its `=` on: the targets read so far (the first started at `start`),
each with whether it is a `yield` without brackets; the last of them must be assignable. -/
def assignChain : Nat -> Nat -> List (Expr × Bool) -> Parse Stmt
  | 0, _, _ => noFit
  | fuel + 1, start, targets => do
    let (last, bare) := targets.getLast?.getD (.noneLit, false)
    let line := (<- tokenBefore start).line
    if bare then
      mistake "assignment to yield expression not possible" (match last with
        | .yield _ l | .yieldFrom _ l => l
        | _ => line)
    match last.badTarget? with
    | some bad =>
      if targets.length == 1 then firstTargetMistake fuel start last
      mistake s!"cannot assign to {bad.describe}" line
    | none =>
      advance
      let bare := (<- peek).isKeyword "yield"
      let v <- if bare then yieldExpr fuel else starExpressions fuel
      if (<- peek).isOp "=" then assignChain fuel start (targets ++ [(v, bare)])
      else pure (.assign (targets.map Prod.fst) v line)
termination_by structural fuel => fuel

/-- The mistake of a first assignment target that cannot be assigned, when it reads as a
comparison meant with `==`: the element of the target just before the `=` is checked as a
named expression would be. -/
def firstTargetMistake : Nat -> Nat -> Expr -> Parse Unit
  | 0, _, _ => pure ()
  | fuel + 1, start, target => do
    let saved <- position
    let elementStart <- match target with
      | .tuple (_ :: _) => do
        let s <- lastElementStart fuel start
        pure s
      | _ => pure (some start)
    match elementStart with
    | some s =>
      restore s
      let e <- probe (expression fuel)
      match e with
      | some e =>
        if (<- position) == saved then misplacedAssign fuel s e
        restore saved
      | none => restore saved
    | none => restore saved

/-- Where the last element of an unbracketed tuple starts: after the last comma at depth
zero before the current position. -/
def lastElementStart : Nat -> Nat -> Parse (Option Nat)
  | _, start => do
    let stop <- position
    let ts <- read
    let commas := (List.range (stop - start)).filterMap fun i =>
      match ts[start + i]? with
      | some t => if t.isOp "," && t.depth == 0 then some (start + i + 1) else none
      | none => none
    pure commas.getLast?

/-- `if` or `elif`: a condition, a block, and what follows. -/
def ifStatement : Nat -> String -> Parse Stmt
  | 0, _ => noFit
  | fuel + 1, keyword => do
    let t <- next
    let after <- peek
    let headerLine := if keyword == "if" then after.line else t.line
    let test <- namedExpression fuel
    headerColon
    let body <- block fuel s!"'{keyword}' statement" headerLine
    let t2 <- peek
    if t2.isKeyword "elif" then
      let rest <- ifStatement fuel "elif"
      pure (.ifElse test body [rest] t.line)
    else if t2.isKeyword "else" then pure (.ifElse test body (<- elseBlock fuel) t.line)
    else pure (.ifElse test body [] t.line)
termination_by structural fuel => fuel

/-- An `else` block. -/
def elseBlock : Nat -> Parse (List Stmt)
  | 0 => noFit
  | fuel + 1 => do
    let t <- next
    forceOp ":"
    block fuel "'else' statement" t.line
termination_by structural fuel => fuel

/-- A `while` loop. -/
def whileStatement : Nat -> Parse Stmt
  | 0 => noFit
  | fuel + 1 => do
    let t <- next
    let test <- namedExpression fuel
    headerColon
    let body <- block fuel "'while' statement" t.line
    let orelse <- if (<- peek).isKeyword "else" then elseBlock fuel else pure []
    pure (.whileLoop test body orelse t.line)
termination_by structural fuel => fuel

/-- A `for` loop, asynchronous or not. -/
def forStatement : Nat -> Bool -> Parse Stmt
  | 0, _ => noFit
  | fuel + 1, isAsync => do
    let t <- next
    let target <- forTargets fuel
    expectKeyword "in"
    let iter <- starExpressions fuel
    headerColon
    let body <- block fuel "'for' statement" t.line
    let orelse <- if (<- peek).isKeyword "else" then elseBlock fuel else pure []
    pure (.forLoop target iter body orelse isAsync t.line)
termination_by structural fuel => fuel

/-- A `try` statement with its handlers, `else` and `finally` blocks. -/
def tryStatement : Nat -> Parse Stmt
  | 0 => noFit
  | fuel + 1 => do
    let t <- next
    forceOp ":"
    let body <- block fuel "'try' statement" t.line
    let t2 <- peek
    if !(t2.isKeyword "except" || t2.isKeyword "finally") then
      mistake "expected 'except' or 'finally' block" t2.line
    let star <- andAt (t2.isKeyword "except") 1 (·.isOp "*")
    let handlers <- handlerClauses fuel star []
    let orelse <- if (<- peek).isKeyword "else" then elseBlock fuel else pure []
    let final <- if (<- peek).isKeyword "finally" then do
        let f <- next
        forceOp ":"
        block fuel "'finally' statement" f.line
      else pure []
    pure (.tryExcept body handlers orelse final star t.line)
termination_by structural fuel => fuel

/-- `except` clauses, all of them `except*` clauses when `star`. -/
def handlerClauses : Nat -> Bool -> List Stmt -> Parse (List Stmt)
  | 0, _, _ => noFit
  | fuel + 1, star, acc => do
    let t <- peek
    if !t.isKeyword "except" then pure acc
    else
      advance
      let starred := (<- peek).isOp "*"
      if starred then advance
      if starred != star then
        let t2 <- peek
        if starred && (t2.isOp ":" || t2.kind == .newline) then
          mistake "expected one or more exception types" t2.line
        if (<- fits (handlerHead fuel)) then
          mistake "cannot have both 'except' and 'except*' on the same 'try'" t.line
        else noFit
      let t2 <- peek
      if star && (t2.isOp ":" || t2.kind == .newline) then
        mistake "expected one or more exception types" t2.line
      let (type, name) <- if t2.isOp ":" then pure (none, none)
        else if t2.kind == .newline then mistake "expected ':'" t2.line
        else do
          let e <- expression fuel
          if (<- peek).isOp "," then
            mistake "multiple exception types must be parenthesized" t2.line
          let n <- asName
          pure (some e, n)
      headerColon
      let body <- block fuel (if star then "'except*' statement" else "'except' statement") t.line
      handlerClauses fuel star (acc ++ [.handler type name body t.line])
termination_by structural fuel => fuel

/-- What follows `except` up to its colon: a type, perhaps with a name. -/
def handlerHead : Nat -> Parse Unit
  | 0 => noFit
  | fuel + 1 => do
    if !(<- peek).isOp ":" then
      let _ <- expression fuel
      let _ <- asName
    expectOp ":"

/-- A `with` statement, asynchronous or not. -/
def withStatement : Nat -> Bool -> Parse Stmt
  | 0, _ => noFit
  | fuel + 1, isAsync => do
    let t <- next
    let items <- if (<- peek).isOp "(" then do
        match <- probe (bracketedWithItems fuel) with
        | some items => pure items
        | none =>
          match <- probe (bracketedWithHeader fuel) with
          | some nl => mistake "expected ':'" nl.line
          | none => withItems fuel []
      else withItems fuel []
    let t2 <- peek
    if t2.kind == .newline then mistake "expected ':'" t2.line
    expectOp ":"
    let body <- block fuel "'with' statement" t.line
    pure (.withItems items body isAsync t.line)
termination_by structural fuel => fuel

/-- `with` items in brackets, followed by the colon. -/
def bracketedWithItems : Nat -> Parse (List (Expr × Option Expr))
  | 0 => noFit
  | fuel + 1 => do
    advance
    let items <- withItems fuel []
    if (<- peek).isOp "," then advance
    expectOp ")"
    if !(<- peek).isOp ":" then noFit
    pure items

/-- `with` items in brackets followed by the end of the line: the line end. -/
def bracketedWithHeader : Nat -> Parse Token
  | 0 => noFit
  | fuel + 1 => do
    advance
    let _ <- withItems fuel []
    if (<- peek).isOp "," then advance
    expectOp ")"
    let t <- peek
    if t.kind != .newline then noFit
    pure t

/-- `with` items: an expression, perhaps bound with `as`, separated by commas. -/
def withItems : Nat -> List (Expr × Option Expr) -> Parse (List (Expr × Option Expr))
  | 0, _ => noFit
  | fuel + 1, acc => do
    let e <- expression fuel
    let target <- if (<- peek).isKeyword "as" then do
        advance
        let line := (<- peek).line
        let tgt <- if (<- peek).isOp "*" then do
            advance
            pure (Expr.starred (<- operand fuel 0))
          else operand fuel 0
        match tgt.badTarget? with
        | some b => mistake s!"cannot assign to {b.describe}" line
        | none => pure (some tgt)
      else pure none
    let acc := acc ++ [(e, target)]
    if (<- andAt ((<- peek).isOp ",") 1 Token.startsExpression) then
      advance
      withItems fuel acc
    else pure acc
termination_by structural fuel => fuel

/-- A function definition, after its decorators. -/
def functionDef : Nat -> List Expr -> Bool -> Parse Stmt
  | 0, _, _ => noFit
  | fuel + 1, decorators, isAsync => do
    let t <- next
    let n <- plainName
    forceOp "("
    let (params, defaults, notes) <- parameters fuel true ")" {} [] [] []
    expectOp ")"
    -- a return annotation that does not read leaves the arrow for the colon to refuse
    let result <- if (<- peek).isOp "->" then do
        let saved <- position
        advance
        match <- tryCatch (some <$> expression fuel) (fun | .noFit => pure none | e => throw e) with
        | some e => pure [("return", e)]
        | none =>
          restore saved
          pure []
      else pure []
    forceOp ":"
    let body <- block fuel "function definition" t.line
    pure (.functionDef n decorators params defaults (noteOrder params notes ++ result) body
      isAsync t.line)
termination_by structural fuel => fuel

/-- A class definition, after its decorators. -/
def classDef : Nat -> List Expr -> Parse Stmt
  | 0, _ => noFit
  | fuel + 1, decorators => do
    let t <- next
    let n <- plainName
    let (bases, kws) <- if (<- peek).isOp "(" then do
        advance
        arguments fuel false [] [] false false
      else pure ([], [])
    headerColon
    let body <- block fuel "class definition" t.line
    pure (.classDef n decorators bases kws body t.line)
termination_by structural fuel => fuel

/-- Decorators, then the definition they decorate. -/
def decorated : Nat -> List Expr -> Parse Stmt
  | 0, _ => noFit
  | fuel + 1, decorators => do
    let t <- peek
    if t.isOp "@" then
      advance
      let d <- namedExpression fuel
      if (<- peek).kind != .newline then noFit
      advance
      decorated fuel (decorators ++ [d])
    else if t.isKeyword "def" then functionDef fuel decorators false
    else if t.isKeyword "class" then classDef fuel decorators
    else if (<- andAt (t.isKeyword "async") 1 (·.isKeyword "def")) then
      advance
      functionDef fuel decorators true
    else noFit
termination_by structural fuel => fuel

/-- A `match` statement: once `match`, a subject, a colon and a line end are there, the
statement must go on with an indented run of `case` blocks. -/
def matchStatement : Nat -> Parse Stmt
  | 0 => noFit
  | fuel + 1 => do
    let t <- next
    let subject <- subjectExpr fuel
    expectOp ":"
    if (<- peek).kind != .newline then noFit
    advance
    let ind <- peek
    if ind.kind != .indent then
      indentMistake s!"expected an indented block after 'match' statement on line {t.line}" ind.line
    advance
    let cases <- caseBlocks fuel []
    if cases.isEmpty then noFit
    if (<- peek).kind != .dedent then noFit
    advance
    pure (.matchCases subject cases t.line)
termination_by structural fuel => fuel

/-- The subject of a `match` statement: a named expression, or starred expressions with a
comma, which make a tuple. -/
def subjectExpr : Nat -> Parse Expr
  | 0 => noFit
  | fuel + 1 => do
    let first <- starNamedExpression fuel
    if (<- peek).isOp "," then
      advance
      let rest <- subjectItems fuel []
      pure (.tuple (first :: rest))
    else match first with
      | .starred _ => noFit
      | e => pure e

/-- Starred expressions after the comma of a subject. -/
def subjectItems : Nat -> List Expr -> Parse (List Expr)
  | 0, _ => noFit
  | fuel + 1, acc => do
    if (<- peek).startsExpression then
      let e <- starNamedExpression fuel
      if (<- peek).isOp "," then
        advance
        subjectItems fuel (acc ++ [e])
      else pure (acc ++ [e])
    else pure acc
termination_by structural fuel => fuel

/-- The header of a `match` statement: `match`, a subject, a colon and a line end. -/
def matchHeader : Nat -> Parse Unit
  | 0 => noFit
  | fuel + 1 => do
    advance
    let _ <- subjectExpr fuel
    expectOp ":"
    if (<- peek).kind != .newline then noFit

/-- The mistake of a statement that starts like a `match` statement, `match` and a subject,
without the colon. It stands only if the module fails to parse. -/
def matchMistake : Nat -> Parse Unit
  | 0 => pure ()
  | fuel + 1 => do
    let saved <- position
    let after <- probe (do
      advance
      let _ <- subjectExpr fuel
      pure (<- peek))
    restore saved
    match after with
    | some t => if t.kind == .newline then defer "expected ':'"
    | none => pure ()

/-- `case` blocks: each a pattern, perhaps a guard, and a block. -/
def caseBlocks : Nat -> List (Pattern × Option Expr × List Stmt × Nat) ->
    Parse (List (Pattern × Option Expr × List Stmt × Nat))
  | 0, _ => noFit
  | fuel + 1, acc => do
    let t <- peek
    if !(t.kind == .name && t.text == "case") then return acc
    advance
    let p <- topPattern fuel
    let guard <- if (<- peek).isKeyword "if" then do
        advance
        pure (some (<- namedExpression fuel))
      else pure none
    let c <- peek
    if !c.isOp ":" then mistakeAtFill "expected ':'"
    advance
    let nl <- peek
    if nl.kind == .newline then
      let ind <- tokenAt 1
      if ind.kind != .indent then
        indentMistake s!"expected an indented block after 'case' statement on line {t.line}" ind.line
    let body <- block fuel "'case' statement" t.line
    caseBlocks fuel (acc ++ [(p, guard, body, t.line)])
termination_by structural fuel => fuel

/-- The pattern of a `case`: a pattern, or patterns separated by commas, which match a
sequence. -/
def topPattern : Nat -> Parse Pattern
  | 0 => noFit
  | fuel + 1 => do
    let first <- starOrPattern fuel
    if (<- peek).isOp "," then
      advance
      pure (.sequence (first :: (<- patternItems fuel [])))
    else match first with
      | .star _ => noFit
      | p => pure p

/-- Patterns after a comma, up to what cannot start one. -/
def patternItems : Nat -> List Pattern -> Parse (List Pattern)
  | 0, _ => noFit
  | fuel + 1, acc => do
    if startsPattern (<- peek) then
      let p <- starOrPattern fuel
      if (<- peek).isOp "," then
        advance
        patternItems fuel (acc ++ [p])
      else pure (acc ++ [p])
    else pure acc
termination_by structural fuel => fuel

/-- A starred capture inside a sequence pattern, or a pattern. -/
def starOrPattern : Nat -> Parse Pattern
  | 0 => noFit
  | fuel + 1 => do
    if (<- peek).isOp "*" then
      advance
      let t <- next
      if t.kind == .name && t.text == "_" then pure (.star none)
      else if t.isPlainName then pure (.star (some t.text))
      else noFit
    else pattern fuel
termination_by structural fuel => fuel

/-- A pattern: alternatives, perhaps bound to a name with `as`. -/
def pattern : Nat -> Parse Pattern
  | 0 => noFit
  | fuel + 1 => do
    let p <- orPattern fuel []
    if (<- peek).isKeyword "as" then
      advance
      let t <- peek
      if t.kind == .name && t.text == "_" then mistake "cannot use '_' as a target" t.line
      let after <- tokenAt 1
      if t.isPlainName && !(after.isOp "." || after.isOp "(" || after.isOp "=") then
        advance
        pure (.bind p t.text)
      else if (<- if t.isPlainName then pure false else fits (expression fuel)) then
        mistake "invalid pattern target" t.line
      else noFit
    else pure p
termination_by structural fuel => fuel

/-- Patterns separated by `|`. -/
def orPattern : Nat -> List Pattern -> Parse Pattern
  | 0, _ => noFit
  | fuel + 1, acc => do
    let p <- closedPattern fuel
    let acc := acc ++ [p]
    if (<- peek).isOp "|" then
      advance
      orPattern fuel acc
    else match acc with
      | [one] => pure one
      | _ => pure (.alternatives acc)
termination_by structural fuel => fuel

/-- A pattern that needs no brackets around it: a literal, a capture, the wildcard, a
dotted value, a group, a sequence, a mapping or a class pattern. -/
def closedPattern : Nat -> Parse Pattern
  | 0 => noFit
  | fuel + 1 => do
    let t <- peek
    match t.kind with
    | .number => pure (.value (<- numberPattern fuel))
    | .string =>
      let e <- joinedStrings fuel (<- stringRun fuel [])
      pure (.value e)
    | .name =>
      if t.text == "None" then
        advance
        pure (.singleton .noneLit)
      else if t.text == "True" then
        advance
        pure (.singleton .trueLit)
      else if t.text == "False" then
        advance
        pure (.singleton .falseLit)
      else if !t.isPlainName then noFit
      else
        let after <- tokenAt 1
        if t.text == "_" && !after.isOp "." then
          advance
          pure .wildcard
        else if !(after.isOp "." || after.isOp "(" || after.isOp "=") then
          advance
          pure (.capture t.text)
        else
          advance
          let target <- dottedValue fuel (.name t.text)
          if (<- peek).isOp "(" then
            advance
            classArguments fuel target [] []
          else match target with
            | .name _ => noFit
            | e => pure (.value e)
    | .op =>
      if t.text == "-" then pure (.value (<- numberPattern fuel))
      else if t.text == "(" then
        advance
        if (<- peek).isOp ")" then
          advance
          pure (.sequence [])
        else
          let first <- starOrPattern fuel
          if (<- peek).isOp "," then
            advance
            let rest <- patternItems fuel []
            expectOp ")"
            pure (.sequence (first :: rest))
          else
            expectOp ")"
            match first with
            | .star _ => noFit
            | p => pure p
      else if t.text == "[" then
        advance
        let items <- patternItems fuel []
        expectOp "]"
        pure (.sequence items)
      else if t.text == "\x7b" then
        advance
        mappingItems fuel [] []
      else noFit
    | _ => noFit
termination_by structural fuel => fuel

/-- A number pattern: a signed real number, or a signed real number plus or minus an
imaginary one. -/
def numberPattern : Nat -> Parse Expr
  | 0 => noFit
  | _ + 1 => do
    let negative := (<- peek).isOp "-"
    if negative then advance
    let n <- next
    if n.kind != .number then noFit
    let value := numberLiteral n.text
    let signed := if negative then Expr.unary .minus value else value
    let op <- peek
    if op.isOp "+" || op.isOp "-" then
      advance
      let m <- next
      if m.kind != .number then noFit
      match value with
      | .imaginary _ => fatal "real number required in complex literal" n.line
      | _ => pure ()
      let imag := numberLiteral m.text
      match imag with
      | .imaginary _ => pure ()
      | _ => fatal "imaginary number required in complex literal" m.line
      pure (.binary (if op.isOp "+" then .add else .sub) signed imag)
    else pure signed

/-- A dotted name after its first part. -/
def dottedValue : Nat -> Expr -> Parse Expr
  | 0, _ => noFit
  | fuel + 1, e => do
    if (<- peek).isOp "." then
      advance
      let n <- next
      if !n.isPlainName then noFit
      dottedValue fuel (.attribute e n.text)
    else pure e
termination_by structural fuel => fuel

/-- The arguments of a class pattern up to `)`: positional patterns, then keyword
patterns. -/
def classArguments : Nat -> Expr -> List Pattern -> List (String × Pattern) -> Parse Pattern
  | 0, _, _, _ => noFit
  | fuel + 1, cls, positional, keywords => do
    let t <- peek
    if t.isOp ")" then
      advance
      pure (.cls cls positional keywords)
    else
      let (positional, keywords) <- do
        if (<- andAt t.isPlainName 1 (·.isOp "=")) then
          advance
          advance
          pure (positional, keywords ++ [(t.text, <- pattern fuel)])
        else
          let p <- pattern fuel
          if !keywords.isEmpty then
            mistake "positional patterns follow keyword patterns" t.line
          pure (positional ++ [p], keywords)
      let t2 <- peek
      if t2.isOp "," then
        advance
        classArguments fuel cls positional keywords
      else if t2.isOp ")" then
        advance
        pure (.cls cls positional keywords)
      else noFit
termination_by structural fuel => fuel

/-- The items of a mapping pattern up to the closing brace: keys with their patterns, and a
`**` capture last. -/
def mappingItems : Nat -> List Expr -> List Pattern -> Parse Pattern
  | 0, _, _ => noFit
  | fuel + 1, keys, values => do
    let t <- peek
    if t.isOp "\x7d" then
      advance
      pure (.mapping keys values none)
    else if t.isOp "**" then
      advance
      let n <- next
      if !n.isPlainName || n.text == "_" then noFit
      if (<- peek).isOp "," then advance
      expectOp "\x7d"
      pure (.mapping keys values (some n.text))
    else
      let key <- match t.kind with
        | .number => numberPattern fuel
        | .string => do joinedStrings fuel (<- stringRun fuel [])
        | .name =>
          if t.text == "None" then do advance; pure .noneLit
          else if t.text == "True" then do advance; pure .trueLit
          else if t.text == "False" then do advance; pure .falseLit
          else if (<- andAt t.isPlainName 1 (·.isOp ".")) then do
            advance
            dottedValue fuel (.name t.text)
          else noFit
        | .op => if t.text == "-" then numberPattern fuel else noFit
        | _ => noFit
      expectOp ":"
      let p <- pattern fuel
      let t2 <- peek
      if t2.isOp "," then
        advance
        mappingItems fuel (keys ++ [key]) (values ++ [p])
      else if t2.isOp "\x7d" then
        advance
        pure (.mapping (keys ++ [key]) (values ++ [p]) none)
      else noFit
termination_by structural fuel => fuel

end

/-- A whole module: statements up to the end marker. -/
def parseModule (fuel : Nat) : Parse (List Stmt) := do
  let body <- statements fuel []
  if (<- peek).kind == .endMarker then pure body else noFit

end GraphProbe.Code.Parse
