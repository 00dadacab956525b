import GraphProbe.Code.Token

/-!
# Statements and expressions of package code

The parsed form of package code: a module is a list of statements, a statement may hold
blocks of statements, and expressions are trees of operators over names and constants.

The tree keeps everything running the code needs: parameters and bodies of functions and
lambdas, the clauses of comprehensions, the parts of f-strings, and the patterns of `match`
statements. Statements and expressions that compiling can reject keep the line they stand
on.
-/

namespace GraphProbe.Code

/-- The classes of errors of code that cannot be compiled. -/
inductive CodeErrorKind where
  | general
  | indentation
  | tabs
  deriving BEq, Inhabited

/-- An error of code that cannot be compiled: its class, message and line. -/
structure CodeError where
  kind : CodeErrorKind
  message : String
  line : Nat
  deriving Inhabited

/-- Operators between two operands. -/
inductive BinaryOp where
  | add | sub | mul | matMul | div | floorDiv | mod | pow | shiftLeft | shiftRight
  | bitOr | bitXor | bitAnd
  deriving BEq, Inhabited

/-- Operators on one operand. -/
inductive UnaryOp where
  | plus | minus | invert | not
  deriving BEq, Inhabited

/-- Comparison operators. -/
inductive CompareOp where
  | eq | ne | lt | le | gt | ge | isIn | notIn | is | isNot
  deriving BEq, Inhabited

/-- The kinds of comprehensions and generator expressions. -/
inductive ComprehensionKind where
  | list | set | dict | generator
  deriving BEq, Inhabited

/-- How a parameter takes its argument. -/
inductive ParamKind where
  | positionalOnly
  | normal
  /-- `*args`: the positional arguments left over. -/
  | varPositional
  | keywordOnly
  /-- `**kwargs`: the keyword arguments left over. -/
  | varKeyword
  deriving BEq, Inhabited

/-- A parameter of a function or a lambda: its name, how it takes its argument, and whether
it has a default value. -/
structure Param where
  name : String
  kind : ParamKind
  hasDefault : Bool
  deriving Inhabited

/-- Expressions. -/
inductive Expr where
  | name (id : String)
  | noneLit
  | trueLit
  | falseLit
  | ellipsis
  | int (n : Nat)
  | float (x : Float)
  | imaginary (x : Float)
  | str (s : String)
  | bytes (data : List UInt8)
  /-- An f-string: its parts, texts (`str`) and replacement fields (`formatField`). -/
  | formatted (parts : List Expr)
  /-- A replacement field of an f-string: the value, its conversion (`s`, `r` or `a`), and
  its format specification, itself an f-string. -/
  | formatField (value : Expr) (conversion : Option Char) (spec : Option Expr)
  | tuple (items : List Expr)
  | list (items : List Expr)
  | set (items : List Expr)
  /-- A dict display: its keys (none for a `**` spread) and values. -/
  | dict (keys : List (Option Expr)) (values : List Expr)
  | starred (e : Expr)
  | attribute (obj : Expr) (attr : String)
  | subscript (obj : Expr) (index : Expr)
  | slice (lo hi step : Option Expr)
  /-- A call: the function, its positional arguments (a starred one spreads), its keyword
  arguments (no name for a `**` spread). -/
  | call (fn : Expr) (args : List Expr) (keywords : List (Option String × Expr))
  | unary (op : UnaryOp) (e : Expr)
  | binary (op : BinaryOp) (l r : Expr)
  | and (l r : Expr)
  | or (l r : Expr)
  | compare (first : Expr) (rest : List (CompareOp × Expr))
  | ifElse (test body orelse : Expr)
  /-- A lambda: its parameters, the defaults of those that have one, and its body. -/
  | lambda (params : List Param) (defaults : List Expr) (body : Expr)
  | named (target : String) (value : Expr) (line : Nat)
  /-- A comprehension: the element (the key, for a dict), the value of a dict, and its
  clauses: each a target, an iterable, the conditions, and whether it is asynchronous. -/
  | comprehension (kind : ComprehensionKind) (element : Expr) (value : Option Expr)
      (clauses : List (Expr × Expr × List Expr × Bool)) (line : Nat)
  | await (e : Expr) (line : Nat)
  | yield (e : Option Expr) (line : Nat)
  | yieldFrom (e : Expr) (line : Nat)
  deriving Inhabited

namespace Expr

/-- How errors name an expression of this form. -/
def describe : Expr -> String
  | .attribute .. => "attribute"
  | .subscript .. => "subscript"
  | .starred _ => "starred"
  | .name _ => "name"
  | .list _ => "list"
  | .tuple _ => "tuple"
  | .lambda .. => "lambda"
  | .call .. => "function call"
  | .and .. | .or .. | .binary .. | .unary .. => "expression"
  | .comprehension .generator .. => "generator expression"
  | .yield .. | .yieldFrom .. => "yield expression"
  | .await .. => "await expression"
  | .comprehension .list .. => "list comprehension"
  | .comprehension .set .. => "set comprehension"
  | .comprehension .dict .. => "dict comprehension"
  | .dict .. => "dict literal"
  | .set _ => "set display"
  | .formatted _ | .formatField .. => "f-string expression"
  | .noneLit => "None"
  | .trueLit => "True"
  | .falseLit => "False"
  | .ellipsis => "ellipsis"
  | .compare .. => "comparison"
  | .ifElse .. => "conditional expression"
  | .named .. => "named expression"
  | .slice .. => "expression"
  | .int _ | .float _ | .imaginary _ | .str _ | .bytes _ => "literal"

/-- The part of an assignment target that cannot be assigned, if any: names, attributes,
subscripts, and tuples, lists and starred targets made of them can be. -/
def badTarget? : Expr -> Option Expr
  | .name _ | .attribute .. | .subscript .. => none
  | .starred e => badTarget? e
  | .tuple items | .list items => firstBad items
  | e => some e
where
  /-- The first element that cannot be assigned. -/
  firstBad : List Expr -> Option Expr
    | [] => none
    | e :: rest => match badTarget? e with
      | some b => some b
      | none => firstBad rest

/-- What a `for` target reports as unassignable. A comparison stands for its left side when
its first operator is `in`, since the loop's own `in` may have been read into it, and reports
nothing otherwise: such a loop is plain invalid syntax. -/
def forTargetBad? : Expr -> Option Expr
  | .compare left ((.isIn, _) :: _) => forTargetBad? left
  | .compare .. | .name _ | .attribute .. | .subscript .. => none
  | .starred e => forTargetBad? e
  | .tuple items | .list items => firstBad items
  | e => some e
where
  /-- The first element that reports. -/
  firstBad : List Expr -> Option Expr
    | [] => none
    | e :: rest => match forTargetBad? e with
      | some b => some b
      | none => firstBad rest

end Expr

/-- Patterns of `match` statements. -/
inductive Pattern where
  /-- A literal or a dotted name: matches what equals its value. -/
  | value (e : Expr)
  /-- `None`, `True` or `False`: matches that object itself. -/
  | singleton (e : Expr)
  /-- A name: matches anything and binds it. -/
  | capture (name : String)
  /-- `_`: matches anything. -/
  | wildcard
  /-- A sequence of patterns, at most one of them starred. -/
  | sequence (items : List Pattern)
  /-- `*name` or `*_` inside a sequence pattern. -/
  | star (name : Option String)
  /-- A mapping pattern: keys, the patterns of their values, and a `**rest` name. -/
  | mapping (keys : List Expr) (values : List Pattern) (rest : Option String)
  /-- A class pattern: the class, positional patterns and keyword patterns. -/
  | cls (cls : Expr) (positional : List Pattern) (keywords : List (String × Pattern))
  /-- Alternatives. -/
  | alternatives (alts : List Pattern)
  /-- A pattern that also binds what it matched. -/
  | bind (p : Pattern) (name : String)
  deriving Inhabited

/-- Statements, each with the line it starts on. -/
inductive Stmt where
  | expr (e : Expr) (line : Nat)
  | assign (targets : List Expr) (value : Expr) (line : Nat)
  | augAssign (target : Expr) (op : BinaryOp) (value : Expr) (line : Nat)
  /-- An annotated assignment; `simple` when the target is a name without brackets. -/
  | annAssign (target : Expr) (note : Expr) (value : Option Expr) (simple : Bool) (line : Nat)
  | pass (line : Nat)
  | breakLoop (line : Nat)
  | continueLoop (line : Nat)
  | returnValue (value : Option Expr) (line : Nat)
  | raise (exc : Option Expr) (cause : Option Expr) (line : Nat)
  | assert (test : Expr) (msg : Option Expr) (line : Nat)
  | delete (targets : List Expr) (line : Nat)
  | global (names : List String) (line : Nat)
  | nonlocal (names : List String) (line : Nat)
  /-- `import a.b as c, d`: the dotted names with their aliases. -/
  | importNames (names : List (String × Option String)) (line : Nat)
  /-- `from .a import b as c`: the dots, the module, the names with their aliases (`*` for
  all). -/
  | importFrom (level : Nat) (module : String) (names : List (String × Option String))
      (line : Nat)
  | ifElse (test : Expr) (body orelse : List Stmt) (line : Nat)
  | whileLoop (test : Expr) (body orelse : List Stmt) (line : Nat)
  | forLoop (target iter : Expr) (body orelse : List Stmt) (isAsync : Bool) (line : Nat)
  /-- A `try` statement; its handlers are `handler` statements; `star` for `except*`. -/
  | tryExcept (body handlers orelse final : List Stmt) (star : Bool) (line : Nat)
  /-- An `except` clause: the exception type it catches (none for all), the name it binds. -/
  | handler (type : Option Expr) (name : Option String) (body : List Stmt) (line : Nat)
  | withItems (items : List (Expr × Option Expr)) (body : List Stmt) (isAsync : Bool)
      (line : Nat)
  /-- A function definition: its decorators, parameters, the defaults of those that have
  one, the annotations of its parameters and result (`return`) in the order they are
  evaluated, and its body. -/
  | functionDef (name : String) (decorators : List Expr) (params : List Param)
      (defaults : List Expr) (notes : List (String × Expr)) (body : List Stmt)
      (isAsync : Bool) (line : Nat)
  | classDef (name : String) (decorators : List Expr) (bases : List Expr)
      (keywords : List (Option String × Expr)) (body : List Stmt) (line : Nat)
  /-- A `match` statement: the subject, and its cases: a pattern, a guard, a body and the
  line of the pattern. -/
  | matchCases (subject : Expr) (cases : List (Pattern × Option Expr × List Stmt × Nat))
      (line : Nat)
  deriving Inhabited

/-- The line a statement starts on. -/
def Stmt.line : Stmt -> Nat
  | .expr _ l | .assign _ _ l | .augAssign _ _ _ l | .annAssign _ _ _ _ l | .pass l
  | .breakLoop l | .continueLoop l | .returnValue _ l | .raise _ _ l | .assert _ _ l
  | .delete _ l | .global _ l | .nonlocal _ l | .importNames _ l | .importFrom _ _ _ l
  | .ifElse _ _ _ l | .whileLoop _ _ _ l | .forLoop _ _ _ _ _ l | .tryExcept _ _ _ _ _ l
  | .handler _ _ _ l | .withItems _ _ _ l | .functionDef _ _ _ _ _ _ _ l | .classDef _ _ _ _ _ l
  | .matchCases _ _ l => l

end GraphProbe.Code
