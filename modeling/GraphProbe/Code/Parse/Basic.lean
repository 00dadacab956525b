import GraphProbe.Code.Literal

/-!
# Reading tokens into statements: the basics

A parser reads an array of tokens from a position. It fails in one of three ways:

* no rule fits a token: the generic error, at the furthest token any rule looked at;
* a rule for a known mistake fits: an error with its own message and line;
* it needs a token past the end of the stream: the reason the stream stopped decides.

Looking ahead to recognise a mistake (the *probes* of this module) may read further than the
rules themselves; such reads do not move the furthest token, so the generic error stands
where the rules gave up.

How a failure and the stream's own stop combine is `CodeError.ofParse`: an error the reader
reported stands over any parser error but an unexpected indentation, and a source that ends
inside brackets opened on a line before the furthest token read is reported as a bracket
never closed. Errors of literals are found while the rules run and end the parse at once,
probes or not.
-/

namespace GraphProbe.Code

/-- Why a parser stops. -/
inductive ParseStop where
  /-- No rule fits. -/
  | noFit
  /-- A rule for a known mistake fits. -/
  | mistake (e : CodeError)
  /-- An error no probe hides: a literal that cannot be read. -/
  | fatal (e : CodeError)
  /-- A token past the end of the stream is needed. -/
  | pastEnd
  deriving Inhabited

/-- Where a parser stands: the next token, the furthest token the rules looked at, the
furthest token read at all (probes included), whether a probe is under way, and a mistake
that stands only if the source fails to parse after all. -/
structure ParseState where
  pos : Nat := 0
  reach : Nat := 0
  fill : Nat := 0
  probing : Bool := false
  deferred : Option String := none

/-- Parsers over an array of tokens. -/
abbrev Parse := ReaderT (Array Token) (EStateM ParseStop ParseState)

namespace Parse

/-- The token `k` places after the next one. -/
def tokenAt (k : Nat) : Parse Token := do
  let ts <- read
  let s <- get
  let i := s.pos + k
  let s := if i > s.fill then { s with fill := i } else s
  set (if !s.probing && i > s.reach then { s with reach := i } else s)
  match ts[i]? with
  | some t => pure t
  | none => throw .pastEnd

/-- The next token. -/
def peek : Parse Token := tokenAt 0

/-- Whether `cond` holds and the token `k` places after the next one passes `test`. The
token is read only when `cond` holds, as a rule reads no token it does not look at. -/
def andAt (cond : Bool) (k : Nat) (test : Token -> Bool) : Parse Bool := do
  if cond then return test (<- tokenAt k) else return false

/-- Move past the next token. -/
def advance : Parse Unit := modify fun s => { s with pos := s.pos + 1 }

/-- Take the next token. -/
def next : Parse Token := do
  let t <- peek
  advance
  pure t

/-- The position of the next token. -/
def position : Parse Nat := do pure (<- get).pos

/-- Go back to a position. -/
def restore (pos : Nat) : Parse Unit := modify fun s => { s with pos := pos }

/-- The token at a position already read. -/
def tokenBefore (pos : Nat) : Parse Token := do
  pure (((<- read)[pos]?).getD default)

/-- Fail: no rule fits. -/
def noFit : Parse α := throw .noFit

/-- Fail with a known mistake. -/
def mistake (message : String) (line : Nat) : Parse α :=
  throw (.mistake ⟨.general, message, line⟩)

/-- Fail with a known mistake at the line of the furthest token read. -/
def mistakeAtFill (message : String) : Parse α := do
  let s <- get
  mistake message ((((<- read)[s.fill]?).map Token.line).getD 0)

/-- Note a mistake that stands only if the source fails to parse; the first one noted
stands. -/
def defer (message : String) : Parse Unit := do
  let s <- get
  if !s.probing && s.deferred.isNone then set { s with deferred := some message }

/-- Fail with an error that no probe hides. -/
def fatal (message : String) (line : Nat) : Parse α :=
  throw (.fatal ⟨.general, message, line⟩)

/-- Fail with a known mistake of indentation. -/
def indentMistake (message : String) (line : Nat) : Parse α :=
  throw (.mistake ⟨.indentation, message, line⟩)

/-- Run a parser as a probe: its result if it succeeds, or `none` with the position put
back. Needing a token past the end is not a failure a probe hides. -/
def probe (p : Parse α) : Parse (Option α) := do
  let saved <- get
  set { saved with probing := true }
  let result <- tryCatch (some <$> p) fun
    | .pastEnd => throw .pastEnd
    | .fatal e => throw (.fatal e)
    | _ => pure none
  modify fun s =>
    { s with pos := (if result.isSome then s.pos else saved.pos), probing := saved.probing }
  pure result

/-- Whether a parser would succeed here; the position does not move. -/
def fits (p : Parse α) : Parse Bool := do
  let saved <- position
  let r <- probe p
  restore saved
  pure r.isSome

end Parse

/-- The words that cannot be names. -/
def keywords : List String :=
  ["False", "None", "True", "and", "as", "assert", "async", "await", "break", "class",
   "continue", "def", "del", "elif", "else", "except", "finally", "for", "from", "global",
   "if", "import", "in", "is", "lambda", "nonlocal", "not", "or", "pass", "raise", "return",
   "try", "while", "with", "yield"]

/-- The words that are keywords only where a statement gives them that meaning. -/
def softKeywords : List String := ["_", "case", "match"]

namespace Token

/-- Whether a token is the operator `s`. -/
def isOp (t : Token) (s : String) : Bool := t.kind == .op && t.text == s

/-- Whether a token is the keyword `s`. -/
def isKeyword (t : Token) (s : String) : Bool := t.kind == .name && t.text == s

/-- Whether a token is a name that is no keyword. -/
def isPlainName (t : Token) : Bool := t.kind == .name && !keywords.contains t.text

/-- Whether a token can start an expression but cannot go on with one just read: a second
expression written right after a first. -/
def startsJuxtaposed (t : Token) : Bool :=
  match t.kind with
  | .name => t.isPlainName || ["True", "False", "None", "lambda", "not", "await"].contains t.text
  | .number | .string => true
  | .op => t.text == "\x7b" || t.text == "~" || t.text == "..."
  | _ => false

/-- Whether a token can start an expression. -/
def startsExpression (t : Token) : Bool :=
  match t.kind with
  | .name => t.isPlainName ||
      ["True", "False", "None", "lambda", "not", "await"].contains t.text
  | .number | .string => true
  | .op => ["(", "[", "\x7b", "-", "+", "~", "...", "*"].contains t.text
  | _ => false

end Token

/-- Whether the tokens from `start` up to `stop` are one group in round brackets: the bracket
that opens at `start` closes just before `stop`. -/
def Parse.oneGroup (start stop : Nat) : Parse Bool := do
  let ts <- read
  if !((ts.getD start default).isOp "(") || stop ≤ start then return false
  let depthAfter : Int × Option Nat := (List.range' start (stop - start)).foldl
    (fun (d, closed) i =>
      if closed.isSome then (d, closed)
      else
        let t := ts.getD i default
        let d := if t.isOp "(" || t.isOp "[" || t.isOp "\x7b" then d + 1
          else if t.isOp ")" || t.isOp "]" || t.isOp "\x7d" then d - 1 else d
        (d, if d == 0 then some i else none)) (0, none)
  return depthAfter.2 == some (stop - 1)

namespace CodeError

/-- The error at which a token stream stopped, once a parser reaches that point. -/
def ofLexStop : LexStop -> CodeError
  | .reported m l => ⟨.general, m, l⟩
  | .unclosed b l => ⟨.general, s!"'{b}' was never closed", l⟩
  | .endAfterContinuation l => ⟨.general, "unexpected EOF while parsing", l⟩
  | .unindentMismatch l => ⟨.indentation, "unindent does not match any outer indentation level", l⟩
  | .inconsistentTabs l => ⟨.tabs, "inconsistent use of tabs and spaces in indentation", l⟩
  | .afterContinuation l => ⟨.general, "unexpected character after line continuation character", l⟩

/-- A parser's error, unless the token stream's stop takes precedence: an error the reader
reported does, and so does a bracket left open at the end when it opened on a line before
`reached`, the line of the furthest token read. -/
def overriddenBy (e : CodeError) (reached : Nat) : Option LexStop -> CodeError
  | some (.reported m l) => ⟨.general, m, l⟩
  | some (.unclosed b l) => if reached > l then ⟨.general, s!"'{b}' was never closed", l⟩ else e
  | _ => e

/-- The error of a failed parse of a token stream. -/
def ofParse (lexed : Lexed) (stop : ParseStop) (s : ParseState) : CodeError :=
  let fromStop : CodeError :=
    match lexed.stop with
    | some st => ofLexStop st
    | none => ⟨.general, "invalid syntax", 1⟩
  let reached := ((lexed.tokens[s.fill]?).map Token.line).getD 0
  match stop, s.deferred with
  | .pastEnd, _ => fromStop
  | .fatal e, _ => e.overriddenBy reached lexed.stop
  | _, some m => CodeError.overriddenBy ⟨.general, m, reached⟩ reached lexed.stop
  | .mistake e, none => e.overriddenBy reached lexed.stop
  | .noFit, none =>
    match lexed.tokens[s.reach]? with
    | none => fromStop
    | some t =>
      match t.kind with
      | .indent => ⟨.indentation, "unexpected indent", t.line⟩
      | .dedent => ⟨.indentation, "unexpected unindent", t.line⟩
      | _ => CodeError.overriddenBy ⟨.general, "invalid syntax", t.line⟩ reached lexed.stop

end CodeError

end GraphProbe.Code
