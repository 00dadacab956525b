import GraphProbe.Graphql.Syntax
import GraphProbe.Text.CodePoint

/-!
# Tokens of the query language

The lexer cuts a source text into tokens: punctuators, names, numbers, texts and block
texts. Blanks, line ends, commas, a byte-order mark and comments separate tokens and are
dropped. Every token keeps the offset where it starts.

A text the lexer cannot read stops it with a syntax error at an offset. The error does not
surface at once: the parser meets it only when it moves onto the place where the bad token
would be, so an earlier parse error wins. `tokenize` therefore returns the tokens read and,
when it stopped early, the error that stopped it.

Every reader here moves forward through the source, one character or more per step, so
each is bounded by the length of the source.
-/

namespace GraphProbe.Graphql

/-- The kinds of tokens. -/
inductive TokenKind where
  | eof
  | bang
  | dollar
  | amp
  | parenL
  | parenR
  | spread
  | colon
  | equals
  | atSign
  | bracketL
  | bracketR
  | braceL
  | pipe
  | braceR
  | name
  | int
  | float
  | string
  | blockString
  deriving BEq, Repr, Inhabited, DecidableEq

namespace TokenKind

/-- Whether tokens of a kind are punctuators. -/
def isPunctuator : TokenKind → Bool
  | .eof | .name | .int | .float | .string | .blockString => false
  | _ => true

/-- The name of a kind, as errors spell it. -/
def text : TokenKind → String
  | .eof => "<EOF>"
  | .bang => "!"
  | .dollar => "$"
  | .amp => "&"
  | .parenL => "("
  | .parenR => ")"
  | .spread => "..."
  | .colon => ":"
  | .equals => "="
  | .atSign => "@"
  | .bracketL => "["
  | .bracketR => "]"
  | .braceL => "\x7b"
  | .pipe => "|"
  | .braceR => "\x7d"
  | .name => "Name"
  | .int => "Int"
  | .float => "Float"
  | .string => "String"
  | .blockString => "BlockString"

/-- How errors describe a kind: punctuators in single quotes, others by name. -/
def describe (k : TokenKind) : String :=
  if k.isPunctuator then "'" ++ k.text ++ "'" else k.text

/-- The kind of a one-character punctuator. -/
def ofPunctuator? : Char → Option TokenKind
  | '!' => some .bang
  | '$' => some .dollar
  | '&' => some .amp
  | '(' => some .parenL
  | ')' => some .parenR
  | ':' => some .colon
  | '=' => some .equals
  | '@' => some .atSign
  | '[' => some .bracketL
  | ']' => some .bracketR
  | '\x7b' => some .braceL
  | '|' => some .pipe
  | '\x7d' => some .braceR
  | _ => none

end TokenKind

/-- A token: its kind, where it starts, and the value of names, numbers and texts. -/
structure Token where
  kind : TokenKind
  start : Nat
  value : Option String := none
  deriving Inhabited, Repr

/-- How errors describe a token: its kind, then its value in single quotes. -/
def Token.describe (t : Token) : String :=
  match t.value with
  | some v => t.kind.describe ++ " '" ++ v ++ "'"
  | none => t.kind.describe

/-- A syntax error: where it is and what it says. -/
structure SyntaxError where
  position : Nat
  description : String
  deriving Inhabited, Repr

/-- A source as the lexer reads it: one character per code point (a lone surrogate as its
stand-in), and a mark on each place that holds a lone surrogate. -/
structure Source where
  chars : Array Char
  lone : Array Bool

namespace Source

/-- The source of a text. -/
def ofText (s : String) : Source :=
  let ns := Text.codes s
  ⟨(ns.map Text.viewChar).toArray, (ns.map Text.isSurrogateCode).toArray⟩

/-- Whether a place holds a lone surrogate. -/
def isLone (body : Source) (i : Nat) : Bool := body.lone[i]?.getD false

/-- The code point at a place. -/
def pointAt (body : Source) (i : Nat) : Nat :=
  match body.chars[i]? with
  | some c => if body.isLone i then c.toNat - Text.surrogateShift else c.toNat
  | none => 0

/-- The spelling of the code point at a place. -/
def spellingAt (body : Source) (i : Nat) : List Char :=
  if i < body.chars.size then Text.pointChars (body.pointAt i) else []

end Source

/-- Upper-case hex digits of `n`, padded with zeros to four. -/
def hexUpper4 (n : Nat) : String :=
  let ds := (Nat.toDigits 16 n).map Char.toUpper
  String.ofList (List.replicate (4 - ds.length) '0' ++ ds)

/-- How errors show the character at an offset: printable ASCII quoted, others by code
point (a lone surrogate as itself), the end as `<EOF>`. -/
def showCharAt (body : Source) (i : Nat) : String :=
  match body.chars[i]? with
  | none => TokenKind.eof.text
  | some c =>
    if ' ' ≤ c && c ≤ '~' then
      if c == '"' then "'\"'" else "'" ++ c.toString ++ "'"
    else "U+" ++ hexUpper4 (body.pointAt i)

/-- Whether a character may start a name. -/
def isNameStart (c : Char) : Bool := c.isAlpha && c.toNat < 128 || c == '_'

/-- Whether a character may continue a name. -/
def isNameChar (c : Char) : Bool := isNameStart c || c.isDigit

/-- The offset of the first character at or after `i` that fails `p`. -/
def skipWhile (p : Char → Bool) (body : Array Char) (i : Nat) : Nat :=
  if h : i < body.size then
    if p body[i] then skipWhile p body (i + 1) else i
  else i
termination_by body.size - i

/-- The text from `i` up to `j`. -/
def slice (body : Source) (i j : Nat) : String :=
  String.ofList (((List.range (min j body.chars.size - i)).map (i + ·)).flatMap body.spellingAt)

/-- Whether the characters at `i` are `s`. -/
def hasAt (body : Source) (i : Nat) (s : String) : Bool :=
  (body.chars.extract i (i + s.length)).toList == s.toList

/-! ### Numbers -/

/-- Read the digits of a number starting at `i`: at least one is owed. -/
def readDigits (body : Source) (i : Nat) : Except SyntaxError Nat :=
  match body.chars[i]? with
  | some c =>
    if c.isDigit then .ok (skipWhile Char.isDigit body.chars (i + 1))
    else .error ⟨i, s!"Invalid number, expected digit but got: {showCharAt body i}."⟩
  | none => .error ⟨i, s!"Invalid number, expected digit but got: {showCharAt body i}."⟩

/-- Read a number starting at `start`: an optional minus, an integer part without leading
zeros, then an optional fraction and exponent. A number may not run into a name or a dot. -/
def readNumber (body : Source) (start : Nat) : Except SyntaxError (Token × Nat) := do
  let i := if body.chars[start]? == some '-' then start + 1 else start
  let i ← if body.chars[i]? == some '0' then
      match body.chars[i + 1]? with
      | some c =>
        if c.isDigit then
          throw ⟨i + 1, s!"Invalid number, unexpected digit after 0: {showCharAt body (i + 1)}."⟩
        else pure (i + 1)
      | none => pure (i + 1)
    else readDigits body i
  let (i, fraction) ← if body.chars[i]? == some '.' then do
      let j ← readDigits body (i + 1)
      pure (j, true)
    else pure (i, false)
  let (i, exponent) ← if body.chars[i]? == some 'e' || body.chars[i]? == some 'E' then do
      let j := if body.chars[i + 1]? == some '+' || body.chars[i + 1]? == some '-' then i + 2 else i + 1
      let k ← readDigits body j
      pure (k, true)
    else pure (i, false)
  match body.chars[i]? with
  | some c =>
    if c == '.' || isNameStart c then
      throw ⟨i, s!"Invalid number, expected digit but got: {showCharAt body i}."⟩
  | none => pure ()
  let kind := if fraction || exponent then TokenKind.float else .int
  pure (⟨kind, start, some (slice body start i)⟩, i)

/-! ### Texts -/

/-- The value of a hex digit. -/
def hexValue? (c : Char) : Option Nat :=
  if c.isDigit then some (c.toNat - '0'.toNat)
  else if 'a' ≤ c && c ≤ 'f' then some (c.toNat - 'a'.toNat + 10)
  else if 'A' ≤ c && c ≤ 'F' then some (c.toNat - 'A'.toNat + 10)
  else none

/-- The value of four hex digits at `i`. -/
def hex4At? (body : Source) (i : Nat) : Option Nat :=
  [0, 1, 2, 3].foldlM (fun acc k => do
    let c ← body.chars[i + k]?
    let d ← hexValue? c
    pure (16 * acc + d)) 0

/-- Whether a code point is a Unicode scalar value. -/
def isScalar (n : Nat) : Bool := n ≤ 0xD7FF || (0xE000 ≤ n && n ≤ 0x10FFFF)

/-- The character a one-letter escape stands for. -/
def escapedChar? : Char → Option Char
  | '"' => some '"'
  | '/' => some '/'
  | '\\' => some '\\'
  | 'b' => some (Char.ofNat 8)
  | 'f' => some (Char.ofNat 12)
  | 'n' => some '\n'
  | 'r' => some '\r'
  | 't' => some '\t'
  | _ => none

/-- Read `\u{…}` at `i`: up to eight hex digits between braces, naming a scalar value. -/
def readBracedEscape (body : Source) (i : Nat) : Except SyntaxError (Char × Nat) :=
  let limit := min 12 (body.chars.size - i)
  let bad (size : Nat) : SyntaxError :=
    ⟨i, s!"Invalid Unicode escape sequence: '{slice body i (i + size)}'."⟩
  let rec go : Nat → Nat → Nat → Except SyntaxError (Char × Nat)
    | 0, size, _ => .error (bad size)
    | fuel + 1, size, point =>
      if size < limit then
        match body.chars[i + size]? with
        | some '\x7d' =>
          if size + 1 < 5 || !isScalar point then .error (bad (size + 1))
          else .ok (Char.ofNat point, size + 1)
        | some c =>
          match hexValue? c with
          | some d => go fuel (size + 1) (16 * point + d)
          | none => .error (bad (size + 1))
        | none => .error (bad size)
      else .error (bad size)
  go 13 3 0

/-- Read `\uXXXX` at `i`, joining a surrogate pair written as two escapes. -/
def readFixedEscape (body : Source) (i : Nat) : Except SyntaxError (Char × Nat) :=
  let bad : SyntaxError :=
    ⟨i, s!"Invalid Unicode escape sequence: '{slice body i (i + 6)}'."⟩
  match hex4At? body (i + 2) with
  | some code =>
    if isScalar code then .ok (Char.ofNat code, 6)
    else if 0xD800 ≤ code && code ≤ 0xDBFF && hasAt body (i + 6) "\\u" then
      match hex4At? body (i + 8) with
      | some low =>
        if 0xDC00 ≤ low && low ≤ 0xDFFF then
          .ok (Char.ofNat (0x10000 + (code - 0xD800) * 0x400 + (low - 0xDC00)), 12)
        else .error bad
      | none => .error bad
    else .error bad
  | none => .error bad

/-- Read the escape sequence at `i` (a backslash): its character and its length. -/
def readEscape (body : Source) (i : Nat) : Except SyntaxError (Char × Nat) :=
  if hasAt body (i + 1) "u\x7b" then readBracedEscape body i
  else if body.chars[i + 1]? == some 'u' then readFixedEscape body i
  else
    match body.chars[i + 1]? >>= escapedChar? with
    | some c => .ok (c, 2)
    | none =>
      .error ⟨i, s!"Invalid character escape sequence: '{slice body i (i + 2)}'."⟩

/-- The error of a lone surrogate inside a text: texts hold only Unicode scalar values. -/
def invalidInString (body : Source) (i : Nat) : SyntaxError :=
  ⟨i, s!"Invalid character within String: {showCharAt body i}."⟩

/-- Read a text between double quotes starting at `start`; it may not span lines. -/
def readString (body : Source) (start : Nat) : Except SyntaxError (Token × Nat) :=
  let rec go : Nat → Nat → List Char → Except SyntaxError (Token × Nat)
    | 0, i, _ => .error ⟨i, "Unterminated string."⟩
    | fuel + 1, i, acc =>
      match body.chars[i]? with
      | none => .error ⟨i, "Unterminated string."⟩
      | some '"' => .ok (⟨.string, start, some (String.ofList acc.reverse)⟩, i + 1)
      | some '\\' =>
        match readEscape body i with
        | .ok (c, size) => go fuel (i + size) ((Text.pointChars c.toNat).reverse ++ acc)
        | .error e => .error e
      | some '\n' | some '\r' => .error ⟨i, "Unterminated string."⟩
      | some _ =>
        if body.isLone i then .error (invalidInString body i)
        else go fuel (i + 1) ((body.spellingAt i).reverse ++ acc)
  go (body.chars.size + 1) (start + 1) []

/-- The count of blanks and tabs a line starts with. -/
def leadingBlanks (line : List Char) : Nat :=
  (line.takeWhile fun c => c == ' ' || c == '\t').length

/-- The lines of a block text with their common indentation removed (the first line is left
alone, it follows the opening quotes), and blank lines at both ends dropped. -/
def dedentLines (lines : List (List Char)) : List (List Char) :=
  let indexed := lines.zipIdx
  let filled := indexed.filter fun (l, _) => leadingBlanks l != l.length
  let common := (filled.filter (·.2 != 0)).foldl (fun m (l, _) => min m (leadingBlanks l))
    (lines.foldl (fun m l => max m l.length) 0)
  let first := match filled.head? with | some (_, i) => i | none => 0
  let last := match filled.getLast? with | some (_, i) => i + 1 | none => 0
  let cut := indexed.map fun (l, i) => if i == 0 then l else l.drop common
  (cut.take last).drop first

/-- Read a block text between triple quotes starting at `start`. -/
def readBlockString (body : Source) (start : Nat) : Except SyntaxError (Token × Nat) :=
  let rec go : Nat → Nat → List Char → List (List Char) → Except SyntaxError (Token × Nat)
    | 0, i, _, _ => .error ⟨i, "Unterminated string."⟩
    | fuel + 1, i, line, lines =>
      if i ≥ body.chars.size then .error ⟨i, "Unterminated string."⟩
      else if hasAt body i "\"\"\"" then
        let all := (line.reverse :: lines).reverse
        let text := "\n".intercalate ((dedentLines all).map String.ofList)
        .ok (⟨.blockString, start, some text⟩, i + 3)
      else if hasAt body i "\\\"\"\"" then
        go fuel (i + 4) ('"' :: '"' :: '"' :: line) lines
      else match body.chars[i]? with
        | some '\r' =>
          let next := if body.chars[i + 1]? == some '\n' then i + 2 else i + 1
          go fuel next [] (line.reverse :: lines)
        | some '\n' => go fuel (i + 1) [] (line.reverse :: lines)
        | some _ =>
          if body.isLone i then .error (invalidInString body i)
          else go fuel (i + 1) ((body.spellingAt i).reverse ++ line) lines
        | none => .error ⟨i, "Unterminated string."⟩
  go (body.chars.size + 1) (start + 3) [] []

/-! ### The token stream -/

/-- Read the token at `i` (which is not a separator), with where the lexer goes on. -/
def readToken (body : Source) (i : Nat) (c : Char) : Except SyntaxError (Token × Nat) :=
  match TokenKind.ofPunctuator? c with
  | some k => .ok (⟨k, i, none⟩, i + 1)
  | none =>
    if c == '.' && hasAt body (i + 1) ".." then .ok (⟨.spread, i, none⟩, i + 3)
    else if isNameStart c then
      let j := skipWhile isNameChar body.chars (i + 1)
      .ok (⟨.name, i, some (slice body i j)⟩, j)
    else if c.isDigit || c == '-' then readNumber body i
    else if c == '"' then
      if hasAt body (i + 1) "\"\"" then readBlockString body i else readString body i
    else if c.toNat == 0x27 then
      .error ⟨i, "Unexpected single quote character ('), did you mean to use a double quote (\")?"⟩
    else if body.isLone i then .error ⟨i, s!"Invalid character: {showCharAt body i}."⟩
    else .error ⟨i, s!"Unexpected character: {showCharAt body i}."⟩

/-- Skipping never moves back. -/
theorem le_skipWhile (p : Char → Bool) (body : Array Char) (i : Nat) :
    i ≤ skipWhile p body i := by
  unfold skipWhile
  split
  · split
    · have := le_skipWhile p body (i + 1); omega
    · omega
  · omega
termination_by body.size - i

/-- The offset where a comment running at `i` ends: at a line end or a lone surrogate. -/
def skipComment (body : Source) (i : Nat) : Nat :=
  if h : i < body.chars.size then
    let c := body.chars[i]
    if c == '\n' || c == '\r' || body.isLone i then i else skipComment body (i + 1)
  else i
termination_by body.chars.size - i

/-- Skipping a comment never moves back. -/
theorem le_skipComment (body : Source) (i : Nat) : i ≤ skipComment body i := by
  unfold skipComment
  split
  · simp only []
    split
    · omega
    · have := le_skipComment body (i + 1); omega
  · omega
termination_by body.chars.size - i

/-- The offset of the next token at or after `i`: separators and comments skipped. -/
def skipIgnored (body : Source) (i : Nat) : Nat :=
  if h : i < body.chars.size then
    let c := body.chars[i]
    if c == ' ' || c == '\t' || c == ',' || c == '\n' || c == '\r' || c.toNat == 0xFEFF then
      skipIgnored body (i + 1)
    else if c == '#' then
      skipIgnored body (skipComment body (i + 1))
    else i
  else i
termination_by body.chars.size - i
decreasing_by
  all_goals first
    | omega
    | (have h := le_skipComment body (i + 1); omega)

/-- Cut a source into tokens, the last being the end; or the tokens before a text the lexer
cannot read, with the error it raises. -/
def tokenize (source : String) : Array Token × Option SyntaxError :=
  let body := Source.ofText source
  let rec go : Nat → Nat → Array Token → Array Token × Option SyntaxError
    | 0, i, acc => (acc.push ⟨.eof, i, none⟩, none)
    | fuel + 1, i, acc =>
      let i := skipIgnored body i
      match body.chars[i]? with
      | none => (acc.push ⟨.eof, body.chars.size, none⟩, none)
      | some c =>
        match readToken body i c with
        | .ok (t, j) => go fuel j (acc.push t)
        | .error e => (acc, some e)
  go (body.chars.size + 1) 0 #[]

end GraphProbe.Graphql
