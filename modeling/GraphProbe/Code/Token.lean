import GraphProbe.Code.NameChar

/-!
# Tokens of package code

Package code is read as a stream of tokens: names, numbers, texts, operators, the end of
each logical line, the steps of indentation in and out, and the end of the source. Lines
that hold only blanks or a comment give no token; line breaks inside brackets or after a
backslash do not end a logical line.

The stream can stop early. An error found by the reader itself (an unterminated text, a
bracket that closes nothing or the wrong bracket, a character no token may hold, a malformed
number) is *reported*: it stands whatever a parser of the tokens before it would find. Other
stops only matter when a parser reaches them: the source ending inside brackets or after a
line continuation, a line that steps out of a block to no outer block's indentation, and
indentation that mixes tabs and spaces inconsistently.

Indentation is measured twice, with tabs to the next multiple of eight and with tabs as one
column: the two measures must order lines alike.
-/

namespace GraphProbe.Code

/-- The kinds of tokens. -/
inductive TokenKind where
  | name
  | number
  | string
  | op
  | newline
  | indent
  | dedent
  | endMarker
  deriving BEq, Repr, Inhabited

/-- A token: its kind, its text, the line it starts on, and how many brackets are open just
after it. -/
structure Token where
  kind : TokenKind
  text : String
  line : Nat
  depth : Nat
  deriving Inhabited

/-- Why a token stream stops before the end of the source. -/
inductive LexStop where
  /-- An error the reader reports at once, at a line. -/
  | reported (message : String) (line : Nat)
  /-- The source ends while a bracket is open: the innermost one and its line. -/
  | unclosed (bracket : Char) (line : Nat)
  /-- The source ends right after a line continuation. -/
  | endAfterContinuation (line : Nat)
  /-- A line steps out of a block to no outer block's indentation. -/
  | unindentMismatch (line : Nat)
  /-- A line's indentation orders differently with tabs as eight columns and as one. -/
  | inconsistentTabs (line : Nat)
  /-- A character other than a line break follows a line continuation. -/
  | afterContinuation (line : Nat)
  deriving Inhabited

/-- The tokens of a source, and why they stop early if they do. -/
structure Lexed where
  tokens : Array Token
  stop : Option LexStop
  deriving Inhabited

/-- The state of reading: the current line, the open brackets (innermost first, with their
lines), the indentations of the open blocks (innermost first, each measured both ways), and
the tokens so far. -/
structure Scan where
  line : Nat
  brackets : List (Char × Nat)
  indents : List (Nat × Nat)
  out : Array Token

/-- Add a token at a line. -/
def Scan.emitAt (s : Scan) (kind : TokenKind) (text : String) (line : Nat) : Scan :=
  { s with out := s.out.push { kind, text, line, depth := s.brackets.length } }

/-- Add a token at the current line. -/
def Scan.emit (s : Scan) (kind : TokenKind) (text : String) : Scan := s.emitAt kind text s.line

/-- The source with uniform line breaks, without a leading byte order mark, ending in a line
break unless it is empty. -/
def prepareSource (source : String) : List Char :=
  let cs := match source.toList with
    | c :: rest => if c.toNat == 0xFEFF then rest else c :: rest
    | [] => []
  let uniform := go cs
  match uniform.getLast? with
  | none => []
  | some '\n' => uniform
  | some _ => uniform ++ ['\n']
where
  /-- Turn `\r\n` and a lone `\r` into `\n`. -/
  go : List Char -> List Char
    | '\r' :: '\n' :: rest => '\n' :: go rest
    | '\r' :: rest => '\n' :: go rest
    | c :: rest => c :: go rest
    | [] => []

/-- The indentation at the start of a line, measured with tabs to the next multiple of eight
and with tabs as one column; a form feed starts the measure again. -/
def indentation : List Char -> Nat -> Nat -> Nat × Nat × List Char
  | ' ' :: rest, col, alt => indentation rest (col + 1) (alt + 1)
  | '\t' :: rest, col, alt => indentation rest ((col / 8 + 1) * 8) (alt + 1)
  | '\x0c' :: rest, _, _ => indentation rest 0 0
  | cs, col, alt => (col, alt, cs)

/-- Skip blanks within a line. -/
def skipBlanks : List Char -> List Char
  | ' ' :: rest | '\t' :: rest | '\x0c' :: rest => skipBlanks rest
  | cs => cs

/-- Whether a character is a quote that opens a text. -/
def isQuote (c : Char) : Bool := c == '"' || c == '\''

/-- The prefix of a text literal at the start of `cs`, with the rest from the opening
quote: one of `r`, `u`, `b`, `f`, `br`, `rb`, `fr`, `rf` in either case. -/
def stringPrefix? (cs : List Char) : Option (List Char × List Char) :=
  let one (c : Char) : Bool := "rRuUbBfF".toList.contains c
  let two (a b : Char) : Bool :=
    let p := [a.toLower, b.toLower]
    p == ['b', 'r'] || p == ['r', 'b'] || p == ['f', 'r'] || p == ['r', 'f']
  match cs with
  | a :: q :: rest => if one a && isQuote q then some ([a], q :: rest) else
    match rest with
    | q' :: rest' => if two a q && isQuote q' then some ([a, q], q' :: rest') else none
    | [] => none
  | _ => none

/-! ### Numbers -/

/-- What reading a part of a number gives: the characters read and the rest, or the error's
message. -/
abbrev NumberPart := Except String (List Char × List Char)

/-- More decimal digits after a digit, single underscores between them. -/
def decimalTail : List Char -> NumberPart
  | c :: rest =>
    if c.isDigit then (decimalTail rest).map fun (ds, r) => (c :: ds, r)
    else if c == '_' then
      match rest with
      | d :: more =>
        if d.isDigit then (decimalTail more).map fun (ds, r) => ('_' :: d :: ds, r)
        else .error "invalid decimal literal"
      | [] => .error "invalid decimal literal"
    else .ok ([], c :: rest)
  | [] => .ok ([], [])

/-- Whether the rest after a number starts a word that may follow a number in well-formed
code: `and`, `else`, `for`, `if`, `in`, `is`, `not`, `or`. -/
def keywordAfterNumber (cs : List Char) : Bool :=
  ["and", "else", "for", "if", "in", "is", "not", "or"].any fun w => w.toList.isPrefixOf cs

/-- Check the end of a number of a kind: no letter may follow it, but for the keywords that
may. -/
def endOfNumber (kind : String) (read rest : List Char) : NumberPart :=
  match rest with
  | c :: _ =>
    if keywordAfterNumber rest then .ok (read, rest)
    else if isWordChar c then .error s!"invalid {kind} literal"
    else .ok (read, rest)
  | [] => .ok (read, rest)

/-- Digits of a base after a prefix, single underscores before them. -/
def baseDigits (isDigitOf : Char -> Bool) : List Char -> Nat -> List Char × List Char
  | c :: rest, n + 1 =>
    if isDigitOf c then
      let (ds, r) := baseDigits isDigitOf rest n
      (c :: ds, r)
    else if c == '_' then
      match rest with
      | d :: _ =>
        if isDigitOf d then
          let (ds, r) := baseDigits isDigitOf rest n
          ('_' :: ds, r)
        else ([], c :: rest)
      | [] => ([], c :: rest)
    else ([], c :: rest)
  | cs, _ => ([], cs)

/-- A number in base 16, 8 or 2 after its `0x`, `0o` or `0b`: at least one digit, digits of
the base only, single underscores. -/
def basedNumber (kind : String) (isDigitOf : Char -> Bool) (checkDecimal : Bool)
    (lead : List Char) (cs : List Char) : NumberPart :=
  let start := match cs with
    | '_' :: rest => rest
    | _ => cs
  match start with
  | c :: _ =>
    if !isDigitOf c then
      if checkDecimal && c.isDigit then .error s!"invalid digit '{c}' in {kind} literal"
      else .error s!"invalid {kind} literal"
    else
      let skipped := cs.length - start.length
      let (ds, rest) := baseDigits isDigitOf start (start.length + 1)
      let read := lead ++ cs.take skipped ++ ds
      match rest with
      | '_' :: d :: _ =>
        if checkDecimal && d.isDigit then .error s!"invalid digit '{d}' in {kind} literal"
        else .error s!"invalid {kind} literal"
      | '_' :: [] => .error s!"invalid {kind} literal"
      | d :: _ =>
        if checkDecimal && d.isDigit then .error s!"invalid digit '{d}' in {kind} literal"
        else endOfNumber kind read rest
      | [] => endOfNumber kind read rest
  | [] => .error s!"invalid {kind} literal"

/-- The imaginary mark `j` and what may follow it. -/
def imaginaryPart (read : List Char) (j : Char) (rest : List Char) : NumberPart :=
  endOfNumber "imaginary" (read ++ [j]) rest

/-- The exponent of a number after its `e`, then an imaginary mark if one follows. -/
def exponentPart (read : List Char) (e : Char) (rest : List Char) : NumberPart :=
  let digitsAfter (sign : List Char) (cs : List Char) : NumberPart :=
    match cs with
    | d :: more =>
      if d.isDigit then do
        let (ds, r) <- decimalTail more
        let read := read ++ [e] ++ sign ++ d :: ds
        match r with
        | j :: r' =>
          if j == 'j' || j == 'J' then imaginaryPart read j r' else endOfNumber "decimal" read r
        | [] => endOfNumber "decimal" read r
      else .error "invalid decimal literal"
    | [] => .error "invalid decimal literal"
  match rest with
  | s :: more =>
    if s == '+' || s == '-' then digitsAfter [s] more
    else if s.isDigit then digitsAfter [] rest
    else endOfNumber "decimal" read (e :: rest)
  | [] => endOfNumber "decimal" read (e :: rest)

/-- What may follow a number's fraction: an exponent, an imaginary mark. -/
def afterFraction (read : List Char) (cs : List Char) : NumberPart :=
  match cs with
  | c :: rest =>
    if c == 'e' || c == 'E' then exponentPart read c rest
    else if c == 'j' || c == 'J' then imaginaryPart read c rest
    else endOfNumber "decimal" read cs
  | [] => .ok (read, [])

/-- What may follow the digits of a number: a fraction, an exponent, an imaginary mark. -/
def afterDigits (read : List Char) (cs : List Char) : NumberPart :=
  match cs with
  | '.' :: rest =>
    match rest with
    | d :: more =>
      if d.isDigit then do
        let (ds, r) <- decimalTail more
        afterFraction (read ++ '.' :: d :: ds) r
      else afterFraction (read ++ ['.']) rest
    | [] => .ok (read ++ ['.'], [])
  | _ => afterFraction read cs

/-- The zeros that start a decimal number with a leading `0`, single underscores between. -/
def leadingZeros : List Char -> NumberPart
  | '0' :: rest => (leadingZeros rest).map fun (zs, r) => ('0' :: zs, r)
  | '_' :: d :: rest =>
    if d == '0' then (leadingZeros rest).map fun (zs, r) => ('_' :: '0' :: zs, r)
    else if d.isDigit then .ok ([], '_' :: d :: rest)
    else .error "invalid decimal literal"
  | '_' :: [] => .error "invalid decimal literal"
  | cs => .ok ([], cs)

/-- A number starting at a digit or at a point followed by a digit. -/
def readNumber : List Char -> NumberPart
  | '0' :: x :: rest =>
    if x == 'x' || x == 'X' then basedNumber "hexadecimal" Char.isHexDigit false ['0', x] rest
    else if x == 'o' || x == 'O' then
      basedNumber "octal" (fun c => '0' ≤ c && c ≤ '7') true ['0', x] rest
    else if x == 'b' || x == 'B' then
      basedNumber "binary" (fun c => c == '0' || c == '1') true ['0', x] rest
    else do
      let (zs, r) <- leadingZeros (x :: rest)
      let r := match r with
        | '_' :: more => more
        | _ => r
      match r with
      | d :: more =>
        if d.isDigit then do
          let (ds, r') <- decimalTail more
          let read := '0' :: zs ++ d :: ds
          match r' with
          | c :: _ =>
            if c == '.' || c == 'e' || c == 'E' || c == 'j' || c == 'J' then
              afterDigits read r'
            else .error ("leading zeros in decimal integer literals are not permitted; " ++
              "use an 0o prefix for octal integers")
          | [] => .error ("leading zeros in decimal integer literals are not permitted; " ++
              "use an 0o prefix for octal integers")
        else afterDigits ('0' :: zs) r
      | [] => .ok ('0' :: zs, [])
  | '.' :: d :: rest => do
    let (ds, r) <- decimalTail rest
    afterFraction ('.' :: d :: ds) r
  | d :: rest => do
    let (ds, r) <- decimalTail rest
    afterDigits (d :: ds) r
  | [] => .ok ([], [])

/-! ### Texts -/

/-- How reading a text literal ends: its characters with the rest and the line reached, or
the line where it was found unterminated. -/
inductive TextEnd where
  | closed (read rest : List Char) (line : Nat)
  | unterminated (line : Nat)

/-- The body of a text on one line after its opening quote `q`: it ends at `q`; a line
break ends it unterminated, and a backslash takes the next character with it. -/
def singleQuoted (q : Char) : List Char -> Nat -> TextEnd
  | [], line => .unterminated (line - 1)
  | '\n' :: _, line => .unterminated line
  | '\\' :: c :: rest, line =>
    match singleQuoted q rest (if c == '\n' then line + 1 else line) with
    | .closed read r l => .closed ('\\' :: c :: read) r l
    | e => e
  | '\\' :: [], line => .unterminated line
  | c :: rest, line =>
    if c == q then .closed [c] rest line
    else match singleQuoted q rest line with
      | .closed read r l => .closed (c :: read) r l
      | e => e

/-- The body of a triple-quoted text after its opening quotes: it ends at three quotes `q`
in a row; a backslash takes the next character with it. -/
def tripleQuoted (q : Char) : List Char -> Nat -> Nat -> TextEnd
  | [], _, line => .unterminated (line - 1)
  | '\\' :: c :: rest, _, line =>
    match tripleQuoted q rest 0 (if c == '\n' then line + 1 else line) with
    | .closed read r l => .closed ('\\' :: c :: read) r l
    | e => e
  | c :: rest, run, line =>
    if c == q then
      if run + 1 == 3 then .closed [c] rest line
      else match tripleQuoted q rest (run + 1) line with
        | .closed read r l => .closed (c :: read) r l
        | e => e
    else match tripleQuoted q rest 0 (if c == '\n' then line + 1 else line) with
      | .closed read r l => .closed (c :: read) r l
      | e => e

/-- Read a text literal from its opening quote, with its prefix already read. -/
def readText (pre : List Char) (cs : List Char) (line : Nat) : Except LexStop (List Char × List Char × Nat) :=
  match cs with
  | q :: q2 :: q3 :: rest =>
    if q2 == q && q3 == q then
      match tripleQuoted q rest 0 line with
      | .closed read r l => .ok (pre ++ [q, q, q] ++ read, r, l)
      | .unterminated at_ =>
        .error (.reported s!"unterminated triple-quoted string literal (detected at line {at_})" line)
    else if q2 == q then .ok (pre ++ [q, q], q3 :: rest, line)
    else single q (q2 :: q3 :: rest)
  | q :: q2 :: rest =>
    if q2 == q then .ok (pre ++ [q, q], rest, line) else single q (q2 :: rest)
  | q :: rest => single q rest
  | [] => .ok (pre, [], line)
where
  /-- A text in single quotes. -/
  single (q : Char) (rest : List Char) : Except LexStop (List Char × List Char × Nat) :=
    match singleQuoted q rest line with
    | .closed read r l => .ok (pre ++ q :: read, r, l)
    | .unterminated at_ =>
      .error (.reported s!"unterminated string literal (detected at line {at_})" line)

/-! ### Operators -/

/-- The operators of three characters. -/
def threeCharOps : List String := ["**=", "...", "//=", "<<=", ">>="]

/-- The operators of two characters. -/
def twoCharOps : List String :=
  ["!=", "%=", "&=", "**", "*=", "+=", "-=", "->", "//", "/=", ":=", "<<", "<=", "<>", "==",
   ">=", ">>", "@=", "^=", "|="]

/-- The closing bracket of an opening one. -/
def closerOf : Char -> Char
  | '(' => ')'
  | '[' => ']'
  | _ => '\x7d'

/-- The deepest nesting of brackets the reader accepts. -/
def maxBrackets : Nat := 200

/-- Take a bracket: an opening one is pushed, a closing one must close the innermost. -/
def Scan.bracket (s : Scan) (c : Char) : Except LexStop Scan :=
  if c == '(' || c == '[' || c == '\x7b' then
    if s.brackets.length ≥ maxBrackets then .error (.reported "too many nested parentheses" s.line)
    else .ok { s with brackets := (c, s.line) :: s.brackets }
  else if c == ')' || c == ']' || c == '\x7d' then
    match s.brackets with
    | [] => .error (.reported s!"unmatched '{c}'" s.line)
    | (b, at_) :: more =>
      if closerOf b == c then .ok { s with brackets := more }
      else if at_ == s.line then
        .error (.reported s!"closing parenthesis '{c}' does not match opening parenthesis '{b}'"
          s.line)
      else
        .error (.reported
          s!"closing parenthesis '{c}' does not match opening parenthesis '{b}' on line {at_}"
          s.line)
  else .ok s

/-- The operator at the start of `cs`: three characters, two, or one. -/
def operatorAt (cs : List Char) : List Char :=
  if threeCharOps.any (·.toList.isPrefixOf cs) then cs.take 3
  else if twoCharOps.any (·.toList.isPrefixOf cs) then cs.take 2
  else cs.take 1

/-! ### The token stream -/

/-- The end of the source: every open block is closed, then the end marker; within brackets
the stream stops instead. -/
def Scan.finish (s : Scan) : Lexed :=
  match s.brackets with
  | (b, at_) :: _ => ⟨s.out, some (.unclosed b at_)⟩
  | [] =>
    let last := s.line - 1
    let s := s.indents.foldl (fun s _ => s.emitAt .dedent "" last) s
    ⟨(s.emitAt .endMarker "" last).out, none⟩

/-- Step into or out of blocks at the start of a line indented by `col` (tabs as eight) and
`alt` (tabs as one). -/
def Scan.indentTo (s : Scan) (col alt : Nat) : Except LexStop Scan :=
  let top := s.indents.head?.getD (0, 0)
  if col == top.1 then
    if alt != top.2 then .error (.inconsistentTabs s.line) else .ok s
  else if col > top.1 then
    if alt ≤ top.2 then .error (.inconsistentTabs s.line)
    else .ok ({ s with indents := (col, alt) :: s.indents }.emit .indent "")
  else
    let kept := s.indents.dropWhile fun (c, _) => col < c
    let outer := kept.head?.getD (0, 0)
    if col != outer.1 then .error (.unindentMismatch s.line)
    else if alt != outer.2 then .error (.inconsistentTabs s.line)
    else
      let s' := (List.range (s.indents.length - kept.length)).foldl
        (fun s _ => s.emit .dedent "") { s with indents := kept }
      .ok s'

mutual
/-- Read from the start of a physical line that begins a logical line. -/
def lineStart : Nat -> List Char -> Scan -> Lexed
  | 0, _, s => s.finish
  | fuel + 1, cs, s =>
    let (col, alt, rest) := indentation cs 0 0
    match rest with
    | [] => s.finish
    | '#' :: _ | '\n' :: _ =>
      match rest.dropWhile (· != '\n') with
      | _ :: after => lineStart fuel after { s with line := s.line + 1 }
      | [] => s.finish
    | _ =>
      if !s.brackets.isEmpty then inLine fuel rest s
      else match s.indentTo col alt with
        | .ok s => inLine fuel rest s
        | .error e => ⟨s.out, some e⟩

/-- Read the tokens of a line. -/
def inLine : Nat -> List Char -> Scan -> Lexed
  | 0, _, s => s.finish
  | fuel + 1, cs, s =>
    let stop (e : LexStop) : Lexed := ⟨s.out, some e⟩
    match skipBlanks cs with
    | [] => s.finish
    | '#' :: rest => inLine fuel (rest.dropWhile (· != '\n')) s
    | '\n' :: rest =>
      if s.brackets.isEmpty then lineStart fuel rest { s.emit .newline "" with line := s.line + 1 }
      else inLine fuel rest { s with line := s.line + 1 }
    | '\\' :: rest =>
      match rest with
      | '\n' :: [] => stop (.endAfterContinuation s.line)
      | '\n' :: more => inLine fuel more { s with line := s.line + 1 }
      | _ => stop (.afterContinuation s.line)
    | c :: rest =>
      if c.isAlpha || c == '_' || c.toNat ≥ 128 then
        match stringPrefix? (c :: rest) with
        | some (pre, fromQuote) => text fuel pre fromQuote s
        | none =>
          let word := (c :: rest).takeWhile isWordChar
          let after := (c :: rest).dropWhile isWordChar
          match badNameChar? word with
          | some bad => stop (.reported (badCharMessage bad) s.line)
          | none => inLine fuel after (s.emit .name (String.ofList word))
      else if c.isDigit || (c == '.' && (rest.head?.map Char.isDigit).getD false) then
        match readNumber (c :: rest) with
        | .ok (read, after) => inLine fuel after (s.emit .number (String.ofList read))
        | .error m => stop (.reported m s.line)
      else if isQuote c then text fuel [] (c :: rest) s
      else
        let op := operatorAt (c :: rest)
        if op.length == 1 && (c.toNat < 0x20 || c.toNat == 0x7F) then
          stop (.reported (badCharMessage c) s.line)
        else match s.bracket c with
          | .ok s' => inLine fuel ((c :: rest).drop op.length) (s'.emitAt .op (String.ofList op) s.line)
          | .error e => stop e

/-- Read a text literal and go on after it. -/
def text : Nat -> List Char -> List Char -> Scan -> Lexed
  | 0, _, _, s => s.finish
  | fuel + 1, pre, cs, s =>
    match readText pre cs s.line with
    | .ok (read, after, line) =>
      inLine fuel after { s.emit .string (String.ofList read) with line := line }
    | .error e => ⟨s.out, some e⟩
end

/-- The tokens of a source. -/
def tokenize (source : String) : Lexed :=
  let cs := prepareSource source
  lineStart (3 * cs.length + 3) cs { line := 1, brackets := [], indents := [], out := #[] }

end GraphProbe.Code
