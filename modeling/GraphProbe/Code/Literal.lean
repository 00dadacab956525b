import GraphProbe.Code.Tree
import GraphProbe.Number.Text
import GraphProbe.Text.Escaped

/-!
# Values of literals

A number literal is an integer in base 10, 16, 8 or 2, a decimal double, or an imaginary
number; underscores between digits do not count. A text literal is a prefix, a quote and a
body: raw bodies are taken as written, others have their escapes replaced, byte strings
hold ASCII characters only. Adjacent literals are joined, but texts and byte strings do not
mix.

The escapes of a text body are those of the full backslash escapes (see `Escaped`), read
from the body's octets as the compiler hands them over: each character beyond ASCII
written as `\U` and eight hex digits, and a backslash before one (or at the very end) as
`\`. An escape that cannot be read is an error that shows its place in those octets.

An f-string body alternates literal text and replacement fields in braces (`{{` and `}}`
stand for single braces at the top level). A field holds an expression, an optional `=`
that shows the expression's text, an optional conversion after `!`, and an optional format
specification after `:`, which is read the same way one level deeper; fields may nest only
two levels. The expression itself is compiled by the caller, as soon as it is found.
-/

namespace GraphProbe.Code

/-- The value of a digit in base 16 and below. -/
def hexValue (c : Char) : Nat :=
  if c.isDigit then c.toNat - '0'.toNat
  else if 'a' ≤ c && c ≤ 'f' then c.toNat - 'a'.toNat + 10
  else if 'A' ≤ c && c ≤ 'F' then c.toNat - 'A'.toNat + 10
  else 0

/-- The value of digits in a base, most significant first. -/
def digitsIn (base : Nat) (ds : List Char) : Nat := ds.foldl (fun acc d => base * acc + hexValue d) 0

/-- The value of a number literal's text. -/
def numberLiteral (text : String) : Expr :=
  let cs := text.toList.filter (· != '_')
  let decimal (ds : List Char) : Float := (Number.decimalValue? ds).getD 0.0
  match cs with
  | '0' :: x :: ds =>
    if x == 'x' || x == 'X' then .int (digitsIn 16 ds)
    else if x == 'o' || x == 'O' then .int (digitsIn 8 ds)
    else if x == 'b' || x == 'B' then .int (digitsIn 2 ds)
    else plain cs decimal
  | _ => plain cs decimal
where
  /-- A decimal number: an integer, a double, or an imaginary number. -/
  plain (cs : List Char) (decimal : List Char -> Float) : Expr :=
    match cs.getLast? with
    | some 'j' | some 'J' => .imaginary (decimal cs.dropLast)
    | _ =>
      if cs.any (fun c => c == '.' || c == 'e' || c == 'E') then .float (decimal cs)
      else .int (digitsIn 10 cs)

/-- A text literal split into its prefix letters (lower case) and its body without quotes. -/
def splitTextLiteral (text : String) : List Char × List Char :=
  let cs := text.toList
  let pre := cs.takeWhile (fun c => !isQuote c)
  let rest := cs.drop pre.length
  let quotes := if rest.take 3 == [rest.headD ' ', rest.headD ' ', rest.headD ' '] &&
      rest.length ≥ 6 then 3 else 1
  let body := (rest.drop quotes).take (rest.length - 2 * quotes)
  (pre.map Char.toLower, body)

/-- The octets of an ASCII text. -/
def asciiOctets (s : String) : List UInt8 := s.toList.map fun c => c.toNat.toUInt8

/-- The octets the escapes of a text body are read from: ASCII characters as themselves,
each other code point as `\U` and eight hex digits, and a backslash before such a code
point, or at the very end, as `\`. -/
def escapeOctets : List Nat -> List UInt8
  | [] => []
  | [0x5C] => asciiOctets "\\u005c"
  | 0x5C :: n :: more =>
    if n ≥ 0x80 then asciiOctets "\\u005c" ++ escapeOctets (n :: more)
    else 0x5C :: n.toUInt8 :: escapeOctets more
  | n :: rest =>
    if n < 0x80 then n.toUInt8 :: escapeOctets rest
    else asciiOctets ("\\U" ++ Text.hexPadded 8 n) ++ escapeOctets rest

/-- The message of an escape that cannot be read, with its place in the octets. -/
def escapeError (octets : List UInt8) (e : Escaped.Unreadable) : String :=
  let place := if e.stop - e.start == 1 then
      s!"byte 0x{Text.hexPadded 2 ((octets[e.start]?).getD 0).toNat} in position {e.start}"
    else s!"bytes in position {e.start}-{e.stop - 1}"
  s!"(unicode error) 'unicodeescape' codec can't decode {place}: {e.reason}"

/-- Replace the escapes of a text body, given as the characters of its spelling. -/
def unescapeText (body : List Char) : Except String (List Char) :=
  let octets := escapeOctets (Text.points body)
  match Escaped.decode false octets with
  | .ok ns => .ok (ns.flatMap Text.pointChars)
  | .error e => .error (escapeError octets e)

/-- The characters of escape digits: up to `count` of them that satisfy `ok`. -/
def takeDigits (ok : Char -> Bool) : Nat -> List Char -> List Char
  | 0, _ => []
  | n + 1, c :: rest => if ok c then c :: takeDigits ok n rest else []
  | _, [] => []

/-- Replace the escapes of a byte string body; `at_` is the position of the first byte. -/
def unescapeBytes : List Char -> Nat -> Except String (List Nat)
  | [], _ => .ok []
  | '\\' :: c :: rest, at_ =>
    let simple (out : Nat) : Except String (List Nat) :=
      (unescapeBytes rest (at_ + 2)).map (out :: ·)
    match c with
    | '\n' => unescapeBytes rest (at_ + 2)
    | '\\' => simple 92
    | '\'' => simple 39
    | '"' => simple 34
    | 'a' => simple 7
    | 'b' => simple 8
    | 'f' => simple 12
    | 'n' => simple 10
    | 'r' => simple 13
    | 't' => simple 9
    | 'v' => simple 11
    | 'x' =>
      let ds := takeDigits Char.isHexDigit 2 rest
      if ds.length < 2 then .error s!"(value error) invalid \\x escape at position {at_}"
      else (unescapeBytes (rest.drop 2) (at_ + 4)).map (digitsIn 16 ds :: ·)
    | _ =>
      if '0' ≤ c && c ≤ '7' then
        let more := takeDigits (fun d => '0' ≤ d && d ≤ '7') 2 rest
        (unescapeBytes (rest.drop more.length) (at_ + 2 + more.length)).map
          (digitsIn 8 (c :: more) % 256 :: ·)
      else (unescapeBytes rest (at_ + 2)).map ([92, c.toNat] ++ ·)
  | c :: rest, at_ => (unescapeBytes rest (at_ + 1)).map (c.toNat :: ·)
termination_by cs => cs.length
decreasing_by all_goals simp only [List.length_drop, List.length_cons]; all_goals omega

/-- Why an f-string cannot be read: a fault of the literal itself, or a compile error of a
field's expression. -/
inductive FormatError where
  | literal (message : String)
  | expression (e : CodeError)

/-- How an f-string's field expressions are compiled: from the expression's characters and
the number of line breaks before it in the literal. -/
abbrev FieldCompiler := List Char -> Nat -> Except CodeError Expr

/-- Where a brace ends the literal text at the front of an f-string body, with the text so
far reversed in `acc`: a doubled brace at the top level is kept once and ends the text, a
lone closing brace at the top level is an error, and any other brace is left for the
caller. -/
def braceStop (top : Bool) (acc : List Char) (c : Char) (rest : List Char) :
    Except String (List Char × Bool × List Char) :=
  if top && rest.head? == some c then .ok ((c :: acc).reverse, true, rest.drop 1)
  else if top && c == '}' then .error "f-string: single '\x7d' is not allowed"
  else .ok (acc.reverse, false, c :: rest)

/-- The literal text at the front of an f-string body, up to a brace that starts a field or
ends a format specification: the text as written (so far reversed in `acc`), whether it
stopped at a doubled brace (the first kept, the second skipped), and the rest. A backslash
escape is taken whole, and a named escape with its braces. -/
def literalRun (raw top : Bool) : List Char -> List Char ->
    Except String (List Char × Bool × List Char)
  | acc, [] => .ok (acc.reverse, false, [])
  | acc, c :: rest =>
    if !raw && c == '\\' && !rest.isEmpty then
      match rest with
      | 'N' :: more =>
        match more with
        | '{' :: named =>
          let name := named.takeWhile (· != '}')
          let after := named.drop name.length
          let closed := after.take 1
          literalRun raw top (closed.reverse ++ name.reverse ++ ['{', 'N', '\\'] ++ acc)
            (after.drop 1)
        | d :: others => literalRun raw top (d :: 'N' :: '\\' :: acc) others
        | [] => literalRun raw top ('N' :: '\\' :: acc) []
      | d :: others =>
        if d == '{' || d == '}' then braceStop top ('\\' :: acc) d others
        else literalRun raw top (d :: '\\' :: acc) others
      | [] => .ok (('\\' :: acc).reverse, false, [])
    else if c == '{' || c == '}' then braceStop top acc c rest
    else literalRun raw top (c :: acc) rest
termination_by _ cs => cs.length
decreasing_by all_goals (simp only [List.length_drop, List.length_cons]; omega)

/-- What ends the scan of a field's expression. -/
structure ExprScan where
  /-- The expression's characters. -/
  chars : List Char
  /-- What follows it. -/
  rest : List Char

/-- Scan a field's expression up to a `!`, `:`, `}` or `=` outside brackets and strings
(`!=`, `==`, `<=` and `>=` do not end it). `quote` is the quote of an open string (with
three for a triple-quoted one), `stack` the open brackets. -/
def scanExpr : List Char -> Option (Char × Bool) -> List Char -> List Char ->
    Except String ExprScan
  | acc, quote, _, [] =>
    match quote with
    | some _ => .error "f-string: unterminated string"
    | none => .ok ⟨acc.reverse, []⟩
  | acc, quote, stack, c :: rest =>
    if c == '\\' then .error "f-string expression part cannot include a backslash"
    else match quote with
    | some (q, triple) =>
      if c == q then
        if triple then
          if rest.take 2 == [q, q] then scanExpr (q :: q :: c :: acc) none stack (rest.drop 2)
          else scanExpr (c :: acc) quote stack rest
        else scanExpr (c :: acc) none stack rest
      else scanExpr (c :: acc) quote stack rest
    | none =>
      if c == '\'' || c == '"' then
        if rest.take 2 == [c, c] then scanExpr (c :: c :: c :: acc) (some (c, true)) stack (rest.drop 2)
        else scanExpr (c :: acc) (some (c, false)) stack rest
      else if c == '[' || c == '{' || c == '(' then
        if stack.length ≥ 200 then .error "f-string: too many nested parenthesis"
        else scanExpr (c :: acc) none (c :: stack) rest
      else if c == '#' then .error "f-string expression part cannot include '#'"
      else if stack.isEmpty && (c == '!' || c == ':' || c == '}' || c == '=' || c == '>' || c == '<') then
        if rest.head? == some '=' && (c == '!' || c == '=' || c == '<' || c == '>') then
          scanExpr ('=' :: c :: acc) none stack (rest.drop 1)
        else if c == '>' || c == '<' then scanExpr (c :: acc) none stack rest
        else .ok ⟨acc.reverse, c :: rest⟩
      else if c == ']' || c == '}' || c == ')' then
        match stack with
        | [] => .error s!"f-string: unmatched '{c}'"
        | o :: more =>
          if (o == '(' && c == ')') || (o == '[' && c == ']') || (o == '{' && c == '}') then
            scanExpr (c :: acc) none more rest
          else .error s!"f-string: closing parenthesis '{c}' does not match opening parenthesis '{o}'"
      else scanExpr (c :: acc) none stack rest
termination_by _ _ _ cs => cs.length
decreasing_by all_goals (simp only [List.length_drop, List.length_cons]; omega)

/-- Whether a character is blank as the compiler skips it before an expression. -/
def isFieldBlank (c : Char) : Bool := c == ' ' || c == '\t' || c == '\n' || c == '\x0c'

/-- Whether a character is ASCII white space. -/
def isAsciiSpace (c : Char) : Bool :=
  c == ' ' || c == '\t' || c == '\n' || c == '\r' || c == '\x0b' || c == '\x0c'

/-- The number of line breaks among characters. -/
def lineBreaks (cs : List Char) : Nat := (cs.filter (· == '\n')).length

mutual

/-- Read f-string pieces up to the end of the body (at the top level) or to the closing
brace of a format specification (deeper), after `consumed` characters of the literal. The
pieces come as expressions: texts and fields. -/
def formatPieces (compile : FieldCompiler) (raw : Bool) (level : Nat) :
    Nat -> List Char -> Nat -> Except FormatError (List Expr × List Char)
  | 0, _, _ => .error (.literal "f-string: expecting '\x7d'")
  | fuel + 1, cs, consumed => do
    let (text, doubled, rest) <- (literalRun raw (level == 0) [] cs).mapError .literal
    let decoded <- if text.isEmpty then pure []
      else if raw then pure text
      else (unescapeText text).mapError .literal
    let textPart := if decoded.isEmpty then [] else [Expr.str (String.ofList decoded)]
    let consumed := consumed + (cs.length - rest.length)
    if doubled then
      let (more, after) <- formatPieces compile raw level fuel rest consumed
      return (textPart ++ more, after)
    match rest with
    | '{' :: _ =>
      let (field, after) <- formatField compile raw level fuel rest consumed
      let (more, after') <- formatPieces compile raw level fuel after
        (consumed + (rest.length - after.length))
      return (textPart ++ field ++ more, after')
    | _ => return (textPart, rest)

/-- Read one replacement field starting at its opening brace: its pieces (the text an `=`
shows, then the field) and what follows the closing brace. -/
def formatField (compile : FieldCompiler) (raw : Bool) (level : Nat) :
    Nat -> List Char -> Nat -> Except FormatError (List Expr × List Char)
  | 0, _, _ => .error (.literal "f-string: expecting '\x7d'")
  | fuel + 1, cs, consumed => do
    if level ≥ 2 then throw (.literal "f-string: expressions nested too deeply")
    let body := cs.drop 1
    let scan <- (scanExpr [] none [] body).mapError .literal
    let rest := scan.rest
    let terminator <- match rest with
      | t :: _ => pure t
      | [] => throw (.literal "f-string: expecting '\x7d'")
    if scan.chars.all isFieldBlank then
      if terminator == '!' || terminator == ':' || terminator == '=' then
        throw (.literal s!"f-string: expression required before '{terminator}'")
      throw (.literal "f-string: empty expression not allowed")
    let value <- (compile scan.chars (lineBreaks (cs.take (consumed + 1)) )).mapError .expression
    let (debug, rest) <- if terminator == '=' then
        let after := (rest.drop 1).dropWhile isAsciiSpace
        if after.isEmpty then throw (.literal "f-string: expecting '\x7d'")
        pure (some (body.take (body.length - after.length)), after)
      else pure (none, rest)
    let (conversion, rest) <- match rest with
      | '!' :: more =>
        match more with
        | [] => throw (.literal "f-string: expecting '\x7d'")
        | c :: after =>
          if c == 's' || c == 'r' || c == 'a' then pure (some c, after)
          else throw (.literal "f-string: invalid conversion character: expected 's', 'r', or 'a'")
      | _ => pure (none, rest)
    let (spec, rest) <- match rest with
      | ':' :: more =>
        if more.isEmpty then throw (.literal "f-string: expecting '\x7d'")
        let (pieces, after) <- formatPieces compile raw (level + 1) fuel more
          (consumed + (cs.length - more.length))
        if after.head? != some '}' then throw (.literal "f-string: expecting '\x7d'")
        pure (some (Expr.formatted pieces), after)
      | _ => pure (none, rest)
    match rest with
    | '}' :: after =>
      let conversion := if debug.isSome && spec.isNone && conversion.isNone then some 'r'
        else conversion
      let shown := match debug with
        | some d => [Expr.str (String.ofList d)]
        | none => []
      return (shown ++ [.formatField value conversion spec], after)
    | _ => throw (.literal "f-string: expecting '\x7d'")

end

/-- One text literal's value: a text, a byte string, or the pieces of an f-string. -/
inductive TextPart where
  | text (cs : List Char)
  | bytes (bs : List Nat)
  | formatted (pieces : List Expr)

/-- The value of one text literal, or the error of its body. -/
def textPart (compile : FieldCompiler) (literal : String) : Except FormatError TextPart :=
  let (pre, body) := splitTextLiteral literal
  let raw := pre.contains 'r'
  if pre.contains 'f' then
    match formatPieces compile raw 0 (body.length + 2) body 0 with
    | .ok (pieces, _) => .ok (.formatted pieces)
    | .error e => .error e
  else if pre.contains 'b' then
    if body.any (fun c => c.toNat ≥ 128) then
      .error (.literal "bytes can only contain ASCII literal characters")
    else if raw then .ok (.bytes (body.map Char.toNat))
    else ((unescapeBytes body 0).map .bytes).mapError .literal
  else if raw then .ok (.text body)
  else ((unescapeText body).map .text).mapError .literal

/-- Join adjacent text literals: texts and f-strings make a text (an f-string among them
makes an f-string of all the pieces), byte strings a byte string. -/
def joinTextParts : List TextPart -> Expr
  | [] => .str ""
  | parts =>
    let isBytes : TextPart -> Bool
      | .bytes _ => true
      | _ => false
    if parts.all isBytes then
      .bytes (parts.flatMap fun
        | .bytes bs => bs.map Nat.toUInt8
        | _ => [])
    else if parts.any (fun p => match p with | .formatted _ => true | _ => false) then
      .formatted (parts.flatMap fun
        | .text cs => if cs.isEmpty then [] else [.str (String.ofList cs)]
        | .formatted pieces => pieces
        | .bytes _ => [])
    else .str (String.ofList (parts.flatMap fun
      | .text cs => cs
      | _ => []))

end GraphProbe.Code
