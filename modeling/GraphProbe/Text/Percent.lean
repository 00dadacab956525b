import GraphProbe.Json.Writer

/-!
# Percent formats

A percent format is a text with directives `%[(key)][flags][width][.precision]conversion`
that take their values, in order, from a list of arguments, or by key from a mapping. Log
messages are written this way.

A directive converts one value:

* `s`, `r`, `a`: the value's text, its literal, its literal with non-ASCII characters escaped;
* `d`, `i`, `u`: an integer in decimal (a double is cut toward zero);
* `x`, `X`, `o`: an integer in hex or octal;
* `f`, `F`, `e`, `E`, `g`, `G`: a number as a double, rounded correctly to the precision;
* `c`: a character, from its code point or a one-character text;
* `%`: a percent sign, taking no value.

Flags: `-` aligns left, `0` pads numbers with zeros after the sign, `+` and a blank give
non-negative numbers a sign, `#` adds a base prefix or keeps a decimal point. `Percent.render`
gives the formatted text or the `PercentError` that stops it.
-/

namespace GraphProbe.Percent

/-- The arguments of a format: values taken in order, or a mapping taken by key. A mapping
used by a directive without a key is the single argument itself. -/
inductive Args where
  | positional (values : List Value)
  | mapping (fields : List (String × Value))

/-- Why a format does not fit its arguments. -/
inductive PercentError where
  /-- Fewer arguments than directives. -/
  | tooFewArguments
  /-- More arguments than directives. -/
  | unusedArguments
  /-- The text ends inside a directive. -/
  | incomplete
  /-- The text ends inside a key. -/
  | incompleteKey
  /-- A key was used with arguments that are no mapping. -/
  | needsMapping
  /-- A key the mapping does not hold. -/
  | missingKey (key : String)
  /-- An unknown conversion, with its position. -/
  | unsupported (c : Char) (index : Nat)
  /-- A star width or precision got a value that is no integer. -/
  | starNeedsInt
  /-- An integer conversion got a value that is no number. -/
  | needsReal (conv : Char) (kind : String)
  /-- A base conversion got a value that is no integer. -/
  | needsInteger (conv : Char) (kind : String)
  /-- A double conversion got a value that is no number. -/
  | needsFloat (kind : String)
  /-- A character conversion got neither an integer nor one character. -/
  | needsChar
  /-- A character conversion got a code point out of range. -/
  | charOutOfRange
  /-- A double that is not a number was converted to an integer. -/
  | nanToInteger
  /-- An infinite double was converted to an integer. -/
  | infinityToInteger
  /-- An integer too large for a double. -/
  | integerTooLarge
  /-- A written width beyond the largest size. -/
  | widthTooBig
  /-- A written precision beyond the largest precision. -/
  | precisionTooBig
  /-- A star width beyond the largest size. -/
  | starWidthOverflow
  /-- A star precision beyond the largest precision. -/
  | starPrecisionOverflow

/-- The kind of fault each error is reported as. -/
def PercentError.kind : PercentError → String
  | .incomplete | .incompleteKey | .unsupported .. | .nanToInteger | .widthTooBig
  | .precisionTooBig => "ValueError"
  | .missingKey _ => "KeyError"
  | .charOutOfRange | .infinityToInteger | .integerTooLarge | .starWidthOverflow
  | .starPrecisionOverflow => "OverflowError"
  | _ => "TypeError"

/-- The text of an error. -/
def PercentError.message : PercentError → String
  | .tooFewArguments => "not enough arguments for format string"
  | .unusedArguments => "not all arguments converted during string formatting"
  | .incomplete => "incomplete format"
  | .incompleteKey => "incomplete format key"
  | .needsMapping => "format requires a mapping"
  | .missingKey k => Text.quote k
  | .unsupported c i =>
    let n := Text.plainPoint c
    let code := String.ofList (Nat.toDigits 16 n)
    let shown := if 31 ≤ n && n ≤ 126 then c else '?'
    s!"unsupported format character '{shown}' (0x{code}) at index {i}"
  | .starNeedsInt => "* wants int"
  | .needsReal c k => s!"%{c} format: a real number is required, not {k}"
  | .needsInteger c k => s!"%{c} format: an integer is required, not {k}"
  | .needsFloat k => s!"must be real number, not {k}"
  | .needsChar => "%c requires int or char"
  | .charOutOfRange => "%c arg not in range(0x110000)"
  | .nanToInteger => "cannot convert float NaN to integer"
  | .infinityToInteger => "cannot convert float infinity to integer"
  | .integerTooLarge => "int too large to convert to float"
  | .widthTooBig => "width too big"
  | .precisionTooBig => "precision too big"
  | .starWidthOverflow => "Python int too large to convert to C ssize_t"
  | .starPrecisionOverflow => "Python int too large to convert to C int"

/-! ### Directives -/

/-- The flags of a directive. -/
structure Flags where
  left : Bool := false
  zero : Bool := false
  plus : Bool := false
  blank : Bool := false
  alternate : Bool := false

/-- One directive, its star sizes already taken from the arguments: the key, the flags, the
width (0 when absent), the precision and the conversion. -/
structure Directive where
  key : Option String
  flags : Flags
  width : Nat
  precision : Option Nat
  conv : Char

/-- Read the flags at the front of a directive. -/
def readFlags (f : Flags) : List Char → Flags × List Char
  | '-' :: r => readFlags { f with left := true } r
  | '0' :: r => readFlags { f with zero := true } r
  | '+' :: r => readFlags { f with plus := true } r
  | ' ' :: r => readFlags { f with blank := true } r
  | '#' :: r => readFlags { f with alternate := true } r
  | r => (f, r)

/-- Read a key up to its closing parenthesis, nested parentheses included. -/
def readKey (depth : Nat) (acc : List Char) : List Char → Option (String × List Char)
  | [] => none
  | ')' :: r =>
    if depth == 0 then some (String.ofList acc.reverse, r)
    else readKey (depth - 1) (')' :: acc) r
  | '(' :: r => readKey (depth + 1) ('(' :: acc) r
  | c :: r => readKey depth (c :: acc) r

/-- The largest width: the largest signed machine size. -/
def widthLimit : Nat := 2 ^ 63 - 1

/-- The largest precision: the largest signed machine integer. -/
def precisionLimit : Nat := 2 ^ 31 - 1

/-- Read written digits into a size, failing with `tooBig` once the next digit would pass
`limit`. -/
def readDigits (limit : Nat) (tooBig : PercentError) :
    Nat → List Char → Except PercentError (Nat × List Char)
  | acc, c :: r =>
    if c.isDigit then
      let d := c.toNat - '0'.toNat
      if acc > (limit - d) / 10 then .error tooBig
      else readDigits limit tooBig (acc * 10 + d) r
    else .ok (acc, c :: r)
  | acc, [] => .ok (acc, [])

/-! ### Numbers -/


/-- `num / den` rounded to the nearest integer, ties to even. -/
def roundHalfEven (num den : Nat) : Nat :=
  let q := num / den
  let r := num % den
  if 2 * r > den || (2 * r == den && q % 2 == 1) then q + 1 else q

/-- A double's magnitude as a fraction `num / den` with `den` a power of two. -/
def fraction (b : Number.Binary) : Nat × Nat :=
  if b.exp ≥ 0 then (b.mant * 2 ^ b.exp.toNat, 1) else (b.mant, 2 ^ (-b.exp).toNat)

/-- The digits of `num / den` with `p` places after the point, rounded correctly. -/
def fixedDigits (num den p : Nat) : String :=
  let n := roundHalfEven (num * 10 ^ p) den
  let ds := (Nat.toDigits 10 n)
  let ds := List.replicate (p + 1 - ds.length) '0' ++ ds
  let whole := ds.take (ds.length - p)
  let frac := ds.drop (ds.length - p)
  String.ofList whole ++ (if p == 0 then "" else "." ++ String.ofList frac)

/-- The decimal exponent of `num / den > 0`: the `d` with `10^d ≤ num/den < 10^(d+1)`. -/
def decimalExponent (num den : Nat) : Int :=
  if num ≥ den then ((Nat.toDigits 10 (num / den)).length : Int) - 1
  else -(go 1 (num * 10) 400)
where
  /-- The least `k` with `num·10^k ≥ den`. -/
  go (k : Nat) (scaled : Nat) : Nat → Nat
    | 0 => k
    | fuel + 1 => if scaled ≥ den then k else go (k + 1) (scaled * 10) fuel

/-- `num / den` rounded to `p + 1` significant digits: the digits and the exponent. -/
def significant (num den p : Nat) : Nat × Int :=
  if num == 0 then (0, 0) else
  let d := decimalExponent num den
  let shift : Int := (p : Int) - d
  let n := if shift ≥ 0 then roundHalfEven (num * 10 ^ shift.toNat) den
    else roundHalfEven num (den * 10 ^ (-shift).toNat)
  if n ≥ 10 ^ (p + 1) then (n / 10, d + 1) else (n, d)

/-- The exponent part of a scientific text: a sign and at least two digits. -/
def exponentPart (upper : Bool) (e : Int) : String :=
  let ds := Nat.toDigits 10 e.natAbs
  let ds := if ds.length < 2 then '0' :: ds else ds
  (if upper then "E" else "e") ++ (if e < 0 then "-" else "+") ++ String.ofList ds

/-- Scientific digits of `num / den` with `p` places after the point. -/
def scientificDigits (num den p : Nat) (alternate upper : Bool) : String :=
  let (n, e) := significant num den p
  let ds := Nat.toDigits 10 n
  let ds := List.replicate (p + 1 - ds.length) '0' ++ ds
  let head := String.ofList (ds.take 1)
  let rest := String.ofList (ds.drop 1)
  let point := if p == 0 && !alternate then "" else "."
  head ++ point ++ rest ++ exponentPart upper e

/-- Drop trailing zeros after a point, and the point when nothing follows it. -/
def trimFraction (s : String) : String :=
  if !s.toList.contains '.' then s else
  let cs := (s.toList.reverse.dropWhile (· == '0'))
  let cs := match cs with
    | '.' :: r => r
    | r => r
  String.ofList cs.reverse

/-- General digits of `num / den` with `p` significant digits. -/
def generalDigits (num den p : Nat) (alternate upper : Bool) : String :=
  let p := if p == 0 then 1 else p
  let (_, x) := significant num den (p - 1)
  if -4 ≤ x && x < p then
    let s := fixedDigits num den (p - 1 - x).toNat
    if alternate then s else trimFraction s
  else
    let s := scientificDigits num den (p - 1) alternate upper
    if alternate then s else
    -- trim the mantissa only
    let mant := s.toList.takeWhile (fun c => c != 'e' && c != 'E')
    let expo := s.toList.drop mant.length
    trimFraction (String.ofList mant) ++ String.ofList expo

/-! ### Conversions -/

/-- A value as a double, for the double conversions. -/
def asFloat : Value → Except PercentError Float
  | .float x => pure x
  | .int n =>
    if n.natAbs ≥ 2 ^ 1024 - 2 ^ 970 then throw .integerTooLarge
    else pure (Number.floatOfInt n)
  | .bool b => pure (if b then 1.0 else 0.0)
  | v => throw (.needsFloat v.kindName)

/-- A value as an integer, for the decimal conversions. -/
def asInteger (conv : Char) : Value → Except PercentError Int
  | .int n => pure n
  | .bool b => pure (if b then 1 else 0)
  | .float x =>
    match Number.classify x with
    | .nan => throw .nanToInteger
    | .infinite _ => throw .infinityToInteger
    | .finite b =>
      let (num, den) := fraction b
      let m : Int := num / den
      pure (if b.negative then -m else m)
  | v => throw (.needsReal conv v.kindName)

/-- The text of a signed body: the sign chosen by the flags. -/
def signFor (f : Flags) (negative : Bool) : String :=
  if negative then "-" else if f.plus then "+" else if f.blank then " " else ""

/-- Pad a converted value to a width. Numbers padded with zeros put them after the sign and
the prefix. -/
def pad (f : Flags) (width : Nat) (numeric : Bool) (sign pfx body : String) : String :=
  let len := sign.length + pfx.length + Text.codeLength body
  if len ≥ width then sign ++ pfx ++ body
  else
    let fill := width - len
    if f.left then sign ++ pfx ++ body ++ String.ofList (List.replicate fill ' ')
    else if f.zero && numeric then sign ++ pfx ++ String.ofList (List.replicate fill '0') ++ body
    else String.ofList (List.replicate fill ' ') ++ sign ++ pfx ++ body

/-- A literal with non-ASCII characters escaped. -/
def asciiLiteral (s : String) : String :=
  String.join ((Text.codes s).map fun n =>
    if n < 0x80 then Text.pointText n
    else if n < 0x100 then "\\x" ++ Text.hexPadded 2 n
    else if n < 0x10000 then "\\u" ++ Text.hexPadded 4 n
    else "\\U" ++ Text.hexPadded 8 n)

/-- The text of a double conversion. -/
def floatBody (f : Flags) (precision : Option Nat) (conv : Char) (x : Float) : Bool × String :=
  let upper := conv == 'F' || conv == 'E' || conv == 'G'
  match Number.classify x with
  | .nan => (false, if upper then "NAN" else "nan")
  | .infinite neg => (neg, if upper then "INF" else "inf")
  | .finite b =>
    let (num, den) := fraction b
    let p := precision.getD 6
    let body :=
      if conv == 'f' || conv == 'F' then
        let s := fixedDigits num den p
        if f.alternate && p == 0 then s ++ "." else s
      else if conv == 'e' || conv == 'E' then scientificDigits num den p f.alternate upper
      else generalDigits num den p f.alternate upper
    (b.negative, body)

/-- Convert one value by a directive. -/
def convert (d : Directive) (v : Value) : Except PercentError String := do
  let f := d.flags
  let width := d.width
  let precision := d.precision
  match d.conv with
  | 's' | 'r' | 'a' =>
    let text := match d.conv with
      | 's' => v.display
      | 'r' => v.literal
      | _ => asciiLiteral v.literal
    let text := match precision with
      | some p => Text.ofPoints ((Text.codes text).take p)
      | none => text
    pure (pad f width false "" "" text)
  | 'd' | 'i' | 'u' =>
    let n ← asInteger d.conv v
    let ds := Nat.toDigits 10 n.natAbs
    let ds := match precision with
      | some p => List.replicate (p - ds.length) '0' ++ ds
      | none => ds
    pure (pad f width true (signFor f (n < 0)) "" (String.ofList ds))
  | 'x' | 'X' | 'o' =>
    let n ← match v with
      | .int n => pure n
      | .bool b => pure (if b then (1 : Int) else 0)
      | w => throw (PercentError.needsInteger d.conv w.kindName)
    let base := if d.conv == 'o' then 8 else 16
    let ds := Nat.toDigits base n.natAbs
    let ds := if d.conv == 'X' then ds.map Char.toUpper else ds
    let ds := match precision with
      | some p => List.replicate (p - ds.length) '0' ++ ds
      | none => ds
    let pfx := if !f.alternate then "" else s!"0{d.conv}"
    pure (pad f width true (signFor f (n < 0)) pfx (String.ofList ds))
  | 'f' | 'F' | 'e' | 'E' | 'g' | 'G' =>
    let x ← asFloat v
    let (neg, body) := floatBody f precision d.conv x
    pure (pad f width true (signFor f neg) "" body)
  | 'c' =>
    let c ← match v with
      | .str s =>
        match Text.codes s with
        | [n] => pure (Text.pointText n)
        | _ => throw PercentError.needsChar
      | .int n =>
        if n < 0 || n ≥ 0x110000 then throw PercentError.charOutOfRange
        else pure (Text.pointText n.toNat)
      | .bool b => pure (Text.pointText (if b then 1 else 0))
      | _ => throw PercentError.needsChar
    pure (pad f width false "" "" c)
  | c => throw (.unsupported c 0)

/-! ### Rendering -/

/-- Where the next value comes from: the remaining positional values, or the single
argument not yet taken (`none` once taken). A key replaces the supply by the value it
names. -/
inductive Supply where
  | values (rest : List Value)
  | single (arg : Option Value)

/-- Take the next value. -/
def Supply.next : Supply → Except PercentError (Value × Supply)
  | .values (v :: rest) => pure (v, .values rest)
  | .values [] => throw .tooFewArguments
  | .single (some v) => pure (v, .single none)
  | .single none => throw .tooFewArguments

/-- The integer of a star size: integers and booleans only. -/
def starValue : Value → Except PercentError Int
  | .int n => pure n
  | .bool b => pure (if b then 1 else 0)
  | _ => throw .starNeedsInt

/-- Read a directive after its `%`, taking the values that a key or a star asks for on the
way: the directive, the rest of the format and the supply after it. The text ending before
the conversion is an incomplete format, reported only after the values taken so far. -/
def readDirective (mapping : Option (List (String × Value))) (cs : List Char) (s : Supply) :
    Except PercentError (Directive × List Char × Supply) := do
  let (key, cs, s) ← match cs with
    | '(' :: r =>
      match mapping with
      | none => throw PercentError.needsMapping
      | some fs =>
        match readKey 0 [] r with
        | none => throw PercentError.incompleteKey
        | some (k, rest) =>
          match fs.lookup k with
          | some v => pure (some k, rest, Supply.single (some v))
          | none => throw (PercentError.missingKey k)
    | r => pure (none, r, s)
  let (flags, cs) := readFlags {} cs
  let (flags, width, cs, s) ← match cs with
    | '*' :: r => do
      let (v, s) ← s.next
      let n ← starValue v
      if n.natAbs > widthLimit then throw PercentError.starWidthOverflow
      let flags := if n < 0 then { flags with left := true } else flags
      pure (flags, n.natAbs, r, s)
    | r => do
      let (w, r) ← readDigits widthLimit .widthTooBig 0 r
      pure (flags, w, r, s)
  let (precision, cs, s) ← match cs with
    | '.' :: '*' :: r => do
      let (v, s) ← s.next
      let n ← starValue v
      if n > precisionLimit || n < -(precisionLimit + 1 : Int) then
        throw PercentError.starPrecisionOverflow
      pure (some n.toNat, r, s)
    | '.' :: r => do
      let (p, r) ← readDigits precisionLimit .precisionTooBig 0 r
      pure (some p, r, s)
    | r => pure (none, r, s)
  let cs := match cs with
    | 'h' :: r | 'l' :: r | 'L' :: r => r
    | r => r
  match cs with
  | [] => throw PercentError.incomplete
  | c :: rest => pure (⟨key, flags, width, precision, c⟩, rest, s)

/-- Render the rest `cs` of a format at position `pos`, with values from the supply. A `%`
right after a `%` is a percent sign; any other directive takes a value. -/
def renderFrom (mapping : Option (List (String × Value))) :
    Nat → List Char → Nat → Supply → Except PercentError (String × Supply)
  | 0, _, _, s => pure ("", s)
  | _, [], _, s => pure ("", s)
  | fuel + 1, '%' :: '%' :: cs, pos, s => do
    let (tail, s) ← renderFrom mapping fuel cs (pos + 2) s
    return ("%" ++ tail, s)
  | fuel + 1, '%' :: cs, pos, s => do
    let (d, rest, s) ← readDirective mapping cs s
    let convPos := pos + (Text.points (cs.take (cs.length - rest.length))).length
    let (v, s) ← s.next
    let text ← match convert d v with
      | .error (.unsupported c _) => throw (PercentError.unsupported c convPos)
      | r => r
    let (tail, s) ← renderFrom mapping fuel rest (convPos + 1) s
    return (text ++ tail, s)
  | fuel + 1, c :: cs, pos, s => do
    let (lit, cs) := if c == Text.escapeMark then (c :: cs.take 1, cs.drop 1) else ([c], cs)
    let (tail, s) ← renderFrom mapping fuel cs (pos + 1) s
    return (String.ofList lit ++ tail, s)

/-- Render a format with its arguments. -/
def render (format : String) (args : Args) : Except PercentError String := do
  let cs := format.toList
  match args with
  | .positional vs =>
    let (text, s) ← renderFrom none (cs.length + 1) cs 0 (.values vs)
    match s with
    | .values (_ :: _) => throw .unusedArguments
    | _ => pure text
  | .mapping fs =>
    let (text, _) ← renderFrom (some fs) (cs.length + 1) cs 0 (.single (some (.obj fs)))
    pure text

end GraphProbe.Percent
