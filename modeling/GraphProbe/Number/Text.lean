import GraphProbe.Number.Shortest
import GraphProbe.Text.Unicode

/-!
# Numbers as text

Writing: a double is written with its shortest digits (`shortestDigits`); a style record says
where positional notation ends, how the exponent looks and how the specials are spelled.
Integers are written in decimal with a leading minus sign.

Reading: an integer literal may carry blanks around it, one sign, digits of any script and
single underscores between digits. At most 4300 digits are read; a longer literal is refused.
-/

namespace GraphProbe.Number

/-- How doubles are written. -/
structure FloatStyle where
  /-- Text of a value that is not a number. -/
  nanText : String
  /-- Text of positive infinity; negative infinity gets a leading minus. -/
  infText : String
  deriving Inhabited

/-- Doubles in messages and literals: `nan`, `inf`. -/
def FloatStyle.literal : FloatStyle := ⟨"nan", "inf"⟩

/-- Doubles in JSON text: `NaN`, `Infinity`. -/
def FloatStyle.json : FloatStyle := ⟨"NaN", "Infinity"⟩

/-- Decimal text of a natural number. -/
def natText (n : Nat) : String := toString n

/-- Decimal text of an integer, with a leading minus when negative. -/
def intText (n : Int) : String :=
  if n < 0 then "-" ++ natText n.natAbs else natText n.natAbs

/-- Zeros. -/
private def zeros (n : Nat) : String := String.ofList (List.replicate n '0')

/-- The exponent part: `e`, a sign, at least two digits. -/
private def exponentText (e : Int) : String :=
  let body := natText e.natAbs
  let body := if body.length < 2 then "0" ++ body else body
  "e" ++ (if e < 0 then "-" else "+") ++ body

/-- The magnitude of a positive decimal: positional when the point falls after at most
sixteen digits and at most four zeros follow it; otherwise one digit, the rest after a
point, and an exponent. A positional whole number keeps `.0`. -/
def decimalText (d : Decimal) : String :=
  let s := natText d.digits
  let n := s.length
  -- the point stands after `point` digits: value = 0.s · 10^point
  let point : Int := n + d.exp
  if -4 < point && point ≤ 16 then
    if point ≤ 0 then "0." ++ zeros point.natAbs ++ s
    else if point.toNat < n then
      String.ofList (s.toList.take point.toNat) ++ "." ++ String.ofList (s.toList.drop point.toNat)
    else s ++ zeros (point.toNat - n) ++ ".0"
  else
    let head := String.ofList (s.toList.take 1)
    let rest := String.ofList (s.toList.drop 1)
    head ++ (if rest.isEmpty then "" else "." ++ rest) ++ exponentText (point - 1)

/-- Text of a double in the given style. -/
def floatText (style : FloatStyle) (x : Float) : String :=
  match classify x with
  | .nan => style.nanText
  | .infinite neg => (if neg then "-" else "") ++ style.infText
  | .finite b =>
    let sign := if b.negative then "-" else ""
    if b.mant == 0 then sign ++ "0.0"
    else sign ++ decimalText (shortestDigits b)

/-! ### Reading integer literals -/

/-- Why an integer literal was refused. -/
inductive IntTextError where
  /-- The text is no integer literal. -/
  | invalid
  /-- The literal has more digits than the reader accepts. -/
  | tooManyDigits (count : Nat)
  deriving BEq, Repr

/-- The most digits an integer literal may have. -/
def maxIntDigits : Nat := 4300

/-- Digits with single underscores between them: their values, or `none`. -/
def digitRun : List Char → Option (List Nat)
  | [] => none
  | [c] => (Text.digitValue? c).map ([·])
  | c :: '_' :: rest => do
    let v ← Text.digitValue? c
    let r ← digitRun rest
    pure (v :: r)
  | c :: d :: rest => do
    let v ← Text.digitValue? c
    let r ← digitRun (d :: rest)
    pure (v :: r)

/-- The value of a list of digit values, most significant first. -/
def digitsValue (ds : List Nat) : Nat := ds.foldl (fun acc d => 10 * acc + d) 0

/-- Drop blanks at both ends of a list of characters. -/
def trimBlanks (cs : List Char) : List Char :=
  ((cs.dropWhile Text.isBlank).reverse.dropWhile Text.isBlank).reverse

/-! ### Doubles from text -/

/-- The double nearest to `mant · 10^e`. Magnitudes far beyond the range of doubles are
decided without computing the power: above `10^310` the result is infinite, below
`10^-330` it is zero. -/
def ofDecimal (mant : Nat) (e : Int) : Float :=
  let size : Int := (Nat.toDigits 10 mant).length
  if mant == 0 then 0.0
  else if e + size > 310 then 1.0 / 0.0
  else if e + size < -330 then 0.0
  else if e < 0 then roundRatio mant (10 ^ e.natAbs)
  else roundBinary (mant * 10 ^ e.toNat) 0

/-- A double rounded to `places` decimal places: its exact value rounded to the nearest
multiple of `10^-places`, a tie to the even multiple, then the double nearest to that. -/
def roundPlaces (x : Float) (places : Nat) : Float :=
  match classify x with
  | .finite b =>
    let (num, den) :=
      if b.exp ≥ 0 then (b.mant * 2 ^ b.exp.toNat, 1) else (b.mant, 2 ^ (-b.exp).toNat)
    let scaled := num * 10 ^ places
    let q := scaled / den
    let r := scaled % den
    let n := if 2 * r > den || (2 * r == den && q % 2 == 1) then q + 1 else q
    let y := ofDecimal n (-(places : Int))
    if b.negative then -y else y
  | _ => x

/-- The blanks a number text may carry around it once other blanks became spaces. -/
def isAsciiBlank (c : Char) : Bool :=
  c == ' ' || c == '\t' || c == '\n' || c == '\r' || c == Char.ofNat 11 || c == Char.ofNat 12

/-- A number text with every blank made a space and every decimal digit of another script
made its ASCII digit; the first other character outside ASCII ends the text with `?`, which
no number admits. -/
def asciiNumberText : List Char → List Char
  | [] => []
  | c :: r =>
    if c.toNat < 127 then c :: asciiNumberText r
    else if Text.isBlank c then ' ' :: asciiNumberText r
    else match Text.digitValue? c with
      | some d => Char.ofNat ('0'.toNat + d) :: asciiNumberText r
      | none => ['?']

/-- Read a decimal integer literal: ASCII blanks around it, one optional sign, digits with
single underscores between them. Blanks and digits outside ASCII count as the ASCII space
and digit they stand for; a control character of ASCII is no blank. -/
def readInt (s : String) : Except IntTextError Int :=
  let cs := asciiNumberText s.toList
  let cs := ((cs.dropWhile isAsciiBlank).reverse.dropWhile isAsciiBlank).reverse
  let (neg, body) := match cs with
    | '-' :: r => (true, r)
    | '+' :: r => (false, r)
    | r => (false, r)
  match digitRun body with
  | none => .error .invalid
  | some ds =>
    if ds.length > maxIntDigits then .error (.tooManyDigits ds.length)
    else
      let v := digitsValue ds
      .ok (if neg then -(v : Int) else v)

/-- Remove the underscores of a number text, each of which must stand between two digits. -/
def dropUnderscores (cs : List Char) : Option (List Char) :=
  let rec go (prev : Char) : List Char → Option (List Char)
    | [] => if prev == '_' then none else some []
    | '_' :: r => if prev.isDigit then go '_' r else none
    | c :: r =>
      if prev == '_' && !c.isDigit then none
      else (go c r).map (c :: ·)
  go ' ' cs

/-- The special values of a double text, after the sign: `inf`, `infinity` and `nan` in any
case. -/
def specialValue? (cs : List Char) : Option Float :=
  match String.ofList (cs.map Char.toLower) with
  | "inf" | "infinity" => some (1.0 / 0.0)
  | "nan" => some (0.0 / 0.0)
  | _ => none

/-- Read a decimal double: digits with an optional point and fraction, at least one digit,
then an optional exponent. -/
def decimalValue? (cs : List Char) : Option Float :=
  let whole := cs.takeWhile Char.isDigit
  let rest := cs.drop whole.length
  let (frac, rest) := match rest with
    | '.' :: r => (r.takeWhile Char.isDigit, r.dropWhile Char.isDigit)
    | r => ([], r)
  if whole.isEmpty && frac.isEmpty then none else
  let expo : Option Int := match rest with
    | [] => some 0
    | e :: r =>
      if e != 'e' && e != 'E' then none else
      let (neg, ds) := match r with
        | '-' :: ds => (true, ds)
        | '+' :: ds => (false, ds)
        | ds => (false, ds)
      if ds.isEmpty || !ds.all Char.isDigit then none
      else
        let v : Int := digitsValue (ds.map fun d => d.toNat - '0'.toNat)
        some (if neg then -v else v)
  expo.map fun x =>
    ofDecimal (digitsValue ((whole ++ frac).map fun d => d.toNat - '0'.toNat)) (x - frac.length)

/-- Read a double from text: blanks around it, decimal digits of any script, single
underscores between digits, an optional sign, then a decimal number or `inf`, `infinity`,
`nan` in any case. The nearest double is taken; beyond the range it is infinite. -/
def readFloat (s : String) : Option Float := do
  let cs := asciiNumberText s.toList
  let cs := ((cs.dropWhile isAsciiBlank).reverse.dropWhile isAsciiBlank).reverse
  let cs ← if cs.contains '_' then dropUnderscores cs else some cs
  let (neg, body) := match cs with
    | '-' :: r => (true, r)
    | '+' :: r => (false, r)
    | r => (false, r)
  let x ← (specialValue? body).orElse fun _ => decimalValue? body
  pure (if neg then -x else x)

end GraphProbe.Number
