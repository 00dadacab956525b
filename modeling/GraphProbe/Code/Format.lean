import GraphProbe.Code.Arith
import GraphProbe.Number.Shortest
import GraphProbe.Text.CodePoint

/-!
# Format specifications

A format specification says how one value becomes text:
`[[fill]align][sign][z][#][0][width][grouping][.precision][type]`. Texts, integers, doubles
and complex numbers each read it their own way.

Doubles are written from the exact value of the double: the digits are the exact value
rounded, a tie to the even digit, to a number of significant digits (`e`, `g`) or of places
after the point (`f`), or the shortest digits that read back (`r`, the text of a double).
`layoutDigits` then places the point, pads with zeros and adds an exponent, by the same rule
for every type.
-/

namespace GraphProbe.Code

/-- A parsed format specification. -/
structure FormatSpec where
  fill : Nat := 0x20
  align : Option Char := none
  sign : Option Char := none
  noNegZero : Bool := false
  alternate : Bool := false
  width : Option Nat := none
  /-- `,` or `_` between groups of digits. -/
  grouping : Option Char := none
  precision : Option Nat := none
  type : Option Char := none
  deriving Inhabited

/-- Read a run of decimal digits: their value and the rest. -/
def readCount (cs : List Nat) : Option Nat × List Nat :=
  let ds := cs.takeWhile fun n => (Text.digitValue? (Char.ofNat n)).isSome
  let rest := cs.drop ds.length
  if ds.isEmpty then (none, rest)
  else (some (ds.foldl (fun acc n => 10 * acc + ((Text.digitValue? (Char.ofNat n)).getD 0)) 0), rest)

/-- Whether a code point is an alignment mark. -/
def isAlignMark (n : Nat) : Bool := n == 0x3C || n == 0x3E || n == 0x3D || n == 0x5E

/-- The text of a presentation type in messages. -/
def typeMark (c : Char) : String :=
  if c.toNat > 32 && c.toNat < 128 then c.toString else "\\x" ++ String.ofList (Nat.toDigits 16 c.toNat)

/-- Parse a format specification for a value of the named class, whose default alignment is
`defaultAlign`. -/
def FormatSpec.parse (spec : String) (defaultAlign : Char) (typeName : String) :
    Except Problem FormatSpec := do
  let all := Text.codes spec
  let mut cs := all
  let mut s : FormatSpec := {}
  let mut fillGiven := false
  match cs with
  | f :: a :: rest =>
    if isAlignMark a then
      s := { s with fill := f, align := some (Char.ofNat a) }
      fillGiven := true
      cs := rest
    else if isAlignMark f then
      s := { s with align := some (Char.ofNat f) }
      cs := a :: rest
  | [f] => if isAlignMark f then s := { s with align := some (Char.ofNat f) }; cs := []
  | [] => pure ()
  match cs with
  | n :: rest => if n == 0x2B || n == 0x2D || n == 0x20 then
      s := { s with sign := some (Char.ofNat n) }; cs := rest
  | [] => pure ()
  match cs with
  | 0x7A :: rest => s := { s with noNegZero := true }; cs := rest
  | _ => pure ()
  match cs with
  | 0x23 :: rest => s := { s with alternate := true }; cs := rest
  | _ => pure ()
  match cs with
  | 0x30 :: rest =>
    if !fillGiven then
      s := { s with fill := 0x30 }
      if s.align.isNone && defaultAlign == '>' then s := { s with align := some '=' }
      cs := rest
  | _ => pure ()
  let (w, rest) := readCount cs
  s := { s with width := w }
  cs := rest
  match cs with
  | 0x2C :: rest => s := { s with grouping := some ',' }; cs := rest
  | _ => pure ()
  match cs with
  | 0x5F :: rest =>
    if s.grouping.isSome then throw (.msg "ValueError" "Cannot specify both ',' and '_'.")
    s := { s with grouping := some '_' }; cs := rest
  | _ => pure ()
  match cs with
  | 0x2C :: _ =>
    if s.grouping == some '_' then throw (.msg "ValueError" "Cannot specify both ',' and '_'.")
  | _ => pure ()
  match cs with
  | 0x2E :: rest =>
    let (p, rest) := readCount rest
    match p with
    | none => throw (.msg "ValueError" "Format specifier missing precision")
    | some p => s := { s with precision := some p }; cs := rest
  | _ => pure ()
  match cs with
  | [] => pure ()
  | [t] => s := { s with type := some (Char.ofNat t) }
  | _ => throw (.msg "ValueError" s!"Invalid format specifier '{spec}' for object of type '{typeName}'")
  match s.grouping with
  | some g =>
    match s.type with
    | none => pure ()
    | some t =>
      if "defgEGF%".contains t then pure ()
      else if "boxX".contains t && g == '_' then pure ()
      else throw (.msg "ValueError" s!"Cannot specify '{g}' with '{typeMark t}'.")
  | none => pure ()
  return s

/-- The error of a type a class does not format with. -/
def unknownCode (t : Char) (typeName : String) : Problem :=
  .msg "ValueError" s!"Unknown format code '{typeMark t}' for object of type '{typeName}'"

/-- Pad a text to the width of a specification by its fill and alignment (`<`, `>`, `^`);
`=` pads between the sign-and-prefix part `lead` and the rest. -/
def padText (s : FormatSpec) (defaultAlign : Char) (lead body : String) : String :=
  let len := Text.codeLength lead + Text.codeLength body
  match s.width with
  | none => lead ++ body
  | some w =>
    if w ≤ len then lead ++ body else
    let pad := w - len
    let fill := String.join (List.replicate pad (Text.pointText s.fill))
    let fillN (k : Nat) := String.join (List.replicate k (Text.pointText s.fill))
    match s.align.getD defaultAlign with
    | '<' => lead ++ body ++ fill
    | '^' => fillN (pad / 2) ++ lead ++ body ++ fillN (pad - pad / 2)
    | '=' => lead ++ fill ++ body
    | _ => fill ++ lead ++ body

/-- Digits grouped from the right by `sep` every `size` digits, padded with zeros to at
least `minWidth` characters: a zero group is added while the width is short. -/
def groupDigits (digits : String) (sep : Char) (size : Nat) (minWidth : Nat) : String :=
  go digits.toList.reverse (minWidth : Int) true [] (digits.length + minWidth + 2)
where
  /-- Take groups from the reversed digits, `acc` holding the groups taken, leftmost
  first; at most `fuel` groups. -/
  go (rest : List Char) (minW : Int) (first : Bool) (acc : List Char) : Nat -> String
    | 0 => String.ofList acc
    | fuel + 1 =>
      let remaining : Int := rest.length
      let l : Int := min size (max (max remaining minW) 1)
      let zeros := (l - remaining).toNat
      let chars := (min remaining l).toNat
      let part := (rest.take chars).reverse
      let group := List.replicate zeros '0' ++ part ++ (if first then [] else [sep])
      let acc := group ++ acc
      let rest := rest.drop chars
      let minW := minW - l
      if rest.isEmpty && minW ≤ 0 then String.ofList acc
      else go rest (minW - 1) false acc fuel

/-- The sign part of a number: `-` when negative, else what the specification asks. -/
def signText (negative : Bool) (sign : Option Char) : String :=
  if negative then "-"
  else match sign with
    | some '+' => "+"
    | some ' ' => " "
    | _ => ""

/-- Write a number: its sign, prefix and digits, grouped and padded by the specification. -/
def placeNumber (s : FormatSpec) (negative : Bool) (pfx digits rest : String)
    (groupSize : Nat) : String :=
  let lead := signText negative s.sign ++ pfx
  let zeroFill := s.fill == 0x30 && s.align.getD '>' == '='
  let body :=
    match s.grouping with
    | some g =>
      let minWidth :=
        if zeroFill then (s.width.getD 0 - Text.codeLength lead - Text.codeLength rest) else 0
      groupDigits digits g groupSize minWidth ++ rest
    | none => digits ++ rest
  padText s '>' lead body

/-! ### Integers -/

/-- Digits of a natural number in a base, lower-case letters above nine. -/
def natDigits (base : Nat) (n : Nat) : String := String.ofList (Nat.toDigits base n)

/-- The decimal digits of an integer's magnitude, refused past 4300 digits. -/
def decimalDigits (n : Int) : Except Problem String :=
  if bitLength n > 14300 + 64 then
    .error (.msg "ValueError" "Exceeds the limit (4300 digits) for integer string conversion; use sys.set_int_max_str_digits() to increase the limit")
  else
    let s := natDigits 10 n.natAbs
    if s.length > 4300 then
      .error (.msg "ValueError" "Exceeds the limit (4300 digits) for integer string conversion; use sys.set_int_max_str_digits() to increase the limit")
    else .ok s

/-- The text of an integer: decimal, with a minus sign when negative. -/
def intText (n : Int) : Except Problem String := do
  let ds <- decimalDigits n
  pure (if n < 0 then "-" ++ ds else ds)

/-! ### Doubles -/

/-- The exponent `k` with `10^k ≤ n / d < 10^(k+1)`, for positive `n` and `d`. -/
def decimalExponent (n d : Nat) : Int :=
  let est : Int := ((Nat.log2 n : Int) - (Nat.log2 d : Int)) * 30103 / 100000
  let below (k : Int) : Bool :=
    -- 10^k ≤ n / d
    if k ≥ 0 then 10 ^ k.toNat * d ≤ n else d ≤ n * 10 ^ k.natAbs
  let k0 := est - 2
  let k1 := if below (k0 + 1) then k0 + 1 else k0
  let k2 := if below (k1 + 1) then k1 + 1 else k1
  let k3 := if below (k2 + 1) then k2 + 1 else k2
  let k4 := if below (k3 + 1) then k3 + 1 else k3
  if below (k4 + 1) then k4 + 1 else k4

/-- Divide naturals and round to nearest, a tie to the even quotient; `d` positive. -/
def roundDivNat (n d : Nat) : Nat :=
  let q := n / d
  let r := n % d
  if 2 * r > d || (2 * r == d && q % 2 == 1) then q + 1 else q

/-- The digits of a natural number without its trailing zeros, and how many were dropped. -/
def trimZeros (s : String) : String :=
  let cs := s.toList.reverse.dropWhile (· == '0')
  String.ofList cs.reverse

/-- The exact value of a positive finite double as a ratio of naturals. -/
def binaryRatio (b : Number.Binary) : Nat × Nat :=
  if b.exp ≥ 0 then (b.mant * 2 ^ b.exp.toNat, 1) else (b.mant, 2 ^ (-b.exp).toNat)

/-- Digits of a nonzero finite double rounded to `count` significant digits, trailing zeros
dropped, and the place of the point (the value is `0.digits · 10^point`). -/
def significantDigits (b : Number.Binary) (count : Nat) : String × Int :=
  let (n, d) := binaryRatio b
  let k := decimalExponent n d
  let shift : Int := (count : Int) - 1 - k
  let q := if shift ≥ 0 then roundDivNat (n * 10 ^ shift.toNat) d
    else roundDivNat n (d * 10 ^ shift.natAbs)
  let (q, k) := if q ≥ 10 ^ count then (q / 10, k + 1) else (q, k)
  (trimZeros (natDigits 10 q), k + 1)

/-- Digits of a finite double rounded to `places` places after the point, trailing zeros
dropped, and the place of the point; no digits when it rounds to zero. -/
def placeDigits (b : Number.Binary) (places : Nat) : String × Int :=
  let (n, d) := binaryRatio b
  let q := roundDivNat (n * 10 ^ places) d
  if q == 0 then ("", -(places : Int))
  else
    let s := natDigits 10 q
    (trimZeros s, (s.length : Int) - places)

/-- The shortest digits that read back as the double, and the place of the point. -/
def shortestText (b : Number.Binary) : String × Int :=
  let dec := Number.shortestDigits b
  let s := natDigits 10 dec.digits
  (s, (s.length : Int) + dec.exp)

/-- Place digits `0.digits · 10^point`: from the virtual digits padded with zeros on both
sides, the slice up to `vEnd`, with the point where it falls, an exponent when asked, and a
trailing point dropped unless the alternate form keeps it. -/
def layoutDigits (digits : String) (point : Int) (useExp : Bool) (vEnd : Int)
    (addDot0 alt : Bool) (expMark : Char) : String :=
  let dlen : Int := digits.length
  let (point, expo) := if useExp then ((1 : Int), point - 1) else (point, 0)
  let vStart : Int := if point ≤ 0 then point - 1 else 0
  let vEnd : Int :=
    if !useExp && addDot0 then max vEnd (point + 1) else max vEnd point
  let zeros (k : Int) := String.ofList (List.replicate k.toNat '0')
  let front :=
    if point ≤ 0 then zeros (point - vStart) ++ "." ++ zeros (0 - point)
    else zeros (0 - vStart)
  let middle :=
    if 0 < point && point ≤ dlen then
      String.ofList (digits.toList.take point.toNat) ++ "." ++
        String.ofList (digits.toList.drop point.toNat)
    else digits
  let back :=
    if dlen < point then zeros (point - dlen) ++ "." ++ zeros (vEnd - point)
    else zeros (vEnd - dlen)
  let text := front ++ middle ++ back
  let text := if text.endsWith "." && !alt then String.ofList text.toList.dropLast else text
  if useExp then
    let e := expo.natAbs
    let es := if e < 10 then "0" ++ toString e else toString e
    text ++ expMark.toString ++ (if expo < 0 then "-" else "+") ++ es
  else text

/-- Write a double by a type (`e`, `f`, `g`, `r`, upper case for capitals), a precision and
the flags: keep a point and zero on whole numbers (`addDot0`), the alternate form (`alt`),
and no sign on a negative zero (`noNegZero`). The magnitude's text and whether it is
negative. -/
def floatDigitsText (x : Float) (type : Char) (precision : Nat) (addDot0 alt noNegZero : Bool) :
    String × Bool :=
  let upper := type.isUpper
  let code := type.toLower
  match Number.classify x with
  | .nan => (if upper then "NAN" else "nan", false)
  | .infinite neg => (if upper then "INF" else "inf", neg)
  | .finite b =>
    let expMark := if upper then 'E' else 'e'
    let zero := b.mant == 0
    let text : String :=
      match code with
      | 'e' =>
        let count := precision + 1
        let (ds, pt) := if zero then ("0", 1) else significantDigits b count
        layoutDigits ds pt true count addDot0 alt expMark
      | 'f' =>
        let (ds, pt) := if zero then ("0", 1) else placeDigits b precision
        layoutDigits ds pt false (pt + precision) addDot0 alt expMark
      | 'g' =>
        let p := if precision == 0 then 1 else precision
        let (ds, pt) := if zero then ("0", 1) else significantDigits b p
        let useExp := pt ≤ -4 || pt > (if addDot0 then (p : Int) - 1 else p)
        let vEnd : Int := if alt then p else ds.length
        layoutDigits ds pt useExp vEnd addDot0 alt expMark
      | _ =>
        let (ds, pt) := if zero then ("0", 1) else shortestText b
        let useExp := pt ≤ -4 || pt > 16
        layoutDigits ds pt useExp ds.length addDot0 alt expMark
    let negative := b.negative && !(noNegZero && text.all fun c => c == '0' || c == '.')
    (text, negative)

/-- The text of a double as its literal shows it. -/
def floatRepr (x : Float) : String :=
  let (t, neg) := floatDigitsText x 'r' 0 true false false
  if neg then "-" ++ t else t

/-- The text of a double part of a complex number: no point and zero on whole numbers. -/
def floatShort (x : Float) : String :=
  let (t, neg) := floatDigitsText x 'r' 0 false false false
  if neg then "-" ++ t else t

/-- The text of a complex number: `1j`, or `(1+2j)` when the real part is no positive
zero. -/
def complexRepr (re im : Float) : String :=
  let imText := floatShort im
  if re == 0.0 && !signBit re then imText ++ "j"
  else
    let (it, ineg) := floatDigitsText im 'r' 0 false false false
    "(" ++ floatShort re ++ (if ineg then "-" else "+") ++ it ++ "j)"

/-! ### Values by specification -/

/-- Format a text. -/
def formatTextSpec (v : String) (s : FormatSpec) : Except Problem String := do
  match s.type with
  | none | some 's' => pure ()
  | some t => throw (unknownCode t "str")
  if s.sign.isSome then throw (.msg "ValueError" "Sign not allowed in string format specifier")
  if s.noNegZero then
    throw (.msg "ValueError" "Negative zero coercion (z) not allowed in string format specifier")
  if s.alternate then
    throw (.msg "ValueError" "Alternate form (#) not allowed in string format specifier")
  if s.align == some '=' then
    throw (.msg "ValueError" "'=' alignment not allowed in string format specifier")
  let v := match s.precision with
    | some p => Text.ofPoints ((Text.codes v).take p)
    | none => v
  pure (padText s '<' "" v)

/-- Format a double by a specification already parsed. -/
def formatFloatSpec (x : Float) (s : FormatSpec) (typeName : String := "float") :
    Except Problem String := do
  let t := s.type.getD '\x00'
  if !"eEfFgGn%\x00".contains t then throw (unknownCode t typeName)
  let addDot0 := t == '\x00'
  let code := if t == '\x00' then 'r' else if t == 'n' then 'g' else if t == '%' then 'f' else t
  let x := if t == '%' then x * 100.0 else x
  let (precision, code) := match s.precision with
    | some p => (p, if code == 'r' then 'g' else code)
    | none => (if code == 'r' then 0 else 6, code)
  let (text, neg) := floatDigitsText x code precision addDot0 s.alternate s.noNegZero
  let pct := if t == '%' then "%" else ""
  -- the digits before the point are grouped; the rest follows them
  let cut := text.toList.takeWhile Char.isDigit
  let rest := String.ofList (text.toList.drop cut.length) ++ pct
  pure (placeNumber s neg "" (String.ofList cut) rest 3)

/-- Format an integer by a specification already parsed. -/
def formatIntSpec (n : Int) (s : FormatSpec) (typeName : String := "int") :
    Except Problem String := do
  let t := s.type.getD 'd'
  if "eEfFgG%".contains t then
    let x <- intToFloat n
    return <- formatFloatSpec x s typeName
  if !"bcdoxXn".contains t then throw (unknownCode t typeName)
  if s.precision.isSome then
    throw (.msg "ValueError" "Precision not allowed in integer format specifier")
  if s.noNegZero then
    throw (.msg "ValueError" "Negative zero coercion (z) not allowed in integer format specifier")
  if t == 'c' then
    if s.sign.isSome then
      throw (.msg "ValueError" "Sign not allowed with integer format specifier 'c'")
    if s.alternate then
      throw (.msg "ValueError" "Alternate form (#) not allowed with integer format specifier 'c'")
    if n < 0 || n ≥ 0x110000 then throw (.msg "OverflowError" "%c arg not in range(0x110000)")
    return padText s '<' "" (Text.pointText n.toNat)
  let (base, pfx) := match t with
    | 'b' => (2, "0b")
    | 'o' => (8, "0o")
    | 'x' => (16, "0x")
    | 'X' => (16, "0X")
    | _ => (10, "")
  let digits <- if base == 10 then decimalDigits n else pure (natDigits base n.natAbs)
  let digits := if t == 'X' then digits.toUpper else digits
  let pfx := if s.alternate then pfx else ""
  let groupSize := if base == 10 then 3 else 4
  pure (placeNumber s (n < 0) pfx digits "" groupSize)

/-- Format a complex number by a specification already parsed. -/
def formatComplexSpec (re im : Float) (s : FormatSpec) : Except Problem String := do
  let t := s.type.getD '\x00'
  if !"eEfFgGn\x00".contains t then throw (unknownCode t "complex")
  if s.align == some '=' then
    throw (.msg "ValueError" "'=' alignment flag is not allowed in complex format specifier")
  if s.fill == 0x30 && s.align.isNone then
    throw (.msg "ValueError" "Zero padding is not allowed in complex format specifier")
  let plain := t == '\x00'
  let code := if plain then 'r' else if t == 'n' then 'g' else t
  let (precision, code) := match s.precision with
    | some p => (p, if code == 'r' then 'g' else code)
    | none => (if code == 'r' then 0 else 6, code)
  let skipRe := plain && re == 0.0 && !signBit re
  let (rt, rneg) := floatDigitsText re code precision false s.alternate s.noNegZero
  let (it, ineg) := floatDigitsText im code precision false s.alternate s.noNegZero
  let reText := if skipRe then "" else signText rneg s.sign ++ rt
  let imSign := if skipRe then signText ineg s.sign else (if ineg then "-" else "+")
  let body := reText ++ imSign ++ it ++ "j"
  let body := if plain && !skipRe then "(" ++ body ++ ")" else body
  pure (padText s '>' "" body)

end GraphProbe.Code
