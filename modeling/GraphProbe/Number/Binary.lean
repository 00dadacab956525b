/-!
# Binary64 values as exact numbers

A double is either not a number, an infinity, or a finite value `± mant · 2^exp` with a
natural mantissa. This module reads those parts off the bit pattern and compares finite
doubles and integers exactly, the way numbers of different kinds are compared in the kit:
by value, never by first rounding one side.

Everything here works on `Nat` and `Int`, so the comparisons are exact for every input.
-/

namespace GraphProbe.Number

/-- Powers by a natural exponent, a literal one too, are the core ones (`Nat.pow`,
`Int.pow`), also where a library that puts monoid powers in scope is imported alongside. -/
@[default_instance 20000]
instance (priority := 2000) corePow {α : Type} [NatPow α] : Pow α Nat := instPowNat

/-- A product `num · 2^pow2 · 10^pow10` of a natural number and powers of two and ten. -/
structure Scaled where
  num : Nat
  pow2 : Int
  pow10 : Int

namespace Scaled

/-- Multiply out the powers that a comparison moves to the other side. -/
private def lift (n : Nat) (d2 d10 : Int) : Nat :=
  n * 2 ^ d2.toNat * 10 ^ d10.toNat

/-- Exact order of two scaled numbers: each negative power difference is carried to the
other side as a positive one, so only natural products are compared. -/
def compare (a b : Scaled) : Ordering :=
  let d2 := a.pow2 - b.pow2
  let d10 := a.pow10 - b.pow10
  Ord.compare (lift a.num d2 d10) (lift b.num (-d2) (-d10))

end Scaled

/-- The parts of a finite double: `(-1)^negative · mant · 2^exp`. -/
structure Binary where
  negative : Bool
  mant : Nat
  exp : Int
  /-- Whether the gap to the next smaller double is half the gap to the next larger one:
  the mantissa is a power of two and a smaller exponent exists. -/
  narrowBelow : Bool

/-- What a double is. -/
inductive FloatKind where
  | nan
  | infinite (negative : Bool)
  | finite (b : Binary)

/-- Read the kind and parts of a double off its bit pattern. -/
def classify (x : Float) : FloatKind :=
  let bits := x.toBits.toNat
  let negative := bits / 2 ^ 63 == 1
  let biased : Nat := (bits / 2 ^ 52) % 2048
  let frac : Nat := bits % 2 ^ 52
  if biased == 2047 then
    if frac == 0 then .infinite negative else .nan
  else if biased == 0 then
    .finite ⟨negative, frac, -1074, false⟩
  else
    .finite ⟨negative, frac + 2 ^ 52, (biased : Int) - 1075, frac == 0 && biased > 1⟩

/-- Whether a double is finite. -/
def isFinite (x : Float) : Bool :=
  match classify x with
  | .finite _ => true
  | _ => false

/-- Whether a double is not a number. -/
def isNaN (x : Float) : Bool :=
  match classify x with
  | .nan => true
  | _ => false

/-- The exact value of a finite double as a sign and a scaled magnitude. -/
def Binary.magnitude (b : Binary) : Scaled := ⟨b.mant, b.exp, 0⟩

/-- Exact order of an integer and a finite double. -/
def compareIntBinary (n : Int) (b : Binary) : Ordering :=
  let bneg := b.negative && b.mant != 0
  if n < 0 && !bneg then .lt
  else if n ≥ 0 && bneg then
    -- a negative double is below every natural number, and -0.0 equals 0
    .gt
  else if n < 0 then
    -- both negative: the larger magnitude is the smaller number
    Scaled.compare b.magnitude ⟨n.natAbs, 0, 0⟩
  else
    Scaled.compare ⟨n.natAbs, 0, 0⟩ b.magnitude

/-- Exact order of an integer and a double, `none` when the double is not a number. -/
def compareIntFloat (n : Int) (x : Float) : Option Ordering :=
  match classify x with
  | .nan => none
  | .infinite neg => some (if neg then .gt else .lt)
  | .finite b => some (compareIntBinary n b)

/-- Exact order of two doubles, `none` when either is not a number. -/
def compareFloat (x y : Float) : Option Ordering :=
  if isNaN x || isNaN y then none
  else if x < y then some .lt
  else if x == y then some .eq
  else some .gt

/-- Whether an integer and a double have the same value. -/
def intEqFloat (n : Int) (x : Float) : Bool :=
  compareIntFloat n x == some .eq

/-- The double nearest to `m · 2^e`, ties to the even mantissa: the bits below the last one
a double keeps (53 significant bits, none below `2^-1074`) are dropped, and the rest goes up
by one when what was dropped is more than half a unit, or exactly half with an odd rest.
Beyond the range of doubles the result is infinite. -/
def roundBinary (m : Nat) (e : Int) : Float :=
  if m == 0 then 0.0 else
  let top : Int := (Nat.log2 m : Int) + e
  let low : Int := max (top - 52) (-1074)
  let drop : Int := low - e
  let kept : Nat :=
    if drop ≤ 0 then m * 2 ^ drop.natAbs
    else
      let k := drop.toNat
      let q := m / 2 ^ k
      let r := m % 2 ^ k
      let half := 2 ^ (k - 1)
      if r > half || (r == half && q % 2 == 1) then q + 1 else q
  if top > 1100 then 1.0 / 0.0 else (Float.ofNat kept).scaleB low

/-- The double nearest to the quotient `n / d` of natural numbers, `d` not zero: the
quotient is taken with at least 55 significant bits and a sticky bit for a remainder, which
`roundBinary` then rounds once. -/
def roundRatio (n d : Nat) : Float :=
  if n == 0 || d == 0 then 0.0 else
  let shift : Nat := 55 + Nat.log2 d - Nat.log2 n
  let scaled := n * 2 ^ shift
  let q := scaled / d
  let sticky := if scaled % d == 0 then 0 else 1
  roundBinary (2 * q + sticky) (-(shift : Int) - 1)

/-- The double nearest to an integer, ties to the even mantissa. -/
def floatOfInt (n : Int) : Float :=
  let x := roundBinary n.natAbs 0
  if n < 0 then -x else x

/-- The double nearest to the quotient of two integers, ties to the even mantissa; the
divisor is not zero. The quotient is formed exactly and rounded once. -/
def floatOfRatio (n : Int) (d : Nat) : Float :=
  let x := roundRatio n.natAbs d
  if n < 0 then -x else x

/-- The hex form of a double, as `float.hex` writes it: the sign, `0x`, the leading bit (0
for a subnormal), a point, the 52 bits of the fraction in 13 hex digits, and the binary
exponent. -/
def floatHex (x : Float) : String :=
  let bits := x.toBits.toNat
  let sign := if bits / 2 ^ 63 == 1 then "-" else ""
  let biased : Nat := (bits / 2 ^ 52) % 2048
  let frac : Nat := bits % 2 ^ 52
  if biased == 2047 then (if frac == 0 then sign ++ "inf" else "nan")
  else if biased == 0 && frac == 0 then sign ++ "0x0.0p+0"
  else
    let (lead, e) : String × Int :=
      if biased == 0 then ("0", -1022) else ("1", (biased : Int) - 1023)
    let expText := if e ≥ 0 then s!"+{e}" else s!"{e}"
    let digits := Nat.toDigits 16 frac
    let padded := String.ofList (List.replicate (13 - digits.length) '0' ++ digits)
    sign ++ "0x" ++ lead ++ "." ++ padded ++ "p" ++ expText

/-- The value of a hex digit. -/
def hexDigitValue? (c : Char) : Option Nat :=
  if '0' ≤ c && c ≤ '9' then some (c.toNat - 48)
  else if 'a' ≤ c && c ≤ 'f' then some (c.toNat - 87)
  else if 'A' ≤ c && c ≤ 'F' then some (c.toNat - 55)
  else none

/-- The double a hex form stands for, as `float.fromhex` reads it: blanks around it, a sign,
`inf`, `infinity` or `nan` in any case, or hex digits with an optional `0x`, an optional
point and an optional binary exponent after `p`; the value rounded once to the nearest
double. -/
def floatOfHex? (s : String) : Option Float := do
  let cs := (s.toList.dropWhile Char.isWhitespace).reverse.dropWhile Char.isWhitespace |>.reverse
  let (negative, cs) := match cs with
    | '-' :: rest => (true, rest)
    | '+' :: rest => (false, rest)
    | rest => (false, rest)
  let signed (x : Float) : Float := if negative then -x else x
  let word := String.ofList (cs.map Char.toLower)
  if word == "inf" || word == "infinity" then return signed (1.0 / 0.0)
  if word == "nan" then return (0.0 / 0.0)
  let cs := match cs with
    | '0' :: 'x' :: rest | '0' :: 'X' :: rest => rest
    | rest => rest
  let whole := cs.takeWhile fun c => (hexDigitValue? c).isSome
  let cs := cs.drop whole.length
  let (fraction, cs) := match cs with
    | '.' :: rest =>
      let f := rest.takeWhile fun c => (hexDigitValue? c).isSome
      (f, rest.drop f.length)
    | rest => ([], rest)
  if whole.isEmpty && fraction.isEmpty then none
  let exp : Int ← match cs with
    | [] => some 0
    | c :: rest =>
      if c != 'p' && c != 'P' then none
      else
        let (neg, ds) := match rest with
          | '-' :: ds => (true, ds)
          | '+' :: ds => (false, ds)
          | ds => (false, ds)
        if ds.isEmpty || !ds.all Char.isDigit then none
        let n : Nat := ds.foldl (fun a d => 10 * a + (d.toNat - 48)) 0
        some (if neg then -(n : Int) else n)
  let mant := (whole ++ fraction).foldl (fun a d => 16 * a + (hexDigitValue? d).getD 0) 0
  return signed (roundBinary mant (exp - 4 * fraction.length))

end GraphProbe.Number
