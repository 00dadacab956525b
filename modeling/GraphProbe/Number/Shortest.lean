import GraphProbe.Number.Binary

/-!
# Shortest decimal digits of a double

A positive finite double `v = mant · 2^exp` is read back from a decimal text when the text's
value lies in the *rounding interval* of `v`: the reals halfway to the neighbouring doubles,
the ends included exactly when `mant` is even (ties go to the even mantissa).

`shortestDigits` returns the decimal `d · 10^k` with the fewest significant digits in that
interval, and of two such decimals the one nearer to `v` (an exact tie goes to the even `d`).
It tries one digit, then two, and so on: on the grid of `n`-digit decimals only the two
neighbours of `v` can be candidates, because the interval is convex and holds `v`. At 17
digits a neighbour always lies in the interval, so the search stops by then.
-/

namespace GraphProbe.Number

/-- Decimal digits and exponent: the value `digits · 10^exp`. -/
structure Decimal where
  digits : Nat
  exp : Int
  deriving BEq, Repr

/-- Remove trailing zeros from the digits, raising the exponent to keep the value. -/
def Decimal.trim (d : Decimal) : Decimal :=
  go d.digits d.exp d.digits
where
  /-- At most `fuel` zeros are removed; the digit count bounds them. -/
  go (digits : Nat) (exp : Int) : Nat → Decimal
    | 0 => ⟨digits, exp⟩
    | fuel + 1 =>
      if digits != 0 && digits % 10 == 0 then go (digits / 10) (exp + 1) fuel
      else ⟨digits, exp⟩

/-- The rounding interval of a positive finite double, on the scale `2^(exp-2)`. -/
structure RoundingInterval where
  lo : Nat
  mid : Nat
  hi : Nat
  scale : Int
  inclusive : Bool

/-- The rounding interval: halfway to each neighbour, closer below when the gap below is
narrower. -/
def Binary.interval (b : Binary) : RoundingInterval :=
  let mid := 4 * b.mant
  { lo := if b.narrowBelow then mid - 1 else mid - 2
    mid := mid
    hi := mid + 2
    scale := b.exp - 2
    inclusive := b.mant % 2 == 0 }

namespace RoundingInterval

/-- The point `c · 10^k` as a scaled number. -/
private def point (c : Nat) (k : Int) : Scaled := ⟨c, 0, k⟩

/-- Whether `c · 10^k` lies in the interval. -/
def contains (r : RoundingInterval) (c : Nat) (k : Int) : Bool :=
  let p := point c k
  let lowOk := match Scaled.compare p ⟨r.lo, r.scale, 0⟩ with
    | .gt => true
    | .eq => r.inclusive
    | .lt => false
  let highOk := match Scaled.compare p ⟨r.hi, r.scale, 0⟩ with
    | .lt => true
    | .eq => r.inclusive
    | .gt => false
  lowOk && highOk

end RoundingInterval

/-- `⌊(mant · 2^exp) / 10^k⌋` for a natural mantissa. -/
def floorScaled (mant : Nat) (exp k : Int) : Nat :=
  let num := mant * 2 ^ exp.toNat * 10 ^ (-k).toNat
  let den := 2 ^ (-exp).toNat * 10 ^ k.toNat
  num / den

/-- The decimal exponent of the leading digit of a positive double: the `e` with
`10^e ≤ v < 10^(e+1)`. An estimate from the bit length is corrected by exact comparisons. -/
def leadingExponent (b : Binary) : Int :=
  let bits : Int := (Nat.log2 b.mant : Int) + b.exp
  let est := Int.fdiv (bits * 78913) 262144
  fix est 4
where
  /-- Move the estimate by at most `fuel` steps until it brackets the value. -/
  fix (e : Int) : Nat → Int
    | 0 => e
    | fuel + 1 =>
      if Scaled.compare ⟨1, 0, e + 1⟩ b.magnitude != .gt then fix (e + 1) fuel
      else if Scaled.compare ⟨1, 0, e⟩ b.magnitude == .gt then fix (e - 1) fuel
      else e

/-- The candidate of `n` significant digits for the double, if one lies in its interval. -/
def candidate (b : Binary) (r : RoundingInterval) (e : Int) (n : Nat) : Option Decimal :=
  let k := e - n + 1
  let fl := floorScaled b.mant b.exp k
  let ce := fl + 1
  let inFl := r.contains fl k
  let inCe := r.contains ce k
  if inFl && inCe then
    -- the nearer one: compare 2v with (2·fl + 1) · 10^k
    match Scaled.compare ⟨2 * b.mant, b.exp, 0⟩ ⟨2 * fl + 1, 0, k⟩ with
    | .lt => some ⟨fl, k⟩
    | .gt => some ⟨ce, k⟩
    | .eq => some (if fl % 2 == 0 then ⟨fl, k⟩ else ⟨ce, k⟩)
  else if inFl then some ⟨fl, k⟩
  else if inCe then some ⟨ce, k⟩
  else none

/-- The shortest decimal in the rounding interval of a positive finite double, nearest to it
among the shortest, with no trailing zeros. -/
def shortestDigits (b : Binary) : Decimal :=
  let r := b.interval
  let e := leadingExponent b
  (search r e 1 17).trim
where
  /-- Try digit counts `n, n+1, …`; seventeen digits always succeed. -/
  search (r : RoundingInterval) (e : Int) (n : Nat) : Nat → Decimal
    | 0 => ⟨floorScaled b.mant b.exp (e - 16), e - 16⟩
    | fuel + 1 =>
      match candidate b r e n with
      | some d => d
      | none => search r e (n + 1) fuel

end GraphProbe.Number
