import GraphProbe.Code.Value
import GraphProbe.Number.Text

/-!
# Arithmetic of numbers

Numbers are integers (truth values count as 0 and 1), doubles and complex numbers. An
operator on two numbers takes both to the wider kind (integer, then double, then complex)
and computes there:

* integers are exact and unbounded; division gives the double nearest to the exact quotient,
  floor division and remainder round toward negative infinity, bitwise operators act on
  the two's complement of unbounded width;
* doubles follow the binary64 operations, with floor division and remainder that agree with
  each other (the remainder takes the divisor's sign) and powers whose special cases are
  decided before the library's `pow`;
* an operand or result too large for a double raises an overflow error.

An integer result far larger than any test needs is not computed: the operation reports that
it goes beyond the machine (`Problem.beyond`).
-/

namespace GraphProbe.Code

/-- Why a pure operation gives no value: it raises an exception of a class of the language
with arguments, or its result is beyond what the machine computes. -/
inductive Problem where
  | error (cls : String) (args : Array Val)
  | beyond
  deriving Inhabited

/-- An exception of a class with a message. -/
def Problem.msg (cls message : String) : Problem := .error cls #[.str message]

/-- Numbers. -/
inductive Num where
  | int (n : Int)
  | float (x : Float)
  | complex (re im : Float)
  deriving Inhabited

/-- The number a value is, if any. -/
def Val.num? : Val -> Option Num
  | .bool b => some (.int (if b then 1 else 0))
  | .int n => some (.int n)
  | .float x => some (.float x)
  | .complex r i => some (.complex r i)
  | _ => Option.none

/-- The most bits an integer result may have. -/
def bitLimit : Nat := 4000000

/-- The number of bits of an integer's magnitude. -/
def bitLength (n : Int) : Nat := if n == 0 then 0 else Nat.log2 n.natAbs + 1

/-! ### Doubles -/

/-- Whether a double is infinite. -/
def isInfinite (x : Float) : Bool :=
  match Number.classify x with
  | .infinite _ => true
  | _ => false

/-- Whether a double is finite. -/
def isFiniteFloat (x : Float) : Bool := Number.isFinite x

/-- Whether a double's sign bit is set. -/
def signBit (x : Float) : Bool := x.toBits >>> 63 == 1

/-- The magnitude of `x` with the sign of `y`. -/
def copySign (x y : Float) : Float :=
  let mask : UInt64 := (1 : UInt64) <<< 63
  Float.ofBits ((x.toBits &&& ~~~mask) ||| (y.toBits &&& mask))

/-- Not a number. -/
def nanFloat : Float := 0.0 / 0.0

/-- Positive infinity. -/
def infFloat : Float := 1.0 / 0.0

/-- The remainder of `x` divided by `y` truncated toward zero, with the sign of `x`: exact,
from the binary parts of both. -/
def fmod (x y : Float) : Float :=
  match Number.classify x, Number.classify y with
  | .finite a, .finite b =>
    if b.mant == 0 then nanFloat else
    let e := min a.exp b.exp
    let xs := a.mant * 2 ^ (a.exp - e).toNat
    let ys := b.mant * 2 ^ (b.exp - e).toNat
    let r := Float.scaleB (Float.ofNat (xs % ys)) e
    if a.negative then -r else r
  | .finite _, .infinite _ => x
  | _, _ => nanFloat

/-- The floor quotient and the remainder of two doubles, the divisor not zero: the
remainder takes the divisor's sign, and the quotient is snapped to the nearest whole
double. -/
def floatDivmod (x y : Float) : Float × Float :=
  let m := fmod x y
  let d := (x - m) / y
  let (m, d) :=
    if m != 0.0 then
      if (y < 0.0) != (m < 0.0) then (m + y, d - 1.0) else (m, d)
    else (copySign 0.0 y, d)
  let q :=
    if d != 0.0 then
      let f := d.floor
      if d - f > 0.5 then f + 1.0 else f
    else copySign 0.0 (x / y)
  (q, m)

/-- The remainder of two doubles, the divisor not zero, with the divisor's sign. -/
def floatMod (x y : Float) : Float :=
  let m := fmod x y
  if m != 0.0 then (if (y < 0.0) != (m < 0.0) then m + y else m) else copySign 0.0 y

/-- Whether a double is an odd whole number. -/
def isOddWhole (x : Float) : Bool :=
  match Number.classify x with
  | .finite b =>
    if b.exp ≥ 0 then b.exp == 0 && b.mant % 2 == 1
    else b.mant % 2 ^ (-b.exp).toNat == 0 && (b.mant / 2 ^ (-b.exp).toNat) % 2 == 1
  | _ => false

/-- The overflow of a double result. -/
def rangeError : Problem := .error "OverflowError" #[.int 34, .str "Numerical result out of range"]

/-- A complex number: real and imaginary parts. -/
abbrev Complex := Float × Float

/-- The product of two complex numbers. -/
def complexMul (a b : Complex) : Complex :=
  (a.1 * b.1 - a.2 * b.2, a.1 * b.2 + a.2 * b.1)

/-- The quotient of two complex numbers, by the divisor's larger part; `none` for a zero
divisor. -/
def complexDiv (a b : Complex) : Option Complex :=
  let ar := b.1.abs
  let ai := b.2.abs
  if ar ≥ ai then
    if ar == 0.0 then none else
    let ratio := b.2 / b.1
    let denom := b.1 + b.2 * ratio
    some ((a.1 + a.2 * ratio) / denom, (a.2 - a.1 * ratio) / denom)
  else if ai ≥ ar then
    let ratio := b.1 / b.2
    let denom := b.1 * ratio + b.2
    some ((a.1 * ratio + a.2) / denom, (a.2 * ratio - a.1) / denom)
  else some (nanFloat, nanFloat)

/-- A complex number to a natural power, by repeated squaring. -/
def complexPowNat (a : Complex) : Nat -> Complex
  | 0 => (1.0, 0.0)
  | n + 1 =>
    let half := complexPowNat a ((n + 1) / 2)
    let sq := complexMul half half
    if (n + 1) % 2 == 1 then complexMul sq a else sq
termination_by n => n
decreasing_by omega

/-- A complex number to a complex power: whole exponents up to 100 by repeated products,
others through the polar form. `none` for zero to a negative or complex power. -/
def complexPow (a b : Complex) : Option Complex :=
  if b.2 == 0.0 && b.1 == b.1.floor && b.1.abs ≤ 100.0 then
    let n := b.1.abs.toUInt64.toNat
    if b.1 ≥ 0.0 then some (complexPowNat a n)
    else complexDiv (1.0, 0.0) (complexPowNat a n)
  else if b.1 == 0.0 && b.2 == 0.0 then some (1.0, 0.0)
  else if a.1 == 0.0 && a.2 == 0.0 then
    if b.2 != 0.0 || b.1 < 0.0 then none else some (0.0, 0.0)
  else
    let vabs := (a.1 * a.1 + a.2 * a.2).sqrt
    let len := vabs.pow b.1
    let arg := Float.atan2 a.2 a.1
    let phase := arg * b.1
    let (len, phase) :=
      if b.2 != 0.0 then (len / (arg * b.2).exp, phase + b.2 * vabs.log) else (len, phase)
    some (len * phase.cos, len * phase.sin)

/-- Complex power with its errors. -/
def complexPower (a b : Complex) : Except Problem Val :=
  match complexPow a b with
  | none => .error (.msg "ZeroDivisionError" "0.0 to a negative or complex power")
  | some (r, i) =>
    if (isInfinite r || isInfinite i) && isFiniteFloat a.1 && isFiniteFloat a.2 then
      .error (.msg "OverflowError" "complex exponentiation")
    else .ok (.complex r i)

/-- A double to a double power, special cases first. -/
def floatPow (x y : Float) : Except Problem Val :=
  if y == 0.0 then .ok (.float 1.0)
  else if x.isNaN then .ok (.float x)
  else if y.isNaN then .ok (.float (if x == 1.0 then 1.0 else y))
  else if isInfinite y then
    let ax := x.abs
    if ax == 1.0 then .ok (.float 1.0)
    else if (y > 0.0) == (ax > 1.0) then .ok (.float y.abs) else .ok (.float 0.0)
  else if isInfinite x then
    let odd := isOddWhole y
    if y > 0.0 then .ok (.float (if odd then x else x.abs))
    else .ok (.float (if odd then copySign 0.0 x else 0.0))
  else if x == 0.0 then
    if y < 0.0 then .error (.msg "ZeroDivisionError" "0.0 cannot be raised to a negative power")
    else .ok (.float (if isOddWhole y then x else 0.0))
  else if x < 0.0 && y != y.floor then complexPower (x, 0.0) (y, 0.0)
  else
    let negate := x < 0.0 && isOddWhole y
    let ax := x.abs
    if ax == 1.0 then .ok (.float (if negate then -1.0 else 1.0))
    else
      let r := ax.pow y
      if isInfinite r then .error rangeError
      else .ok (.float (if negate then -r else r))

/-- The double of an integer, or an overflow error when it is too large. -/
def intToFloat (n : Int) : Except Problem Float :=
  let x := Number.floatOfInt n
  if isInfinite x then .error (.msg "OverflowError" "int too large to convert to float")
  else .ok x

/-- The integer a double truncates to. -/
def floatToInt (x : Float) : Except Problem Int :=
  match Number.classify x with
  | .nan => .error (.msg "ValueError" "cannot convert float NaN to integer")
  | .infinite _ => .error (.msg "OverflowError" "cannot convert float infinity to integer")
  | .finite b =>
    let mag : Nat :=
      if b.exp ≥ 0 then b.mant * 2 ^ b.exp.toNat else b.mant / 2 ^ (-b.exp).toNat
    .ok (if b.negative then -(mag : Int) else mag)

/-- The exact value of a finite double as a sign, a numerator and a power-of-two
denominator. -/
def floatRatio (b : Number.Binary) : Int × Nat :=
  let n : Nat := if b.exp ≥ 0 then b.mant * 2 ^ b.exp.toNat else b.mant
  let d : Nat := if b.exp ≥ 0 then 1 else 2 ^ (-b.exp).toNat
  (if b.negative then -(n : Int) else n, d)

/-- Divide and round to the nearest integer, a tie to the even one; `d` positive. -/
def roundHalfEven (n : Int) (d : Nat) : Int :=
  let q := Int.fdiv n d
  let r := n - q * d
  if 2 * r > d || (2 * r == d && q % 2 != 0) then q + 1 else q

/-- A double rounded to the nearest whole number, a tie to the even one. -/
def floatRoundInt (x : Float) : Except Problem Int :=
  match Number.classify x with
  | .nan => .error (.msg "ValueError" "cannot convert float NaN to integer")
  | .infinite _ => .error (.msg "OverflowError" "cannot convert float infinity to integer")
  | .finite b =>
    let (n, d) := floatRatio b
    .ok (roundHalfEven n d)

/-- A double rounded to `digits` decimal places (tens when negative): its exact value rounded
to the nearest multiple of `10^-digits`, a tie to the even multiple, then the nearest double. -/
def floatRoundDigits (x : Float) (digits : Int) : Except Problem Float :=
  match Number.classify x with
  | .finite b =>
    if digits > 323 then .ok x
    else if digits < -308 then .ok (copySign 0.0 x)
    else
      let (n, d) := floatRatio b
      let y :=
        if digits ≥ 0 then
          let k := roundHalfEven (n * 10 ^ digits.toNat) d
          let v := Number.ofDecimal k.natAbs (-digits)
          if k < 0 then -v else v
        else
          let unit := d * 10 ^ digits.natAbs
          let k := roundHalfEven n unit
          let v := Number.ofDecimal k.natAbs (-digits)
          if k < 0 then -v else v
      let y := if y == 0.0 then copySign 0.0 x else y
      if isInfinite y then .error (.msg "OverflowError" "rounded value too large to represent")
      else .ok y
  | _ => .ok x

/-- An integer rounded to a multiple of `10^k`, a tie to the even multiple. -/
def intRoundTens (n : Int) (k : Nat) : Int := roundHalfEven n (10 ^ k) * 10 ^ k

/-! ### Integers -/

/-- Bitwise and of unbounded two's complement integers. -/
def intAnd (a b : Int) : Int :=
  match a, b with
  | .ofNat x, .ofNat y => .ofNat (x &&& y)
  | .negSucc x, .ofNat y => .ofNat (y - (y &&& x))
  | .ofNat x, .negSucc y => .ofNat (x - (x &&& y))
  | .negSucc x, .negSucc y => .negSucc (x ||| y)

/-- Bitwise or of unbounded two's complement integers. -/
def intOr (a b : Int) : Int :=
  match a, b with
  | .ofNat x, .ofNat y => .ofNat (x ||| y)
  | .negSucc x, .ofNat y => .negSucc (x - (x &&& y))
  | .ofNat x, .negSucc y => .negSucc (y - (y &&& x))
  | .negSucc x, .negSucc y => .negSucc (x &&& y)

/-- Bitwise exclusive or of unbounded two's complement integers. -/
def intXor (a b : Int) : Int :=
  match a, b with
  | .ofNat x, .ofNat y => .ofNat (x ^^^ y)
  | .negSucc x, .ofNat y => .negSucc (x ^^^ y)
  | .ofNat x, .negSucc y => .negSucc (x ^^^ y)
  | .negSucc x, .negSucc y => .ofNat (x ^^^ y)

/-- The double nearest to the quotient of two integers, the divisor not zero. -/
def intTrueDiv (a b : Int) : Except Problem Val :=
  let n := if b < 0 then -a else a
  let x := Number.floatOfRatio n b.natAbs
  if isInfinite x then .error (.msg "OverflowError" "integer division result too large for a float")
  else .ok (.float x)

/-- An operator on two integers; `none` when integers do not take it. -/
def intBinary (op : BinaryOp) (a b : Int) : Option (Except Problem Val) :=
  match op with
  | .add => some (.ok (.int (a + b)))
  | .sub => some (.ok (.int (a - b)))
  | .mul =>
    if bitLength a + bitLength b > bitLimit then some (.error .beyond)
    else some (.ok (.int (a * b)))
  | .div =>
    if b == 0 then some (.error (.msg "ZeroDivisionError" "division by zero"))
    else some (intTrueDiv a b)
  | .floorDiv =>
    if b == 0 then some (.error (.msg "ZeroDivisionError" "integer division or modulo by zero"))
    else some (.ok (.int (Int.fdiv a b)))
  | .mod =>
    if b == 0 then some (.error (.msg "ZeroDivisionError" "integer modulo by zero"))
    else some (.ok (.int (Int.fmod a b)))
  | .pow =>
    if b < 0 then
      if a == 0 then some (.error (.msg "ZeroDivisionError" "0.0 cannot be raised to a negative power"))
      else some (do
        let x <- intToFloat a
        let y <- intToFloat b
        floatPow x y)
    else if a.natAbs ≤ 1 then
      some (.ok (.int (if a == -1 && b % 2 == 1 then -1 else if a == 0 && b != 0 then 0 else if a == 0 then 1 else a.natAbs)))
    else if bitLength a * b.toNat > bitLimit then some (.error .beyond)
    else some (.ok (.int (a ^ b.toNat)))
  | .shiftLeft =>
    if b < 0 then some (.error (.msg "ValueError" "negative shift count"))
    else if a == 0 then some (.ok (.int 0))
    else if bitLength a + b.toNat > bitLimit then some (.error .beyond)
    else some (.ok (.int (a * 2 ^ b.toNat)))
  | .shiftRight =>
    if b < 0 then some (.error (.msg "ValueError" "negative shift count"))
    else if b.toNat ≥ bitLength a then some (.ok (.int (if a < 0 then -1 else 0)))
    else some (.ok (.int (Int.fdiv a (2 ^ b.toNat))))
  | .bitAnd => some (.ok (.int (intAnd a b)))
  | .bitOr => some (.ok (.int (intOr a b)))
  | .bitXor => some (.ok (.int (intXor a b)))
  | .matMul => none

/-- An operator on two doubles; `none` when doubles do not take it. -/
def floatBinary (op : BinaryOp) (x y : Float) : Option (Except Problem Val) :=
  match op with
  | .add => some (.ok (.float (x + y)))
  | .sub => some (.ok (.float (x - y)))
  | .mul => some (.ok (.float (x * y)))
  | .div =>
    if y == 0.0 then some (.error (.msg "ZeroDivisionError" "float division by zero"))
    else some (.ok (.float (x / y)))
  | .floorDiv =>
    if y == 0.0 then some (.error (.msg "ZeroDivisionError" "float floor division by zero"))
    else some (.ok (.float (floatDivmod x y).1))
  | .mod =>
    if y == 0.0 then some (.error (.msg "ZeroDivisionError" "float modulo"))
    else some (.ok (.float (floatMod x y)))
  | .pow => some (floatPow x y)
  | _ => none

/-- An operator on two complex numbers; `none` when complex numbers do not take it. -/
def complexBinary (op : BinaryOp) (a b : Complex) : Option (Except Problem Val) :=
  match op with
  | .add => some (.ok (.complex (a.1 + b.1) (a.2 + b.2)))
  | .sub => some (.ok (.complex (a.1 - b.1) (a.2 - b.2)))
  | .mul => let p := complexMul a b; some (.ok (.complex p.1 p.2))
  | .div =>
    match complexDiv a b with
    | some q => some (.ok (.complex q.1 q.2))
    | none => some (.error (.msg "ZeroDivisionError" "complex division by zero"))
  | .pow => some (complexPower a b)
  | _ => none

/-- A number as a complex number. -/
def Num.toComplex : Num -> Except Problem Complex
  | .int n => do pure (<- intToFloat n, 0.0)
  | .float x => pure (x, 0.0)
  | .complex r i => pure (r, i)

/-- A number as a double, when it is no complex number. -/
def Num.toFloat : Num -> Except Problem Float
  | .int n => intToFloat n
  | .float x => pure x
  | .complex r _ => pure r

/-- An operator on two numbers, after taking both to the wider kind; `none` when that kind
does not take the operator. -/
def numBinary (op : BinaryOp) (a b : Num) : Option (Except Problem Val) :=
  match a, b with
  | .int x, .int y => intBinary op x y
  | .complex .., _ | _, .complex .. =>
    match op with
    | .add | .sub | .mul | .div | .pow =>
      match a.toComplex, b.toComplex with
      | .ok x, .ok y => complexBinary op x y
      | .error e, _ | _, .error e => some (.error e)
    | _ => none
  | _, _ =>
    match op with
    | .add | .sub | .mul | .div | .floorDiv | .mod | .pow =>
      match a.toFloat, b.toFloat with
      | .ok x, .ok y => floatBinary op x y
      | .error e, _ | _, .error e => some (.error e)
    | _ => none

/-- The order of two numbers that are no complex numbers: exact between integers and
doubles; `none` when a double is not a number. -/
def numCompare (a b : Num) : Option Ordering :=
  match a, b with
  | .int x, .int y => some (compare x y)
  | .int x, .float y => Number.compareIntFloat x y
  | .float x, .int y => (Number.compareIntFloat y x).map Ordering.swap
  | .float x, .float y => Number.compareFloat x y
  | _, _ => none

/-- Whether two numbers are equal, exactly. -/
def numEqual (a b : Num) : Bool :=
  match a, b with
  | .complex r i, .complex r' i' => r == r' && i == i'
  | .complex r i, x | x, .complex r i => i == 0.0 && numCompare x (.float r) == some .eq
  | x, y => numCompare x y == some .eq

/-- Floor quotient and remainder of two numbers. -/
def numDivmod (a b : Num) : Option (Except Problem (Val × Val)) :=
  match a, b with
  | .int x, .int y =>
    if y == 0 then some (.error (.msg "ZeroDivisionError" "integer division or modulo by zero"))
    else some (.ok (.int (Int.fdiv x y), .int (Int.fmod x y)))
  | .complex .., _ | _, .complex .. => none
  | _, _ =>
    match a.toFloat, b.toFloat with
    | .ok x, .ok y =>
      if y == 0.0 then some (.error (.msg "ZeroDivisionError" "float divmod()"))
      else let (q, m) := floatDivmod x y; some (.ok (.float q, .float m))
    | .error e, _ | _, .error e => some (.error e)

end GraphProbe.Code
