import GraphProbe.Fault

/-!
# Arithmetic on dynamic values

Timeouts, poll intervals and counts reach the kit as dynamic values, and it compares and
adds them as numbers. Integers, booleans (as 0 and 1) and doubles are numbers; they compare
by exact value, an integer and an integer add to an integer, and anything else adds in
doubles. An operation on a value that is no number fails with the names of the two kinds.
-/

namespace GraphProbe

/-- A number: an integer or a double. -/
inductive Num where
  | int (n : Int)
  | float (x : Float)
  deriving Inhabited

namespace Num

/-- The number a value stands for, if it is one. -/
def ofValue? : Value → Option Num
  | .int n => some (.int n)
  | .bool b => some (.int (if b then 1 else 0))
  | .float x => some (.float x)
  | _ => none

/-- The value of a number. -/
def toValue : Num → Value
  | .int n => .int n
  | .float x => .float x

/-- The double nearest to a number. -/
def toFloat : Num → Float
  | .int n => Number.floatOfInt n
  | .float x => x

/-- How two numbers compare by exact value; `none` when a NaN is involved. -/
def compare? : Num → Num → Option Ordering
  | .int a, .int b => some (Ord.compare a b)
  | .int a, .float y => Number.compareIntFloat a y
  | .float x, .int b => (Number.compareIntFloat b x).map Ordering.swap
  | .float x, .float y => Number.compareFloat x y

/-- Whether `a < b`. -/
def lt (a b : Num) : Bool := a.compare? b == some .lt

/-- Whether `a ≤ b`. -/
def le (a b : Num) : Bool := a.compare? b == some .lt || a.compare? b == some .eq

/-- The sum of two numbers. -/
def add : Num → Num → Num
  | .int a, .int b => .int (a + b)
  | a, b => .float (a.toFloat + b.toFloat)

/-- The quotient of a number by a positive integer, as a double. -/
def divBy (a : Num) (d : Nat) : Float :=
  match a with
  | .int n => Number.floatOfRatio n d
  | .float x => x / Number.floatOfInt d

/-- Whether the quotient of a number by a positive integer `d` is below zero. For an integer
that is exactly when the integer is: a quotient that is not zero is at least `1 / d` in size,
so the double nearest to it is not zero and has its sign. A double's quotient is rounded first
and then compared. -/
def quotientNegative (a : Num) (d : Nat) : Bool :=
  match a with
  | .int n => decide (n < 0)
  | .float _ => decide (a.divBy d < 0)

end Num

/-- The fault of a comparison between two kinds that do not compare. -/
def comparisonFault (op : String) (a b : Value) : Fault :=
  Fault.simple .wrongType
    s!"{Text.quote op} not supported between instances of {Text.quote a.kindName} and {Text.quote b.kindName}"

/-- Whether `a < b`, for two numbers. -/
def Value.lessThan (a b : Value) : Except Fault Bool :=
  match Num.ofValue? a, Num.ofValue? b with
  | some x, some y => .ok (x.lt y)
  | _, _ => .error (comparisonFault "<" a b)

/-- Whether `a ≤ b`, for two numbers. -/
def Value.atMost (a b : Value) : Except Fault Bool :=
  match Num.ofValue? a, Num.ofValue? b with
  | some x, some y => .ok (x.le y)
  | _, _ => .error (comparisonFault "<=" a b)

/-- `a + b`, for two numbers. -/
def Value.plus (a b : Value) : Except Fault Value :=
  match Num.ofValue? a, Num.ofValue? b with
  | some x, some y => .ok (x.add y).toValue
  | _, _ => .error (Fault.simple .wrongType
      s!"unsupported operand type(s) for +: {Text.quote a.kindName} and {Text.quote b.kindName}")

/-- The number `a` stands for as the left side of a division by an integer: a value that is
no number fails. -/
def Value.dividend (a : Value) : Except Fault Num :=
  match Num.ofValue? a with
  | some x => .ok x
  | none => .error (Fault.simple .wrongType
      s!"unsupported operand type(s) for /: {Text.quote a.kindName} and 'int'")

end GraphProbe
