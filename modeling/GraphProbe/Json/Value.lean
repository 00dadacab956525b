import GraphProbe.Number.Binary

/-!
# Values

The kit handles dynamic data: the JSON documents a server answers with, and the payloads,
variables and contexts a test passes in. A `Value` is one of those. Objects keep their
members in insertion order with distinct keys. Integers are unbounded. Besides the JSON
kinds a value may be a byte string, which a caller can pass but no JSON text can hold: the
writer refuses it.

Two notions of sameness are used. Structural equality of the tree is not one of them for
numbers: `Value.looseEq` compares numbers by value across kinds (`1`, `1.0` and `true` are
equal, a NaN equals nothing) and objects as maps, which is how the kit compares payloads.
-/

namespace GraphProbe

/-- A dynamic value: JSON data or a byte string. -/
inductive Value where
  | null
  | bool (b : Bool)
  | int (n : Int)
  | float (x : Float)
  | str (s : String)
  | bytes (data : List UInt8)
  | arr (items : List Value)
  | obj (fields : List (String × Value))
  deriving Inhabited

namespace Value

/-- The member of an object under a key. -/
def field? : Value → String → Option Value
  | .obj fs, k => fs.lookup k
  | _, _ => none

/-- Set a member: an existing key keeps its position and takes the new value, a new key
goes last. -/
def setField (fs : List (String × Value)) (k : String) (v : Value) : List (String × Value) :=
  if fs.any (·.1 == k) then fs.map fun p => if p.1 == k then (k, v) else p
  else fs ++ [(k, v)]

/-- The name of a value's kind, as messages of the kit spell it. -/
def kindName : Value → String
  | .null => "NoneType"
  | .bool _ => "bool"
  | .int _ => "int"
  | .float _ => "float"
  | .str _ => "str"
  | .bytes _ => "bytes"
  | .arr _ => "list"
  | .obj _ => "dict"

/-- Whether a value is an object. -/
def isObj : Value → Bool
  | .obj _ => true
  | _ => false

/-- The integer a value stands for when used as a number: integers, and booleans as 0 and 1. -/
def asInt? : Value → Option Int
  | .int n => some n
  | .bool b => some (if b then 1 else 0)
  | _ => none

/-- Whether a value counts as true: null, false, zero, empty texts, byte strings, arrays and
objects count as false. -/
def truthy : Value → Bool
  | .null => false
  | .bool b => b
  | .int n => n != 0
  | .float x => x != 0
  | .str s => !s.isEmpty
  | .bytes bs => !bs.isEmpty
  | .arr xs => !xs.isEmpty
  | .obj fs => !fs.isEmpty

/-- Numbers compared by value across kinds; `none` when either side is no number. -/
def numEq? : Value → Value → Option Bool
  | .float x, .float y => some (x == y)
  | .float x, w => (w.asInt?).map fun n => Number.intEqFloat n x
  | v, .float y => (v.asInt?).map fun n => Number.intEqFloat n y
  | v, w =>
    match v.asInt?, w.asInt? with
    | some a, some b => some (a == b)
    | _, _ => none

/-- Whether both values are the not-a-number double. Every such double the kit reads is one
and the same value, so inside containers, where equality first asks whether two items are
the same value, they are equal. -/
def bothNaN : Value → Value → Bool
  | .float x, .float y => x.isNaN && y.isNaN
  | _, _ => false

mutual
/-- Loose equality: numbers by value across kinds, texts and byte strings by content, arrays
element by element, objects as maps from keys to values. Items of containers that are both
not-a-number are equal. -/
def looseEq : Value → Value → Bool
  | .null, .null => true
  | .str a, .str b => a == b
  | .bytes a, .bytes b => a == b
  | .arr xs, .arr ys => listEq xs ys
  | .obj fs, .obj gs => fs.length == gs.length && membersIn fs gs
  | v, w => (numEq? v w).getD false

/-- Element-wise loose equality of two lists. -/
def listEq : List Value → List Value → Bool
  | [], [] => true
  | x :: xs, y :: ys => (bothNaN x y || looseEq x y) && listEq xs ys
  | _, _ => false

/-- Every member of the first list has a loosely equal partner under its key in `gs`. -/
def membersIn : List (String × Value) → List (String × Value) → Bool
  | [], _ => true
  | (k, v) :: rest, gs =>
    (match gs.lookup k with
     | some w => bothNaN v w || looseEq v w
     | none => false) && membersIn rest gs
end

end Value

end GraphProbe
