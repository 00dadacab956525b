import GraphProbe.Fault
import GraphProbe.Text.CharNames

/-!
# Backslash escapes

Two character sets spell text in octets with backslash escapes.

* The *full* form keeps printable ASCII (a backslash doubled), writes tab, line feed and
  carriage return by letter and every other code point by its hex digits: `\xhh` below
  256, `\uhhhh` below `0x10000`, `\Uhhhhhhhh` above. Reading it back knows the escapes of
  string literals: single letters, up to three octal digits (up to `0o777`), the three hex
  forms and `\N{name}`; a backslash before a line feed drops both, a backslash before any
  other octet stands for itself.
* The *raw* form writes the first 256 code points as their octets and only the others by
  `\u` or `\U`. Reading it back only knows `\u` and `\U`, and only after an odd run of
  backslashes.

An octet that is no escape stands for the code point of its value. Reading stops at the
first escape that breaks off, and reports the span from its backslash to the octet that
breaks it (or to the end of the data) with the reason.
-/

namespace GraphProbe.Escaped

/-- Why escaped octets cannot be read: the span of the broken escape and the reason. -/
structure Unreadable where
  start : Nat
  stop : Nat
  reason : String
  deriving Repr

/-- The backslash octet. -/
def backslash : UInt8 := 0x5C

/-- The lower-case hex digits of `n`, `width` of them. -/
def hexDigits (width n : Nat) : List UInt8 :=
  (List.range width).reverse.map fun k =>
    let d := n / 16 ^ k % 16
    (if d < 10 then 0x30 + d else 0x61 + d - 10).toUInt8

/-- A code point by its hex digits: `\x` below 256, `\u` below `0x10000`, `\U` above. -/
def hexEscape (n : Nat) : List UInt8 :=
  if n < 0x100 then [backslash, 0x78] ++ hexDigits 2 n
  else if n < 0x10000 then [backslash, 0x75] ++ hexDigits 4 n
  else [backslash, 0x55] ++ hexDigits 8 n

/-- The octets of a code point in the full form. -/
def fullOctets (n : Nat) : List UInt8 :=
  if n == 0x5C then [backslash, backslash]
  else if 0x20 ≤ n && n < 0x7F then [n.toUInt8]
  else if n == 9 then [backslash, 0x74]
  else if n == 10 then [backslash, 0x6E]
  else if n == 13 then [backslash, 0x72]
  else hexEscape n

/-- The octets of a code point in the raw form. -/
def rawOctets (n : Nat) : List UInt8 :=
  if n < 0x100 then [n.toUInt8] else hexEscape n

/-- The octets of code points in the full or the raw form. Every code point has them. -/
def encode (raw : Bool) (ns : List Nat) : List UInt8 :=
  ns.flatMap fun n => if raw then rawOctets n else fullOctets n

/-- The value of a hex digit octet, in either case. -/
def hexValue? (b : UInt8) : Option Nat :=
  if 0x30 ≤ b && b ≤ 0x39 then some (b.toNat - 0x30)
  else if 0x61 ≤ b && b ≤ 0x66 then some (b.toNat - 0x61 + 10)
  else if 0x41 ≤ b && b ≤ 0x46 then some (b.toNat - 0x41 + 10)
  else none

/-- The value of `count` hex digits from place `i` on, or the place where they break off:
the first octet that is no hex digit, or the end of the data. -/
def hexRun (bs : Array UInt8) : Nat → Nat → Nat → Except Nat Nat
  | _, 0, acc => .ok acc
  | i, count + 1, acc =>
    match bs[i]? with
    | none => .error bs.size
    | some b =>
      match hexValue? b with
      | none => .error i
      | some d => hexRun bs (i + 1) count (acc * 16 + d)

/-- Whether an octet is an octal digit. -/
def isOctal (b : UInt8) : Bool := 0x30 ≤ b && b ≤ 0x37

/-- The number of octal digits, at most `count`, from place `i` on. -/
def octalLength (bs : Array UInt8) : Nat → Nat → Nat
  | _, 0 => 0
  | i, count + 1 =>
    match bs[i]? with
    | some b => if isOctal b then octalLength bs (i + 1) count + 1 else 0
    | none => 0

/-- The value of `count` octal digits from place `i` on. -/
def octalValue (bs : Array UInt8) (i count : Nat) : Nat :=
  (List.range count).foldl (fun acc k => acc * 8 + ((bs[i + k]?).getD 0x30).toNat - 0x30) 0

/-- The code point a single-letter escape stands for. -/
def letterEscape? : UInt8 → Option Nat
  | 0x5C => some 0x5C
  | 0x27 => some 0x27
  | 0x22 => some 0x22
  | 0x62 => some 8
  | 0x66 => some 12
  | 0x74 => some 9
  | 0x6E => some 10
  | 0x72 => some 13
  | 0x76 => some 11
  | 0x61 => some 7
  | _ => none

/-- The number of octets from place `i` on before the first closing brace. -/
def nameLength (bs : Array UInt8) (i : Nat) : Nat :=
  ((bs.extract i bs.size).toList.takeWhile (· != 0x7D)).length

/-- The text of octets, each octet the code point of its value. -/
def octetText (bs : List UInt8) : String := String.ofList (bs.map fun b => Char.ofNat b.toNat)

/-- The reason a hex escape of `count` digits breaks off. -/
def truncated (count : Nat) : String :=
  if count == 2 then "truncated \\xXX escape"
  else if count == 4 then "truncated \\uXXXX escape"
  else "truncated \\UXXXXXXXX escape"

/-- The largest code point. -/
def maxPoint : Nat := 0x10FFFF

/-- What the escape whose backslash stands at place `i` of the full form gives: the code
points it stands for and the number of octets after the backslash that it takes; or where
and why it breaks off. -/
def fullEscape (bs : Array UInt8) (i : Nat) : Except Unreadable (List Nat × Nat) :=
  match bs[i + 1]? with
  | none => .error ⟨i, bs.size, "\\ at end of string"⟩
  | some e =>
    if e == 0x0A then .ok ([], 1)
    else match letterEscape? e with
    | some n => .ok ([n], 1)
    | none =>
      if isOctal e then
        let more := octalLength bs (i + 2) 2
        .ok ([octalValue bs (i + 1) (more + 1)], more + 1)
      else if e == 0x78 || e == 0x75 || e == 0x55 then
        let count := if e == 0x78 then 2 else if e == 0x75 then 4 else 8
        match hexRun bs (i + 2) count 0 with
        | .error stop => .error ⟨i, stop, truncated count⟩
        | .ok n =>
          if n > maxPoint then .error ⟨i, i + 2 + count, "illegal Unicode character"⟩
          else .ok ([n], count + 1)
      else if e == 0x4E then namedEscape bs i
      else .ok ([0x5C, e.toNat], 1)
where
  /-- The escape `\N{name}`: the code point of the name. -/
  namedEscape (bs : Array UInt8) (i : Nat) : Except Unreadable (List Nat × Nat) :=
    let malformed := "malformed \\N character escape"
    match bs[i + 2]? with
    | none => .error ⟨i, bs.size, malformed⟩
    | some b =>
      if b != 0x7B then .error ⟨i, i + 2, malformed⟩
      else
        let len := nameLength bs (i + 3)
        if i + 3 + len ≥ bs.size then .error ⟨i, bs.size, malformed⟩
        else if len == 0 then .error ⟨i, i + 3, malformed⟩
        else
          let name := octetText (bs.extract (i + 3) (i + 3 + len)).toList
          match Text.charByName? name with
          | some n => .ok ([n], len + 3)
          | none => .error ⟨i, i + 4 + len, "unknown Unicode character name"⟩

/-- Read the full form from place `i` on, after the code points `acc`. -/
def readFull (bs : Array UInt8) (i : Nat) (acc : Array Nat) : Except Unreadable (Array Nat) :=
  if i < bs.size then
    let c := bs[i]!
    if c != backslash then readFull bs (i + 1) (acc.push c.toNat)
    else
      match fullEscape bs i with
      | .error e => .error e
      | .ok (ns, taken) => readFull bs (i + 1 + taken) (acc ++ ns.toArray)
  else .ok acc
termination_by bs.size - i

/-- The number of backslashes from place `i` on. -/
def backslashRun (bs : Array UInt8) (i : Nat) : Nat :=
  ((bs.extract i bs.size).toList.takeWhile (· == backslash)).length

/-- What the run of backslashes that starts at place `i` of the raw form gives: the code
points it stands for and the number of octets after its first backslash that it takes; or
where and why it breaks off. After an odd run, `\\u` or `\\U` and its digits stand for a
code point and the run's last backslash starts the escape. -/
def rawEscape (bs : Array UInt8) (i : Nat) : Except Unreadable (List Nat × Nat) :=
  let more := backslashRun bs (i + 1)
  let j := i + 1 + more
  let escape := if more % 2 == 0 then bs[j]? else none
  let count := if escape == some 0x75 then 4 else if escape == some 0x55 then 8 else 0
  let run := List.replicate more 0x5C
  if count == 0 then .ok (0x5C :: run, more)
  else
    match hexRun bs (j + 1) count 0 with
    | .error stop => .error ⟨i + more, stop, truncated count⟩
    | .ok n =>
      if n > maxPoint then .error ⟨i + more, j + 1 + count, "\\Uxxxxxxxx out of range"⟩
      else .ok (run ++ [n], more + 1 + count)

/-- Read the raw form from place `i` on, after the code points `acc`. -/
def readRaw (bs : Array UInt8) (i : Nat) (acc : Array Nat) : Except Unreadable (Array Nat) :=
  if i < bs.size then
    let c := bs[i]!
    if c != backslash then readRaw bs (i + 1) (acc.push c.toNat)
    else
      match rawEscape bs i with
      | .error e => .error e
      | .ok (ns, taken) => readRaw bs (i + 1 + taken) (acc ++ ns.toArray)
  else .ok acc
termination_by bs.size - i

/-- The code points of octets in the full or the raw form. -/
def decode (raw : Bool) (bs : List UInt8) : Except Unreadable (List Nat) :=
  Array.toList <$> (if raw then readRaw bs.toArray 0 #[] else readFull bs.toArray 0 #[])

end GraphProbe.Escaped
