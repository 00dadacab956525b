import GraphProbe.Text.Escaped

/-!
# UTF-7

UTF-7 spells text in seven-bit octets. Most ASCII characters stand for themselves; any other
run of characters is written as its UTF-16 code units in base 64 between a `+` and an
optional `-` (a `-` is written when the next character is a base-64 digit or a `-`
itself). A `+` alone is written `+-`.

Writing sends `+`, `\`, `~` and the control characters other than tab, line feed and
carriage return through base 64, and every character beyond ASCII. Reading takes any ASCII
octet but `+` as itself. Inside a base-64 run, a high surrogate followed by a low one is one
code point; one without its partner stands alone. Reading stops at an octet beyond ASCII,
at a `+` before an octet that is no base-64 digit or `-`, and at a run that ends with bits
left over: six or more of them, or fewer that are not all zero. A run that breaks off
reports the span from its `+`.
-/

namespace GraphProbe.Utf7

open Escaped (Unreadable)

/-- The base-64 digits in order of value. -/
def digitTable : List Char :=
  "ABCDEFGHIJKLMNOPQRSTUVWXYZabcdefghijklmnopqrstuvwxyz0123456789+/".toList

/-- The octet of a base-64 digit value below 64. -/
def digitOctet (v : Nat) : UInt8 := ((digitTable.getD (v % 64) 'A').toNat).toUInt8

/-- The value of a base-64 digit octet. -/
def digitValue? (b : UInt8) : Option Nat :=
  let n := b.toNat
  if 0x41 ≤ n && n ≤ 0x5A then some (n - 0x41)
  else if 0x61 ≤ n && n ≤ 0x7A then some (n - 0x61 + 26)
  else if 0x30 ≤ n && n ≤ 0x39 then some (n - 0x30 + 52)
  else if n == 0x2B then some 62
  else if n == 0x2F then some 63
  else none

/-- Whether a code point is a base-64 digit. -/
def isDigitPoint (n : Nat) : Bool := n < 0x80 && (digitValue? n.toUInt8).isSome

/-- Whether a code point is written as itself: ASCII but NUL, `+`, `\`, `~`, delete and the
control characters other than tab, line feed and carriage return. -/
def isDirect (n : Nat) : Bool :=
  0 < n && n < 0x7F && n != 0x2B && n != 0x5C && n != 0x7E &&
    (n ≥ 0x20 || n == 9 || n == 10 || n == 13)

/-- The state of writing: whether a base-64 run is open, and the bits not yet written with
their number. -/
structure Writer where
  inRun : Bool := false
  bits : Nat := 0
  buffer : Nat := 0
  out : Array UInt8 := #[]

/-- Add sixteen bits to a run and write every full digit. -/
def Writer.unit (w : Writer) (u : Nat) : Writer :=
  let bits := w.bits + 16
  let buffer := w.buffer * 0x10000 + u
  let count := bits / 6
  let left := bits % 6
  let digits := (List.range count).reverse.map fun k => digitOctet (buffer / 2 ^ (left + 6 * k))
  { w with bits := left, buffer := buffer % 2 ^ left, out := w.out ++ digits.toArray }

/-- Write the code units of a code point into an open run. -/
def Writer.units (w : Writer) (n : Nat) : Writer :=
  if n ≥ 0x10000 then
    let m := n - 0x10000
    (w.unit (0xD800 + m / 0x400)).unit (0xDC00 + m % 0x400)
  else w.unit n

/-- Write the bits left in a run, padded with zeros to a digit. -/
def Writer.flush (w : Writer) : Writer :=
  if w.bits > 0 then
    { w with bits := 0, buffer := 0, out := w.out.push (digitOctet (w.buffer * 2 ^ (6 - w.bits))) }
  else w

/-- Write one code point. -/
def Writer.put (w : Writer) (n : Nat) : Writer :=
  if w.inRun then
    if isDirect n then
      let w := w.flush
      let w := if isDigitPoint n || n == 0x2D then { w with out := w.out.push 0x2D } else w
      { w with inRun := false, out := w.out.push n.toUInt8 }
    else w.units n
  else if n == 0x2B then { w with out := w.out ++ #[0x2B, 0x2D] }
  else if isDirect n then { w with out := w.out.push n.toUInt8 }
  else ({ w with inRun := true, out := w.out.push 0x2B }).units n

/-- The octets of code points in UTF-7. Every code point has them. -/
def encode (ns : List Nat) : List UInt8 :=
  let w := (ns.foldl Writer.put {}).flush
  (if w.inRun then w.out.push 0x2D else w.out).toList

/-- An open base-64 run while reading: the place of its `+`, the bits read but not yet
used with their number, and a high surrogate waiting for its partner. -/
structure Run where
  start : Nat
  bits : Nat := 0
  buffer : Nat := 0
  high : Option Nat := none

/-- Whether a code unit is a high surrogate. -/
def isHigh (u : Nat) : Bool := 0xD800 ≤ u && u < 0xDC00

/-- Whether a code unit is a low surrogate. -/
def isLow (u : Nat) : Bool := 0xDC00 ≤ u && u < 0xE000

/-- Take a code unit read in a run: join it to a waiting high surrogate, or let it wait, or
give it out. -/
def Run.take (r : Run) (u : Nat) (acc : Array Nat) : Run × Array Nat :=
  match r.high with
  | some h =>
    if isLow u then ({ r with high := none }, acc.push (0x10000 + (h - 0xD800) * 0x400 + (u - 0xDC00)))
    else if isHigh u then ({ r with high := some u }, acc.push h)
    else ({ r with high := none }, (acc.push h).push u)
  | none => if isHigh u then ({ r with high := some u }, acc) else (r, acc.push u)

/-- Add a base-64 digit to a run, taking a code unit once sixteen bits are there. -/
def Run.digit (r : Run) (v : Nat) (acc : Array Nat) : Run × Array Nat :=
  let bits := r.bits + 6
  let buffer := r.buffer * 64 + v
  if bits ≥ 16 then
    let left := bits - 16
    ({ r with bits := left, buffer := buffer % 2 ^ left }).take (buffer / 2 ^ left) acc
  else ({ r with bits := bits, buffer := buffer }, acc)

/-- Whether a run that ends here leaves bits that spell nothing. -/
def Run.leftOver (r : Run) : Bool := r.bits ≥ 6 || (r.bits > 0 && r.buffer != 0)

/-- Read octets at place `pos` on, outside a base-64 run or inside one. -/
def read : List UInt8 → Nat → Option Run → Array Nat → Except Unreadable (Array Nat)
  | [], _, none, acc => .ok acc
  | [], pos, some r, acc =>
    if r.high.isSome || r.leftOver then .error ⟨r.start, pos, "unterminated shift sequence"⟩
    else .ok acc
  | b :: rest, pos, none, acc =>
    if b == 0x2B then
      match rest with
      | 0x2D :: more => read more (pos + 2) none (acc.push 0x2B)
      | c :: more =>
        if (digitValue? c).isSome then read (c :: more) (pos + 1) (some { start := pos }) acc
        else .error ⟨pos, pos + 2, "ill-formed sequence"⟩
      | [] => read [] (pos + 1) (some { start := pos }) acc
    else if b < 0x80 then read rest (pos + 1) none (acc.push b.toNat)
    else .error ⟨pos, pos + 1, "unexpected special character"⟩
  | b :: rest, pos, some r, acc =>
    match digitValue? b with
    | some v =>
      let (r, acc) := r.digit v acc
      read rest (pos + 1) (some r) acc
    | none =>
      if r.bits ≥ 6 then .error ⟨r.start, pos + 1, "partial character in shift sequence"⟩
      else if r.bits > 0 && r.buffer != 0 then
        .error ⟨r.start, pos + 1, "non-zero padding bits in shift sequence"⟩
      else
        let acc := match r.high with
          | some h => if b < 0x80 && b != 0x2B then acc.push h else acc
          | none => acc
        if b == 0x2D then read rest (pos + 1) none acc
        else read (b :: rest) pos none acc
termination_by bs _ run => (bs.length, if run.isSome then 1 else 0)

/-- The code points of octets in UTF-7. -/
def decode (bs : List UInt8) : Except Unreadable (List Nat) :=
  Array.toList <$> read bs 0 none #[]

end GraphProbe.Utf7
