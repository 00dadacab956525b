import GraphProbe.Fault

/-!
# Punycode

Punycode (RFC 3492) spells any text in ASCII: the ASCII characters of the text in their
order, a `-` if there are some, then for each other code point, in increasing order and for
each of its places, the distance from the last insertion as a variable-length number of
base-36 digits (`a`-`z` for 0 to 25, `0`-`9` for 26 to 35) whose thresholds follow a bias
that adapts to the distances seen.

Reading takes everything before the last `-` as the ASCII part and the rest, in upper
case, as the digits. It stops with a fault at an octet beyond ASCII (reported by the ASCII
character set, on the part it lies in), at a digit that is no letter or decimal digit, at
digits that break off, and at a code point beyond `U+10FFFF`; the last three are text
faults, which a character set wraps with its name.
-/

namespace GraphProbe.Punycode

/-- The threshold of the `j`-th digit of a number under a bias: `36 (j + 1) - bias`, kept
between 1 and 26. -/
def threshold (j bias : Nat) : Nat :=
  if 36 * (j + 1) ≤ bias then 1
  else if 36 * (j + 1) ≥ bias + 26 then 26
  else 36 * (j + 1) - bias

theorem threshold_pos (j bias : Nat) : 1 ≤ threshold j bias := by
  unfold threshold
  split
  · omega
  · split <;> omega

theorem threshold_le (j bias : Nat) : threshold j bias ≤ 26 := by
  unfold threshold
  split
  · omega
  · split <;> omega

/-- Divide a distance by 35 until it is at most 455, counting 36 for each division. -/
def shrink (delta divisions : Nat) : Nat × Nat :=
  if 455 < delta then shrink (delta / 35) (divisions + 36) else (delta, divisions)
termination_by delta
decreasing_by exact Nat.div_lt_self (by omega) (by omega)

/-- The bias after a distance, the first one damped by 700 and the others halved, with
`count` code points placed so far. -/
def adapt (delta : Nat) (first : Bool) (count : Nat) : Nat :=
  let delta := if first then delta / 700 else delta / 2
  let delta := delta + delta / count
  let (delta, divisions) := shrink delta 0
  divisions + 36 * delta / (delta + 38)

/-- The octet of a digit value below 36. -/
def digitOctet (d : Nat) : UInt8 := (if d < 26 then 0x61 + d else 0x30 + d - 26).toUInt8

/-- The digits of a number under a bias, the `j`-th digit first. -/
def numberDigits (bias j q : Nat) : List UInt8 :=
  let t := threshold j bias
  if q < t then [digitOctet q]
  else digitOctet (t + (q - t) % (36 - t)) :: numberDigits bias (j + 1) ((q - t) / (36 - t))
termination_by q
decreasing_by
  have := threshold_pos j bias
  have := threshold_le j bias
  calc (q - threshold j bias) / (36 - threshold j bias)
      ≤ q - threshold j bias := Nat.div_le_self _ _
    _ < q := by omega

/-- The state of writing: the digits so far, the distance run up, the bias and the number
of code points placed. -/
structure Writer where
  out : Array UInt8
  delta : Nat
  bias : Nat
  placed : Nat

/-- Pass one code point of the text while placing the code point `m`: a smaller one adds
to the distance, `m` itself writes the distance. -/
def Writer.pass (basic m : Nat) (w : Writer) (n : Nat) : Writer :=
  if n < m then { w with delta := w.delta + 1 }
  else if n == m then
    { out := w.out ++ (numberDigits w.bias 0 w.delta).toArray, delta := 0,
      bias := adapt w.delta (w.placed == basic) (w.placed + 1), placed := w.placed + 1 }
  else w

/-- Place the code points `todo`, in increasing order, after `n`. -/
def placeAll (text : List Nat) (basic : Nat) : List Nat → Nat → Writer → Writer
  | [], _, w => w
  | m :: rest, n, w =>
    let w := { w with delta := w.delta + (m - n) * (w.placed + 1) }
    let w := text.foldl (Writer.pass basic m) w
    placeAll text basic rest (m + 1) { w with delta := w.delta + 1 }

/-- The distinct code points of a list beyond ASCII, in increasing order. -/
def extendedPoints (text : List Nat) : List Nat :=
  ((text.filter (· ≥ 0x80)).mergeSort (· ≤ ·)).eraseDups

/-- The Punycode octets of a text. -/
def encode (text : List Nat) : List UInt8 :=
  let basic := (text.filter (· < 0x80)).map Nat.toUInt8
  let w := placeAll text basic.length (extendedPoints text) 0x80
    { out := #[], delta := 0, bias := 72, placed := basic.length }
  (if basic.isEmpty then [] else basic ++ [0x2D]) ++ w.out.toList

/-- The fault of a text error while reading. -/
def textFault (message : String) : Fault := .simple (.named "UnicodeError" .invalidValue) message

/-- The characters of ASCII octets, or the fault of the first octet beyond ASCII. -/
def asciiChars (bs : List UInt8) : Except Fault (List Char) :=
  match bs.findIdx? (· ≥ 0x80) with
  | some i => .error (.raised .undecodable
      [.str "ascii", .bytes bs, .int i, .int (i + 1), .str "ordinal not in range(128)"])
  | none => .ok (bs.map fun b => Char.ofNat b.toNat)

/-- The value of a digit read in upper case: `A`-`Z` for 0 to 25, `0`-`9` for 26 to 35. -/
def digitValue? (c : Char) : Option Nat :=
  if 'A' ≤ c && c ≤ 'Z' then some (c.toNat - 'A'.toNat)
  else if '0' ≤ c && c ≤ '9' then some (c.toNat - '0'.toNat + 26)
  else none

/-- Read one number under a bias: its value and the digits after it. -/
def readNumber (bias : Nat) : List Char → Nat → Nat → Nat → Except Fault (Nat × List Char)
  | [], _, _, _ => .error (textFault "incomplete punicode string")
  | c :: rest, j, w, acc =>
    match digitValue? c with
    | none => .error (textFault s!"Invalid extended code point '{c}'")
    | some d =>
      let t := threshold j bias
      if d < t then .ok (acc + d * w, rest)
      else readNumber bias rest (j + 1) (w * (36 - t)) (acc + d * w)

theorem readNumber_length (bias : Nat) : ∀ (l : List Char) (j w acc : Nat)
    (r : Nat × List Char), readNumber bias l j w acc = .ok r → r.2.length < l.length
  | [], _, _, _, _, h => by simp [readNumber] at h
  | c :: rest, j, w, acc, r, h => by
    rw [readNumber] at h
    split at h
    · simp at h
    · simp only [] at h
      split at h
      · rw [← (Except.ok.inj h)]; simp
      · have := readNumber_length bias rest (j + 1) _ _ r h
        simp; omega

/-- The lower-case hex digits of a number. -/
def hexText (n : Nat) : String := String.ofList (Nat.toDigits 16 n)

/-- Insert the code points the digits spell into the ASCII part `base`: the next code
point to try, the place after the last insertion and the bias go along. -/
def insertAll (base : List Nat) (point next bias : Nat) (first : Bool) :
    List Char → Except Fault (List Nat)
  | [] => .ok base
  | c :: rest =>
    match h : readNumber bias (c :: rest) 0 1 0 with
    | .error e => .error e
    | .ok (delta, more) =>
      let size := base.length + 1
      let pos := next + delta
      let point := point + pos / size
      if point > 0x10FFFF then .error (textFault s!"Invalid character U+{hexText point}")
      else
        let pos := pos % size
        let base := base.take pos ++ point :: base.drop pos
        insertAll base point (pos + 1) (adapt delta first base.length) false more
termination_by l => l.length
decreasing_by
  have := readNumber_length bias (c :: rest) 0 1 0 (delta, more) h
  simpa using this

/-- The code points of Punycode octets. -/
def decode (bs : List UInt8) : Except Fault (List Nat) := do
  let (basePart, digitPart) := match (bs.reverse.findIdx? (· == 0x2D)) with
    | some k => (bs.take (bs.length - k - 1), bs.drop (bs.length - k))
    | none => ([], bs)
  let base ← if bs.contains 0x2D then asciiChars basePart else pure []
  let digits ← asciiChars digitPart
  insertAll (base.map Char.toNat) 0x80 0 72 true (digits.map Char.toUpper)

end GraphProbe.Punycode
