import GraphProbe.Fault

/-!
# UTF-8 decoding

A lead octet fixes how many continuation octets follow (none, one, two or three) and the
range of the first of them, which is narrower after `E0`, `ED`, `F0` and `F4` so that no
code point is encoded twice, no surrogate is encoded, and nothing lies beyond `U+10FFFF`.

`Utf8.decode` reads octets into text or reports the first sequence that breaks off: a lead
octet that starts nothing, a continuation octet out of range (the report covers the valid
octets before it), or data that ends inside a sequence (the report runs to the end).
-/

namespace GraphProbe.Utf8

/-- Why octets are no UTF-8. -/
inductive DecodeError where
  | invalidStart (start : Nat)
  | invalidContinuation (start stop : Nat)
  | unexpectedEnd (start stop : Nat)
  deriving BEq, Repr

/-- The continuation octets a lead octet needs, and the range of the first of them. -/
def leadShape (b : Nat) : Option (Nat × Nat × Nat) :=
  if 0xC2 ≤ b && b ≤ 0xDF then some (1, 0x80, 0xBF)
  else if b == 0xE0 then some (2, 0xA0, 0xBF)
  else if b == 0xED then some (2, 0x80, 0x9F)
  else if 0xE1 ≤ b && b ≤ 0xEF then some (2, 0x80, 0xBF)
  else if b == 0xF0 then some (3, 0x90, 0xBF)
  else if b == 0xF4 then some (3, 0x80, 0x8F)
  else if 0xF1 ≤ b && b ≤ 0xF3 then some (3, 0x80, 0xBF)
  else none

/-- The payload bits of a lead octet that needs `n` continuations. -/
def leadBits (b n : Nat) : Nat :=
  match n with
  | 1 => b % 0x20
  | 2 => b % 0x10
  | _ => b % 0x08

/-- Read `n` continuation octets after a lead at `start`; the first must lie in `lo..hi`.
`seen` counts the octets of the sequence read so far. The result is the code point and the
rest, or the error. -/
def continuations (start : Nat) (lo hi : Nat) :
    Nat → Nat → Nat → List Nat → Except DecodeError (Nat × List Nat)
  | 0, _, acc, rest => .ok (acc, rest)
  | _ + 1, seen, _, [] => .error (.unexpectedEnd start (start + seen))
  | n + 1, seen, acc, c :: rest =>
    let (l, h) := if seen == 1 then (lo, hi) else (0x80, 0xBF)
    if l ≤ c && c ≤ h then continuations start lo hi n (seen + 1) (acc * 0x40 + c % 0x40) rest
    else .error (.invalidContinuation start (start + seen))

/-- Decode octets starting at position `pos`, into the spelling of their code points. -/
def decodeFrom : Nat → List Nat → Nat → Except DecodeError (List Char)
  | 0, _, _ => .ok []
  | _, [], _ => .ok []
  | fuel + 1, b :: rest, pos =>
    if b < 0x80 then (Char.ofNat b :: ·) <$> decodeFrom fuel rest (pos + 1)
    else
      match leadShape b with
      | none => .error (.invalidStart pos)
      | some (n, lo, hi) =>
        match continuations pos lo hi n 1 (leadBits b n) rest with
        | .error e => .error e
        | .ok (code, rest') => (Text.pointChars code ++ ·) <$> decodeFrom fuel rest' (pos + n + 1)

/-- The octets of a code point in UTF-8. A surrogate takes the three octets its number
would take, which no decoder reads back. -/
def pointOctets (n : Nat) : List UInt8 :=
  if n < 0x80 then [n.toUInt8]
  else if n < 0x800 then [(0xC0 + n / 0x40).toUInt8, (0x80 + n % 0x40).toUInt8]
  else if n < 0x10000 then
    [(0xE0 + n / 0x1000).toUInt8, (0x80 + n / 0x40 % 0x40).toUInt8, (0x80 + n % 0x40).toUInt8]
  else
    [(0xF0 + n / 0x40000).toUInt8, (0x80 + n / 0x1000 % 0x40).toUInt8,
      (0x80 + n / 0x40 % 0x40).toUInt8, (0x80 + n % 0x40).toUInt8]

/-- The octets of a text in UTF-8. -/
def encode (s : String) : List UInt8 := (Text.codes s).flatMap pointOctets

/-- Decode octets into text. -/
def decode (bs : List UInt8) : Except DecodeError String :=
  let ns := bs.map UInt8.toNat
  String.ofList <$> decodeFrom (ns.length + 1) ns 0

/-- Decode octets into text, each broken sequence replaced by `U+FFFD`. -/
def decodeLossy (bs : List UInt8) : String :=
  String.ofList (go (bs.length + 1) (bs.map UInt8.toNat) 0)
where
  /-- Decode octets starting at position `pos`. -/
  go : Nat → List Nat → Nat → List Char
    | 0, _, _ => []
    | _, [], _ => []
    | fuel + 1, b :: rest, pos =>
      if b < 0x80 then Char.ofNat b :: go fuel rest (pos + 1)
      else
        match leadShape b with
        | none => '\uFFFD' :: go fuel rest (pos + 1)
        | some (n, lo, hi) =>
          match continuations pos lo hi n 1 (leadBits b n) rest with
          | .ok (code, rest') => Text.pointChars code ++ go fuel rest' (pos + n + 1)
          | .error (.invalidContinuation s e) => '\uFFFD' :: go fuel ((b :: rest).drop (e - s)) e
          | .error _ => ['\uFFFD']

/-- The fault of octets that are no UTF-8: the codec, all the octets, the span of the
broken sequence and the reason. -/
def DecodeError.toFault (bs : List UInt8) : DecodeError → Fault
  | .invalidStart s => fault s (s + 1) "invalid start byte"
  | .invalidContinuation s e => fault s e "invalid continuation byte"
  | .unexpectedEnd s e => fault s e "unexpected end of data"
where
  /-- The fault with its five arguments. -/
  fault (start stop : Nat) (reason : String) : Fault :=
    .raised .undecodable [.str "utf-8", .bytes bs, .int start, .int stop, .str reason]

/-- Text with its line ends made uniform: `\r\n` and `\r` become `\n`. -/
def uniformLines (s : String) : String :=
  String.ofList (go s.toList)
where
  /-- Rewrite the line ends of a character list. -/
  go : List Char → List Char
    | '\r' :: '\n' :: rest => '\n' :: go rest
    | '\r' :: rest => '\n' :: go rest
    | c :: rest => c :: go rest
    | [] => []

end GraphProbe.Utf8
