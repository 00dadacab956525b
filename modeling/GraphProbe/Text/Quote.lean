import GraphProbe.Text.Unicode

/-!
# Quoted literals of text and bytes

Messages of the kit show texts and byte strings as quoted literals. The quote is `'` unless
the text holds a `'` and no `"`. Inside, the backslash and the chosen quote are escaped,
tab, newline and carriage return get their letter escapes, and every hidden character is
written by its code point: two hex digits below 256, four below 65536, eight above.

Byte strings are written `b'…'` with the same quote choice; bytes outside the printable
ASCII range are written as two hex digits.
-/

namespace GraphProbe.Text

/-- Lower-case hex digits of `n`, padded with zeros to `width`. -/
def hexPadded (width n : Nat) : String :=
  let ds := Nat.toDigits 16 n
  String.ofList (List.replicate (width - ds.length) '0' ++ ds)

/-- The single quote. -/
def singleQuote : Char := Char.ofNat 0x27

/-- Which quote a literal of these code points uses. -/
def quoteFor (ns : List Nat) : Char :=
  if ns.contains singleQuote.toNat && !ns.contains '"'.toNat then '"' else singleQuote

/-- The escaped form of one code point inside a literal with quote `q`. -/
def escapePoint (q : Char) (n : Nat) : String :=
  if n == '\\'.toNat then "\\\\"
  else if n == q.toNat then "\\" ++ q.toString
  else if n == '\t'.toNat then "\\t"
  else if n == '\n'.toNat then "\\n"
  else if n == '\r'.toNat then "\\r"
  else if n < 0x20 || n == 0x7F then "\\x" ++ hexPadded 2 n
  else if n < 0x7F then pointText n
  else
    match pointChar? n with
    | some c =>
      if !isHidden c then pointText n
      else if n < 0x100 then "\\x" ++ hexPadded 2 n
      else if n < 0x10000 then "\\u" ++ hexPadded 4 n
      else "\\U" ++ hexPadded 8 n
    | none => "\\u" ++ hexPadded 4 n

/-- The quoted literal of a text. -/
def quote (s : String) : String :=
  let ns := codes s
  let q := quoteFor ns
  q.toString ++ String.join (ns.map (escapePoint q)) ++ q.toString

/-- The escaped form of one byte inside a byte literal with quote `q`. -/
def escapeByte (q : Char) (b : UInt8) : String :=
  let n := b.toNat
  if n == 0x5C then "\\\\"
  else if n == q.toNat then "\\" ++ q.toString
  else if n == 0x09 then "\\t"
  else if n == 0x0A then "\\n"
  else if n == 0x0D then "\\r"
  else if n < 0x20 || n ≥ 0x7F then "\\x" ++ hexPadded 2 n
  else (Char.ofNat n).toString

/-- The literal of a byte string, `b'…'`. -/
def quoteBytes (bs : List UInt8) : String :=
  let q := quoteFor (bs.map UInt8.toNat)
  "b" ++ q.toString ++ String.join (bs.map (escapeByte q)) ++ q.toString

end GraphProbe.Text
