import GraphProbe.Code.Arith
import GraphProbe.Text.Fold
import GraphProbe.Text.Letters

/-!
# Texts and byte strings as sequences

Texts are sequences of code points and byte strings sequences of octets; searching,
counting, splitting, replacing and stripping work the same way on both, on arrays of
naturals (`Seq`). Positions follow slices: a negative start or end counts from the end, and
both are clipped to the sequence.

The case of a text follows Unicode's full mappings (`Text.upperChar`, `Text.lowerChar`,
`Text.titleChar`, `Text.foldChar`), with a capital sigma lowered to the final form where it
ends a word; the case of a byte string changes ASCII letters only. Lone surrogates have no
case and belong to no class of characters.
-/

namespace GraphProbe.Code

/-- A sequence of code points or octets. -/
abbrev Seq := Array Nat

namespace Seq

/-- The code points of a text. -/
def ofText (s : String) : Seq := (Text.codes s).toArray

/-- The text of code points. -/
def toText (q : Seq) : String := Text.ofPoints q.toList

/-- The octets of a byte string. -/
def ofBytes (bs : Array UInt8) : Seq := bs.map UInt8.toNat

/-- The byte string of octets. -/
def toBytes (q : Seq) : Array UInt8 := q.map Nat.toUInt8

/-- A start and an end as slices read them: negative ones count from the end, and both are
clipped to `[0, len]`. -/
def bounds (len : Nat) (start stop : Option Int) : Nat × Nat :=
  let fix (i : Int) : Nat :=
    if i < 0 then (max (i + len) 0).toNat else min i.toNat len
  ((start.map fix).getD 0, (stop.map fix).getD len)

/-- The slice from `a` up to `b`. -/
def slice (q : Seq) (a b : Nat) : Seq := q.extract a b

/-- Whether `needle` stands in `hay` at position `i`. -/
def matchesAt (hay needle : Seq) (i : Nat) : Bool :=
  i + needle.size ≤ hay.size && (List.range needle.size).all fun k => hay[i + k]! == needle[k]!

/-- The first position in `[start, stop)` where `needle` stands wholly inside the range. -/
def find? (hay needle : Seq) (start stop : Nat) : Option Nat :=
  if start > hay.size || start + needle.size > stop then none
  else (List.range (stop - needle.size - start + 1)).findSome? fun k =>
    if matchesAt hay needle (start + k) then some (start + k) else none

/-- The last position in `[start, stop)` where `needle` stands wholly inside the range. -/
def rfind? (hay needle : Seq) (start stop : Nat) : Option Nat :=
  if start > hay.size || start + needle.size > stop then none
  else (List.range (stop - needle.size - start + 1)).reverse.findSome? fun k =>
    if matchesAt hay needle (start + k) then some (start + k) else none

/-- The number of places `needle` stands in `[start, stop)` without overlapping; an empty
needle stands between any two items and at both ends. -/
def count (hay needle : Seq) (start stop : Nat) : Nat :=
  if start > hay.size then 0
  else if needle.size == 0 then (if stop ≥ start then stop - start + 1 else 0)
  else go start (stop + 1) 0
where
  /-- Count from `i`, at most `fuel` steps. -/
  go (i : Nat) : Nat -> Nat -> Nat
    | 0, acc => acc
    | fuel + 1, acc =>
      if i + needle.size > stop then acc
      else if matchesAt hay needle i then go (i + needle.size) fuel (acc + 1)
      else go (i + 1) fuel acc

/-- Replace the first `limit` places of `old` by `new`, left to right; an empty `old`
stands before every item and at the end. -/
def replace (hay old new : Seq) (limit : Nat) : Seq :=
  if old.size == 0 then
    go0 0 limit #[] (hay.size + 1)
  else go 0 limit #[] (hay.size + 1)
where
  /-- Walk from `i` with `left` replacements to go, at most `fuel` steps. -/
  go (i left : Nat) (acc : Seq) : Nat -> Seq
    | 0 => acc ++ hay.extract i hay.size
    | fuel + 1 =>
      if i ≥ hay.size then acc
      else if left > 0 && matchesAt hay old i then go (i + old.size) (left - 1) (acc ++ new) fuel
      else go (i + 1) left (acc.push hay[i]!) fuel
  /-- Insert `new` before items while replacements are left. -/
  go0 (i left : Nat) (acc : Seq) : Nat -> Seq
    | 0 => acc ++ hay.extract i hay.size
    | fuel + 1 =>
      let acc := if left > 0 then acc ++ new else acc
      if i ≥ hay.size then acc
      else go0 (i + 1) (left - (if left > 0 then 1 else 0)) (acc.push hay[i]!) fuel

/-- Split at each place of a non-empty separator, at most `limit` times from the left. -/
def split (hay sep : Seq) (limit : Option Nat) : List Seq :=
  go 0 0 (limit.getD hay.size) [] (hay.size + 1)
where
  /-- Scan from `i`, the current piece starting at `from`. -/
  go (from_ i left : Nat) (acc : List Seq) : Nat -> List Seq
    | 0 => (hay.extract from_ hay.size :: acc).reverse
    | fuel + 1 =>
      if left == 0 || i + sep.size > hay.size then (hay.extract from_ hay.size :: acc).reverse
      else if matchesAt hay sep i then
        go (i + sep.size) (i + sep.size) (left - 1) (hay.extract from_ i :: acc) fuel
      else go from_ (i + 1) left acc fuel

/-- Split at each place of a non-empty separator, at most `limit` times from the right. -/
def rsplit (hay sep : Seq) (limit : Option Nat) : List Seq :=
  let rev (q : Seq) : Seq := q.reverse
  (split (rev hay) (rev sep) limit).reverse.map rev

/-- Split at runs of blanks, at most `limit` times from the left; blanks at the ends give no
pieces, and the rest after the last split keeps its trailing blanks. -/
def splitBlank (isBlank : Nat -> Bool) (hay : Seq) (limit : Option Nat) : List Seq :=
  go 0 (limit.getD hay.size) [] (hay.size + 1)
where
  /-- Take pieces from `i`, with `left` splits to go. -/
  go (i left : Nat) (acc : List Seq) : Nat -> List Seq
    | 0 => acc.reverse
    | fuel + 1 =>
      let start := (List.range (hay.size - i)).find? (fun k => !isBlank hay[i + k]!)
      match start with
      | none => acc.reverse
      | some k =>
        let s := i + k
        if left == 0 then (hay.extract s hay.size :: acc).reverse
        else
          let stop := ((List.range (hay.size - s)).find? (fun j => isBlank hay[s + j]!)).map (s + ·)
          match stop with
          | none => (hay.extract s hay.size :: acc).reverse
          | some e => go e (left - 1) (hay.extract s e :: acc) fuel

/-- Split at runs of blanks, at most `limit` times from the right. -/
def rsplitBlank (isBlank : Nat -> Bool) (hay : Seq) (limit : Option Nat) : List Seq :=
  (splitBlank isBlank hay.reverse limit).reverse.map Array.reverse

/-- Drop items of a class from the left, the right, or both ends. -/
def strip (keep : Nat -> Bool) (q : Seq) (left right : Bool) : Seq :=
  let l := q.toList
  let l := if left then l.dropWhile (!keep ·) else l
  let l := if right then (l.reverse.dropWhile (!keep ·)).reverse else l
  l.toArray

/-- The lines of a sequence, split after each line break, kept when `keepEnds`; `\r\n` is
one break. -/
def splitLines (isBreak : Nat -> Bool) (q : Seq) (keepEnds : Bool) : List Seq :=
  go 0 0 [] (q.size + 1)
where
  /-- Scan from `i`, the current line starting at `from_`. -/
  go (from_ i : Nat) (acc : List Seq) : Nat -> List Seq
    | 0 => acc.reverse
    | fuel + 1 =>
      if i ≥ q.size then
        (if from_ < q.size then q.extract from_ q.size :: acc else acc).reverse
      else if isBreak q[i]! then
        let endBreak := if q[i]! == 13 && i + 1 < q.size && q[i + 1]! == 10 then i + 2 else i + 1
        let line := q.extract from_ (if keepEnds then endBreak else i)
        go endBreak endBreak (line :: acc) fuel
      else go from_ (i + 1) acc fuel

/-- Replace tabs by spaces up to the next multiple of `size` columns; line breaks restart
the column. -/
def expandTabs (q : Seq) (size : Int) : Seq := Id.run do
  let mut out : Seq := #[]
  let mut col : Nat := 0
  for c in q do
    if c == 9 then
      if size > 0 then
        let n := size.toNat - col % size.toNat
        out := out ++ Array.replicate n 32
        col := col + n
    else
      out := out.push c
      col := if c == 10 || c == 13 then 0 else col + 1
  return out

end Seq

/-! ### Classes of code points -/

/-- Whether a code point is a lone surrogate. -/
def isSurrogate (n : Nat) : Bool := Text.isSurrogateCode n

/-- The character of a code point that is no surrogate. -/
def pointCharOf (n : Nat) : Char := Char.ofNat n

/-- Whether a code point is a blank of texts. -/
def isBlankPoint (n : Nat) : Bool := !isSurrogate n && Text.isBlank (pointCharOf n)

/-- Whether a code point breaks lines of texts. -/
def isLineBreakPoint (n : Nat) : Bool :=
  n == 10 || n == 13 || n == 11 || n == 12 || n == 0x1C || n == 0x1D || n == 0x1E ||
    n == 0x85 || n == 0x2028 || n == 0x2029

/-- Whether an octet is a blank of byte strings. -/
def isBlankOctet (n : Nat) : Bool := n == 32 || (9 ≤ n && n ≤ 13)

/-- Whether an octet breaks lines of byte strings. -/
def isLineBreakOctet (n : Nat) : Bool := n == 10 || n == 13

/-- Whether a code point is upper case. -/
def isUpperPoint (n : Nat) : Bool := !isSurrogate n && Text.isUpperChar (pointCharOf n)

/-- Whether a code point is lower case. -/
def isLowerPoint (n : Nat) : Bool := !isSurrogate n && Text.isLowerChar (pointCharOf n)

/-- Whether a code point is title case. -/
def isTitlePoint (n : Nat) : Bool := !isSurrogate n && Text.isTitleChar (pointCharOf n)

/-- Whether a code point has a case. -/
def isCasedPoint (n : Nat) : Bool := !isSurrogate n && Text.isCased (pointCharOf n)

/-- Whether a code point is a decimal digit. -/
def isDecimalPoint (n : Nat) : Bool := !isSurrogate n && (Text.digitValue? (pointCharOf n)).isSome

/-- Whether a code point is printable. -/
def isPrintablePoint (n : Nat) : Bool := !isSurrogate n && (n == 32 || !Text.isHidden (pointCharOf n))

/-- Whether a code point is alphanumeric: a letter, or numeric. -/
def isAlnumPoint (n : Nat) : Bool := Text.isLetterPoint n || Text.isNumericPoint n

/-! ### Case of texts -/

/-- The mapping of a code point by a case mapping of characters; surrogates keep. -/
def mapPoint (f : Char -> List Char) (n : Nat) : List Nat :=
  if isSurrogate n then [n] else (f (pointCharOf n)).map Char.toNat

/-- Whether a capital sigma at position `i` ends a word. -/
def sigmaEndsWord (q : Seq) (i : Nat) : Bool :=
  let chars (l : List Nat) : List Char := (l.filter (!isSurrogate ·)).map pointCharOf
  Text.endsWord (chars (q.toList.take i).reverse) (chars (q.toList.drop (i + 1)))

/-- Lower a code point at a position, a capital sigma that ends a word to the final form. -/
def lowerAt (q : Seq) (i : Nat) : List Nat :=
  let n := q[i]!
  if n == 0x3A3 && sigmaEndsWord q i then [0x3C2] else mapPoint Text.lowerChar n

/-- A text in lower case. -/
def textLower (q : Seq) : Seq :=
  ((List.range q.size).flatMap (lowerAt q)).toArray

/-- A text in upper case. -/
def textUpper (q : Seq) : Seq := (q.toList.flatMap (mapPoint Text.upperChar)).toArray

/-- A text case-folded. -/
def textFold (q : Seq) : Seq := (q.toList.flatMap (mapPoint Text.foldChar)).toArray

/-- A text with upper and lower case swapped. -/
def textSwap (q : Seq) : Seq :=
  ((List.range q.size).flatMap fun i =>
    let n := q[i]!
    if isUpperPoint n then lowerAt q i
    else if isLowerPoint n then mapPoint Text.upperChar n
    else [n]).toArray

/-- A text with its first character in title case and the rest in lower case. -/
def textCapitalize (q : Seq) : Seq :=
  ((List.range q.size).flatMap fun i =>
    if i == 0 then mapPoint Text.titleChar q[0]! else lowerAt q i).toArray

/-- A text in title case: a character after a cased one lowered, any other in title
case. -/
def textTitle (q : Seq) : Seq := Id.run do
  let mut out : Seq := #[]
  let mut prevCased := false
  for i in [0:q.size] do
    let n := q[i]!
    out := out ++ (if prevCased then lowerAt q i else mapPoint Text.titleChar n).toArray
    prevCased := isCasedPoint n
  return out

/-- Whether a text has a cased character and all its cased characters are lower case. -/
def textIsLower (q : Seq) : Bool :=
  !q.any (fun n => isUpperPoint n || isTitlePoint n) && q.any isLowerPoint

/-- Whether a text has a cased character and all its cased characters are upper case. -/
def textIsUpper (q : Seq) : Bool :=
  !q.any (fun n => isLowerPoint n || isTitlePoint n) && q.any isUpperPoint

/-- Whether a text is in title case: upper and title case characters only after uncased
ones, lower case ones only after cased ones, and at least one cased character. -/
def textIsTitle (q : Seq) : Bool := Id.run do
  let mut cased := false
  let mut prevCased := false
  for n in q do
    if isUpperPoint n || isTitlePoint n then
      if prevCased then return false
      prevCased := true
      cased := true
    else if isLowerPoint n then
      if !prevCased then return false
      prevCased := true
      cased := true
    else prevCased := false
  return cased

/-! ### Case of byte strings -/

/-- An octet in lower case. -/
def octetLower (n : Nat) : Nat := if 65 ≤ n && n ≤ 90 then n + 32 else n

/-- An octet in upper case. -/
def octetUpper (n : Nat) : Nat := if 97 ≤ n && n ≤ 122 then n - 32 else n

/-- Whether an octet is an ASCII letter. -/
def isAlphaOctet (n : Nat) : Bool := (65 ≤ n && n ≤ 90) || (97 ≤ n && n ≤ 122)

/-- Whether an octet is an ASCII digit. -/
def isDigitOctet (n : Nat) : Bool := 48 ≤ n && n ≤ 57

/-- A byte string in title case. -/
def bytesTitle (q : Seq) : Seq := Id.run do
  let mut out : Seq := #[]
  let mut prevCased := false
  for n in q do
    out := out.push (if prevCased then octetLower n else octetUpper n)
    prevCased := isAlphaOctet n
  return out

/-- A byte string with its first octet in upper case and the rest in lower case. -/
def bytesCapitalize (q : Seq) : Seq :=
  q.mapIdx fun i n => if i == 0 then octetUpper n else octetLower n

/-- A byte string with the case of its letters swapped. -/
def bytesSwap (q : Seq) : Seq :=
  q.map fun n => if 65 ≤ n && n ≤ 90 then n + 32 else if 97 ≤ n && n ≤ 122 then n - 32 else n

/-- Whether a byte string is in title case. -/
def bytesIsTitle (q : Seq) : Bool := Id.run do
  let mut cased := false
  let mut prevCased := false
  for n in q do
    if 65 ≤ n && n ≤ 90 then
      if prevCased then return false
      prevCased := true
      cased := true
    else if 97 ≤ n && n ≤ 122 then
      if !prevCased then return false
      prevCased := true
      cased := true
    else prevCased := false
  return cased

/-! ### Names and padding -/

/-- Whether a text is a name: a character that may start one, then characters that may
continue one. -/
def textIsIdentifier (q : Seq) : Bool :=
  match q.toList with
  | [] => false
  | c :: rest => Text.isNameStartPoint c && rest.all Text.isNameContinuePoint

/-- Pad a sequence to `width` with `fill`: on the right (`<`), the left (`>`), or both, the
odd one on the right unless both the padding and the width are odd (`^`). -/
def padSeq (q : Seq) (width : Int) (fill : Nat) (align : Char) : Seq :=
  if width ≤ q.size then q else
  let pad := width.toNat - q.size
  match align with
  | '<' => q ++ Array.replicate pad fill
  | '>' => Array.replicate pad fill ++ q
  | _ =>
    let left := pad / 2 + (if pad % 2 == 1 && width.toNat % 2 == 1 then 1 else 0)
    Array.replicate left fill ++ q ++ Array.replicate (pad - left) fill

/-- Pad a numeric text with zeros on the left to `width`, after its sign. -/
def zeroFill (q : Seq) (width : Int) : Seq :=
  if width ≤ q.size then q else
  let pad := width.toNat - q.size
  match q.toList with
  | s :: rest => if s == 43 || s == 45 then
      #[s] ++ Array.replicate pad 48 ++ rest.toArray
    else Array.replicate pad 48 ++ q
  | [] => Array.replicate pad 48

end GraphProbe.Code
