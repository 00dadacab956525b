/-!
# Code points of texts

The texts the kit handles are sequences of code points from 0 to `0x10FFFF`, lone
surrogates (`0xD800` to `0xDFFF`) included: a JSON text may spell one as `\ud800`, and it
then travels through payloads, log messages and queries like any other character.

A `Char` holds every code point but the surrogates, so a `String` spells a text this way:

* a lone surrogate `s` is the one character `s + 0xF0000`, its *stand-in*, which lies in
  the block `0xFD800` to `0xFDFFF` of the supplementary private use area;
* a character of that block, and the escape character `0xFE000` itself, is the escape
  character followed by the character;
* every other code point is its own character.

The spelling is one to one, so two texts are equal exactly when their spellings are.
`pointChars` spells one code point and `points` reads a spelling back; everything that
looks at a text character by character (quoting, escapes, encodings, lengths and
positions) goes through `points`.
-/

namespace GraphProbe.Text

/-- The distance from a surrogate to its stand-in. -/
def surrogateShift : Nat := 0xF0000

/-- Whether `n` is a surrogate code point. -/
def isSurrogateCode (n : Nat) : Bool := 0xD800 ≤ n && n < 0xE000

/-- The escape character: the character after it stands for itself. -/
def escapeMark : Char := Char.ofNat 0xFE000

/-- Whether a character is a stand-in when it is not escaped. -/
def isStandIn (c : Char) : Bool := 0xFD800 ≤ c.toNat && c.toNat ≤ 0xFDFFF

/-- The code point a character spells when it is not escaped. -/
def plainPoint (c : Char) : Nat :=
  if isStandIn c then c.toNat - surrogateShift else c.toNat

/-- The characters that spell a code point below `0x110000`. -/
def pointChars (n : Nat) : List Char :=
  if isSurrogateCode n then [Char.ofNat (n + surrogateShift)]
  else
    let c := Char.ofNat n
    if isStandIn c || c == escapeMark then [escapeMark, c] else [c]

/-- The code points a spelling spells. An escape character at the very end stands for
itself. -/
def points : List Char → List Nat
  | [] => []
  | [c] => [plainPoint c]
  | c :: d :: rest =>
    if c == escapeMark then d.toNat :: points rest else plainPoint c :: points (d :: rest)

/-- The text of code points. -/
def ofPoints (ns : List Nat) : String := String.ofList (ns.flatMap pointChars)

/-- The text of one code point. -/
def pointText (n : Nat) : String := String.ofList (pointChars n)

/-- The code points of a text. -/
def codes (s : String) : List Nat := points s.toList

/-- The number of code points of a text. -/
def codeLength (s : String) : Nat := (codes s).length

/-- The character of a code point that is not a surrogate. -/
def pointChar? (n : Nat) : Option Char :=
  if isSurrogateCode n || n ≥ 0x110000 then none else some (Char.ofNat n)

/-- The character a code point stands for in a character-by-character view: itself, or
the stand-in of a lone surrogate. Two code points can share one view character; the view
is for reading characters one at a time, with `isSurrogateCode` on the code point telling
the two apart. -/
def viewChar (n : Nat) : Char :=
  if isSurrogateCode n then Char.ofNat (n + surrogateShift) else Char.ofNat n

/-- The spelling of a text of characters, none of them standing for a surrogate: the
characters a spelling reserves get the escape character in front. -/
def spell (s : String) : String := String.ofList (s.toList.flatMap fun c => pointChars c.toNat)

/-- A text one character per code point, a lone surrogate as its stand-in: for counting
places and reading line breaks. -/
def view (s : String) : Array Char := ((codes s).map viewChar).toArray

end GraphProbe.Text
