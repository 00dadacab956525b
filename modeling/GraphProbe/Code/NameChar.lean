import GraphProbe.Text.Unicode

/-!
# Characters of names

A name in package code is a run of letters, digits and underscores that does not start with
a digit. Outside ASCII the letters, marks and digits of every script count too, while
punctuation, symbols and hidden characters do not: a name holding one of those is an error
that shows the character and its code point.

Past ASCII, the rule is kept as a table of what is *not* a name character: the hidden
characters (the same set that a quoted literal writes as escapes), and the blocks of
punctuation and symbols listed below, with the few connector and letter-like characters
inside those blocks set apart. Digits of other scripts may continue a name but not start
one.
-/

namespace GraphProbe.Code

/-- Punctuation and symbols outside ASCII: no part of a name. -/
def symbolRanges : List Text.CodeRange := [
  ⟨0xA1, 0xA9⟩, ⟨0xAB, 0xAC⟩, ⟨0xAE, 0xB4⟩, ⟨0xB6, 0xB6⟩, ⟨0xB8, 0xB9⟩, ⟨0xBB, 0xBF⟩,
  ⟨0xD7, 0xD7⟩, ⟨0xF7, 0xF7⟩, ⟨0x2C2, 0x2C5⟩, ⟨0x2D2, 0x2DF⟩, ⟨0x2E5, 0x2EB⟩,
  ⟨0x2ED, 0x2ED⟩, ⟨0x2EF, 0x2FF⟩, ⟨0x37E, 0x37E⟩, ⟨0x387, 0x387⟩, ⟨0x55A, 0x55F⟩,
  ⟨0x589, 0x58A⟩, ⟨0x5BE, 0x5BE⟩, ⟨0x5C0, 0x5C0⟩, ⟨0x5C3, 0x5C3⟩, ⟨0x5C6, 0x5C6⟩,
  ⟨0x5F3, 0x5F4⟩, ⟨0x606, 0x60F⟩, ⟨0x61B, 0x61B⟩, ⟨0x61D, 0x61F⟩, ⟨0x66A, 0x66D⟩,
  ⟨0x6D4, 0x6D4⟩, ⟨0x964, 0x965⟩, ⟨0x970, 0x970⟩, ⟨0xE3F, 0xE3F⟩, ⟨0xE4F, 0xE4F⟩,
  ⟨0xE5A, 0xE5B⟩, ⟨0x2010, 0x2027⟩, ⟨0x2030, 0x203E⟩, ⟨0x2041, 0x2053⟩,
  ⟨0x2055, 0x205E⟩, ⟨0x2070, 0x2070⟩, ⟨0x2074, 0x207E⟩, ⟨0x2080, 0x208E⟩,
  ⟨0x20A0, 0x20CF⟩, ⟨0x2100, 0x2101⟩, ⟨0x2103, 0x2106⟩, ⟨0x2108, 0x2109⟩,
  ⟨0x2114, 0x2114⟩, ⟨0x2116, 0x2117⟩, ⟨0x211E, 0x2123⟩, ⟨0x2125, 0x2125⟩,
  ⟨0x2127, 0x2127⟩, ⟨0x2129, 0x2129⟩, ⟨0x212E, 0x212E⟩, ⟨0x213A, 0x213B⟩,
  ⟨0x2140, 0x2144⟩, ⟨0x214A, 0x214D⟩, ⟨0x214F, 0x215F⟩, ⟨0x2189, 0x2BFF⟩,
  ⟨0x2CF9, 0x2CFC⟩, ⟨0x2CFE, 0x2CFF⟩, ⟨0x2E00, 0x2E7F⟩, ⟨0x2E80, 0x2FFF⟩,
  ⟨0x3001, 0x3004⟩, ⟨0x3008, 0x3020⟩, ⟨0x3030, 0x3030⟩, ⟨0x3036, 0x3037⟩,
  ⟨0x303D, 0x303F⟩, ⟨0x309B, 0x309C⟩, ⟨0x30A0, 0x30A0⟩, ⟨0x30FB, 0x30FB⟩,
  ⟨0x3190, 0x319F⟩, ⟨0x31C0, 0x31EF⟩, ⟨0x3200, 0x33FF⟩, ⟨0x4DC0, 0x4DFF⟩,
  ⟨0xA490, 0xA4CF⟩, ⟨0xA4FE, 0xA4FF⟩, ⟨0xA60D, 0xA60F⟩, ⟨0xA673, 0xA673⟩,
  ⟨0xA67E, 0xA67E⟩, ⟨0xA6F2, 0xA6F7⟩, ⟨0xA700, 0xA716⟩, ⟨0xA720, 0xA721⟩,
  ⟨0xA789, 0xA78A⟩, ⟨0xFD3E, 0xFD3F⟩, ⟨0xFDFC, 0xFDFF⟩, ⟨0xFE10, 0xFE19⟩,
  ⟨0xFE30, 0xFE32⟩, ⟨0xFE35, 0xFE4C⟩, ⟨0xFE50, 0xFE6F⟩, ⟨0xFF01, 0xFF0F⟩,
  ⟨0xFF1A, 0xFF20⟩, ⟨0xFF3B, 0xFF3E⟩, ⟨0xFF40, 0xFF40⟩, ⟨0xFF5B, 0xFF65⟩,
  ⟨0xFFE0, 0xFFEF⟩, ⟨0xFFFC, 0xFFFD⟩, ⟨0x1D000, 0x1D1FF⟩, ⟨0x1F000, 0x1FBFF⟩]

/-- Whether a character may continue a name. -/
def isNameContinue (c : Char) : Bool :=
  if c.toNat < 128 then c.isAlphanum || c == '_'
  else !Text.isHidden c && !Text.inRanges symbolRanges c.toNat

/-- Whether a character may start a name: one that may continue it and is no digit. -/
def isNameStart (c : Char) : Bool :=
  isNameContinue c && !Text.isDecimalDigit c && !(c.toNat == 0xB7)

/-- Whether a character is read as part of a word before the word is checked: ASCII
letters, digits and underscores, and every character outside ASCII. -/
def isWordChar (c : Char) : Bool := c.isAlphanum || c == '_' || c.toNat ≥ 128

/-- Upper-case hex digits of `n`, at least four. -/
def codeHex (n : Nat) : String :=
  let ds := (Nat.toDigits 16 n).map Char.toUpper
  String.ofList (List.replicate (4 - ds.length) '0' ++ ds)

/-- The error of a character that cannot stand where it stands: a visible one is shown,
a hidden one only by its code point. -/
def badCharMessage (c : Char) : String :=
  if Text.isHidden c then s!"invalid non-printable character U+{codeHex c.toNat}"
  else s!"invalid character '{c}' (U+{codeHex c.toNat})"

/-- The first character of a word that cannot stand in a name, if there is one. -/
def badNameChar? (word : List Char) : Option Char :=
  match word with
  | [] => none
  | c :: rest =>
    if !isNameStart c && c.toNat ≥ 128 then some c
    else rest.find? fun d => !isNameContinue d

end GraphProbe.Code
