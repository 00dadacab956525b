import GraphProbe.Text.Unicode
import GraphProbe.Text.CaseMapping

/-!
# Upper and lower case

The full case mapping of Unicode: a character maps to its upper or lower case, which may be
several characters (`ß` to `SS`, `İ` to `i̇`). A capital sigma that ends a word lowers to the
final sigma `ς`: a cased letter stands before it and none after it, case-ignorable
characters (marks, modifiers, inner quotes) skipped on both sides.

`isUpperText` tells a text written in capitals: it holds an upper-case letter and no lower-
or title-case one.
-/

namespace GraphProbe.Text

/-- Whether `n` lies in `[lo, hi]`. -/
def within (n lo hi : Nat) : Bool := lo ≤ n && n ≤ hi

/-- The code point a run moves `n` to, if `n` is one of its code points. -/
def CaseRun.target? (r : CaseRun) (n : Nat) : Option Nat :=
  if within n r.lo r.hi && (n - r.lo) % r.stride == 0 then some (n + r.delta).toNat else none

/-- The case of a character by a table of runs and one of several-character mappings. -/
def mapCase (runs : List CaseRun) (special : List (Nat × List Nat)) (c : Char) : List Char :=
  let n := c.toNat
  match special.lookup n with
  | some ms => ms.map Char.ofNat
  | none =>
    match runs.findSome? (·.target? n) with
    | some m => [Char.ofNat m]
    | none => [c]

/-- Whether `n` lies in one of a list of ranges. -/
def inPairs (rs : List (Nat × Nat)) (n : Nat) : Bool := rs.any fun (lo, hi) => within n lo hi

/-- The upper case of a character. -/
def upperChar (c : Char) : List Char := mapCase upperRuns upperSpecial c

/-- The lower case of a character. -/
def lowerChar (c : Char) : List Char := mapCase lowerRuns lowerSpecial c

/-- Whether a character is a title-case letter. -/
def isTitleChar (c : Char) : Bool := inPairs titleCaseRanges c.toNat

/-- Whether a character is an upper-case character. -/
def isUpperChar (c : Char) : Bool := inPairs upperCaseRanges c.toNat

/-- Whether a character is a lower-case character. -/
def isLowerChar (c : Char) : Bool := inPairs lowerCaseRanges c.toNat

/-- Whether a character has a case. -/
def isCased (c : Char) : Bool := isUpperChar c || isLowerChar c || isTitleChar c

/-- Whether a character is ignored when looking for the cased letters around a capital
sigma. -/
def isCaseIgnorable (c : Char) : Bool := inPairs caseIgnorableRanges c.toNat

/-- A text in upper case. -/
def upper (s : String) : String := String.ofList (s.toList.flatMap upperChar)

/-- The capital sigma. -/
def capitalSigma : Char := Char.ofNat 0x3A3

/-- Whether a capital sigma ends a word: with the characters `before` it (nearest first) and
`after` it, the nearest one before that is not case-ignorable is cased, and the nearest one
after that is not case-ignorable, if any, is not. -/
def endsWord (before after : List Char) : Bool :=
  match before.dropWhile isCaseIgnorable with
  | c :: _ =>
    isCased c &&
      match after.dropWhile isCaseIgnorable with
      | [] => true
      | d :: _ => !isCased d
  | [] => false

/-- Lower the characters of a text, `before` holding the characters before them, nearest
first. -/
def lowerChars (before : List Char) : List Char → List Char
  | [] => []
  | c :: rest =>
    let mapped :=
      if c == capitalSigma && endsWord before rest then [Char.ofNat 0x3C2] else lowerChar c
    mapped ++ lowerChars (c :: before) rest

/-- A text in lower case. -/
def lower (s : String) : String := String.ofList (lowerChars [] s.toList)

/-- Whether a text is written in capitals: it holds an upper-case letter and no lower- or
title-case one. -/
def isUpperText (s : String) : Bool :=
  s.toList.any isUpperChar && !s.toList.any fun c => isLowerChar c || isTitleChar c

end GraphProbe.Text
