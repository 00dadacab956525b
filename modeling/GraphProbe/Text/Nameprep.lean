import GraphProbe.Text.Nameprep.Tables
import GraphProbe.Text.Quote

/-!
# Preparing domain labels

A label beyond ASCII is prepared before it is spelled in ASCII (RFC 3491): some code
points are mapped to nothing and the others are case folded; the result is brought to
compatibility composition (decomposed fully, put in canonical order, composed again);
then no prohibited code point may remain, and a label with a code point written right to
left must hold none written left to right and must begin and end with one written right to
left.

Composition replaces the last starter by what it composes with a later code point,
unless a code point between them is a starter or has a combining class at least as high;
Hangul syllables are composed and decomposed by rule.
-/

namespace GraphProbe.Nameprep

/-- The row of a table sorted by its first number whose first number is `key`, searched
between places `lo` and `hi`. -/
def findRow (rows : Array (List Nat)) (key : Nat) (lo hi : Nat) : Option (List Nat) :=
  if lo < hi then
    let mid := (lo + hi) / 2
    match rows[mid]? with
    | some (k :: rest) =>
      if k == key then some rest
      else if k < key then findRow rows key (mid + 1) hi
      else findRow rows key lo mid
    | _ => none
  else none
termination_by hi - lo

/-- Whether a code point lies in a range of a table of sorted ranges. -/
def inRangeRows (rows : Array (List Nat)) (n : Nat) (lo hi : Nat) : Option (List Nat) :=
  if lo < hi then
    let mid := (lo + hi) / 2
    match rows[mid]? with
    | some (first :: last :: rest) =>
      if n < first then inRangeRows rows n lo mid
      else if n > last then inRangeRows rows n (mid + 1) hi
      else some rest
    | _ => none
  else none
termination_by hi - lo

/-- The code points mapped to nothing. -/
def mappedAway : List Nat := (Text.unpackRows mappedAwayRows).toList.filterMap List.head?

/-- The case fold table. -/
def folds : Array (List Nat) := Text.unpackRows foldRows

/-- The decomposition table. -/
def decompositions : Array (List Nat) := Text.unpackRows decompositionRows

/-- The combining class table. -/
def combiningClasses : Array (List Nat) := Text.unpackRows combiningRows

/-- The composition table, keyed by the two code points as one number. -/
def compositions : Array (List Nat) :=
  ((Text.unpackRows compositionRows).toList.filterMap fun
    | [a, b, c] => some [a * 0x110000 + b, c]
    | _ => none).toArray

/-- The prohibited ranges. -/
def prohibited : Array (List Nat) := Text.unpackRows prohibitedRows

/-- The ranges written right to left. -/
def rightToLeft : Array (List Nat) := Text.unpackRows rightToLeftRows

/-- The ranges written left to right. -/
def leftToRight : Array (List Nat) := Text.unpackRows leftToRightRows

/-- Whether a code point lies in a table of ranges. -/
def inTable (rows : Array (List Nat)) (n : Nat) : Bool :=
  (inRangeRows rows n 0 rows.size).isSome

/-- The code points a code point is case folded to. -/
def fold (n : Nat) : List Nat := (findRow folds n 0 folds.size).getD [n]

/-- The combining class of a code point. -/
def combiningClass (n : Nat) : Nat :=
  match inRangeRows combiningClasses n 0 combiningClasses.size with
  | some (k :: _) => k
  | _ => 0

/-- The first Hangul syllable. -/
def syllableBase : Nat := 0xAC00

/-- The first leading consonant jamo. -/
def leadBase : Nat := 0x1100

/-- The first vowel jamo. -/
def vowelBase : Nat := 0x1161

/-- The place just before the first trailing consonant jamo. -/
def tailBase : Nat := 0x11A7

/-- The full compatibility decomposition of a code point. -/
def decompose (n : Nat) : List Nat :=
  if syllableBase ≤ n && n < syllableBase + 11172 then
    let s := n - syllableBase
    [leadBase + s / 588, vowelBase + s % 588 / 28] ++
      (if s % 28 == 0 then [] else [tailBase + s % 28])
  else (findRow decompositions n 0 decompositions.size).getD [n]

/-- Put each run of code points of nonzero combining class in order of class, keeping the
order of code points of one class. -/
def canonicalOrder (ns : List Nat) : List Nat :=
  let (done, run) := ns.foldl (fun (done, run) n =>
    if combiningClass n == 0 then
      (done ++ run.mergeSort (fun a b => combiningClass a ≤ combiningClass b) ++ [n], [])
    else (done, run ++ [n])) ([], [])
  done ++ run.mergeSort (fun a b => combiningClass a ≤ combiningClass b)

/-- What two code points compose to. -/
def composePair? (a b : Nat) : Option Nat :=
  match findRow compositions (a * 0x110000 + b) 0 compositions.size with
  | some (c :: _) => some c
  | _ => none

/-- The state of composing: the code points so far, the place of the last starter, and the
combining class of the last code point put after it. -/
structure Composer where
  out : Array Nat := #[]
  starter : Option Nat := none
  last : Nat := 0

/-- The Hangul syllable a leading consonant forms with the code points after it: the
syllable and how many code points after it it takes. -/
def syllableAfter (l : Nat) : List Nat → Option (Nat × Nat)
  | v :: rest =>
    if leadBase ≤ l && l < leadBase + 19 && vowelBase ≤ v && v < vowelBase + 21 then
      let s := syllableBase + ((l - leadBase) * 21 + (v - vowelBase)) * 28
      match rest with
      | t :: _ => if tailBase < t && t < tailBase + 28 then some (s + t - tailBase, 2) else some (s, 1)
      | [] => some (s, 1)
    else none
  | [] => none

/-- Compose code points in canonical order. -/
def compose : List Nat → Composer → Array Nat
  | [], st => st.out
  | n :: rest, st =>
    match syllableAfter n rest with
    | some (syllable, taken) =>
      compose (rest.drop taken) { out := st.out.push syllable, starter := some st.out.size, last := 0 }
    | none => compose rest (step st n)
termination_by ns => ns.length
decreasing_by
  all_goals simp only [List.length_drop, List.length_cons]
  all_goals omega
where
  /-- Take one code point that starts no Hangul syllable. -/
  step (st : Composer) (n : Nat) : Composer :=
    let k := combiningClass n
    let joined := match st.starter with
      | some s => if st.last == 0 || st.last < k then
          (st.out[s]?).bind fun a => (composePair? a n).map (s, ·)
        else none
      | none => none
    match joined with
    | some (s, c) => { st with out := st.out.set! s c }
    | none =>
      { out := st.out.push n, starter := if k == 0 then some st.out.size else st.starter,
        last := k }

/-- The compatibility composition of code points. -/
def normalize (ns : List Nat) : List Nat :=
  (compose (canonicalOrder (ns.flatMap decompose)) {}).toList

/-- A label prepared, or the reason it cannot be. -/
def prepare (label : List Nat) : Except String (List Nat) := do
  let mapped := label.flatMap fun n => if mappedAway.contains n then [] else fold n
  let normal := normalize mapped
  match normal.find? (inTable prohibited) with
  | some n => throw ("Invalid character " ++ Text.quote (Text.pointText n))
  | none => pure ()
  let rtl := normal.map (inTable rightToLeft)
  if rtl.any id then
    if normal.any (inTable leftToRight) then throw "Violation of BIDI requirement 2"
    if !(rtl.headD false) || !(rtl.getLastD false) then throw "Violation of BIDI requirement 3"
  pure normal

end GraphProbe.Nameprep
