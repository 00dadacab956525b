import GraphProbe.Text.Case

/-!
# Suggestions for misspelt names

When a document names a field, type or argument that does not exist, the error suggests the
existing names that are close to it. Closeness is the edit distance between the lower-case
spellings, where inserting, deleting or replacing a character, or swapping two adjacent
ones, each costs one step; a change of case alone costs one step too, and the same word
costs none. A name is suggested when its distance stays within two fifths of the length of
what was written, plus one. Suggestions are ordered by distance, then naturally (runs of
digits compare as numbers), and at most five are offered.
-/

namespace GraphProbe.Graphql

/-- The next row of the edit distance table: the row for character `x` (with `before` the
character preceding it, if any) against the word `b`, after the rows `up` and `upUp`. -/
def distanceRow (i : Nat) (x : Char) (before : Option Char) (up upUp : Array Nat)
    (b : Array Char) : Array Nat :=
  (List.range b.size).foldl (fun (row : Array Nat) j =>
    let y := b.getD j ' '
    let cost := if x == y then 0 else 1
    let cell := min (min (up.getD (j + 1) 0 + 1) (row.getD j 0 + 1)) (up.getD j 0 + cost)
    let swapped := match before with
      | some w => j ≥ 1 && x == b.getD (j - 1) ' ' && w == y
      | none => false
    let cell := if swapped then min cell (upUp.getD (j - 1) 0 + 1) else cell
    row.push cell) #[i]

/-- The edit distance between two words, adjacent swaps counting as one step. -/
def editDistance (a b : List Char) : Nat :=
  let bs := b.toArray
  let row0 := (List.range (bs.size + 1)).toArray
  let (last, _, _) := a.zipIdx.foldl (fun (acc : Array Nat × Array Nat × Option Char) (x, k) =>
    let (up, upUp, before) := acc
    (distanceRow (k + 1) x before up upUp bs, up, some x)) (row0, row0, none)
  last.getD bs.size 0

/-- The distance of a candidate from what was written, if it is within the threshold. -/
def nearness (written candidate : String) (threshold : Nat) : Option Nat :=
  if written == candidate then some 0
  else
    let a := Text.lower written
    let b := Text.lower candidate
    if a == b then some 1
    else
      let d := editDistance a.toList b.toList
      if d ≤ threshold then some d else none

/-- A name cut into runs of digits and runs of other characters. -/
def naturalRuns (s : String) : List (List Char) :=
  let rec go : List Char → List Char → Bool → List (List Char)
    | [], run, _ => [run.reverse]
    | c :: cs, run, digits =>
      if c.isDigit == digits then go cs (c :: run) digits
      else run.reverse :: go cs [c] (!digits)
  go s.toList [] false

/-- The number a run of digits stands for. -/
def runValue (run : List Char) : Nat := run.foldl (fun n c => 10 * n + (c.toNat - 48)) 0

/-- Whether one list of runs comes before another in natural order: runs of digits (every
second run) compare by their number first, then by their text. -/
def runsBefore : List (List Char) → List (List Char) → Bool → Bool
  | [], [], _ => false
  | [], _ :: _, _ => true
  | _ :: _, [], _ => false
  | x :: xs, y :: ys, digits =>
    let lt := if digits then runValue x < runValue y ||
        (runValue x == runValue y && decide (String.ofList x < String.ofList y))
      else decide (String.ofList x < String.ofList y)
    if lt then true
    else if x == y then runsBefore xs ys (!digits)
    else false

/-- Whether one name comes before another in natural order. -/
def naturalBefore (a b : String) : Bool := runsBefore (naturalRuns a) (naturalRuns b) false

/-- The candidates close to what was written, nearest first. -/
def suggestionList (written : String) (candidates : List String) : List String :=
  let threshold := written.length * 2 / 5 + 1
  let near := candidates.eraseDups.filterMap fun c => (nearness written c threshold).map (c, ·)
  (near.mergeSort fun (a, da) (b, db) => da < db || (da == db && naturalBefore a b)).map (·.1)

/-- The most suggestions offered. -/
def suggestionLimit : Nat := 5

/-- The sentence that offers suggestions, or nothing when there are none. -/
def didYouMean (suggestions : List String) (subMessage : Option String := none) : String :=
  let quoted := (suggestions.take suggestionLimit).map fun s => "'" ++ s ++ "'"
  let lead := " Did you mean " ++ (match subMessage with | some m => m ++ " " | none => "")
  match quoted with
  | [] => ""
  | [a] => lead ++ a ++ "?"
  | [a, b] => lead ++ a ++ " or " ++ b ++ "?"
  | _ => lead ++ ", ".intercalate quoted.dropLast ++ ", or " ++ quoted.getLastD "" ++ "?"

end GraphProbe.Graphql
