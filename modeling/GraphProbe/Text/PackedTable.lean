/-!
# Packed tables of code points

The tables of the multi-octet character sets hold thousands of cells, each a code point or 0
for a cell that stands for nothing, and most code points lie near the one before. A table is
written as a string of symbols and read back by `unpackTable`.

The symbols are the 85 printable ASCII characters other than the quote, the number sign, the
apostrophe, the hyphen, the slash, the backslash, the backtick and the braces, in the order
of their codes; a line break is no symbol and is skipped. The value `s` of a symbol is its
place in that order, and `prev` is the last code point written (0 at the start):

* `s < 60`: the code point `prev + s - 20`;
* `60 ≤ s < 72`: with the next symbol `t`, the code point `prev + (s - 60) * 85 + t - 510`;
* `72 ≤ s < 82`: `s - 71` empty cells;
* `s = 82`: with the next two symbols `a`, `b`, `a * 85 + b + 11` empty cells;
* `s = 83`: with the next three `a`, `b`, `c`, the code point `a * 85 ^ 2 + b * 85 + c`;
* `s = 84`: with the next symbol `t`, the `t + 1` code points after `prev`, one after another.

A symbol that needs more symbols than follow it writes nothing.
-/

namespace GraphProbe.Text

/-- The symbols of a packed table, in the order of their values. -/
def packedSymbols : String :=
  "!$%&()*+,.0123456789:;<=>?@ABCDEFGHIJKLMNOPQRSTUVWXYZ[]^_abcdefghijklmnopqrstuvwxyz|~"

/-- The value of every ASCII character as a symbol (0 for those that are none). -/
def symbolValues : Array Nat :=
  packedSymbols.toList.zipIdx.foldl (fun vs (c, i) => vs.set! c.toNat i) (Array.replicate 128 0)

/-- The value of a symbol. -/
def symbolValue (c : Char) : Nat := symbolValues.getD c.toNat 0

/-- How far the reading of a packed table has come: the cells so far, the last code point
written, and the symbol being completed with the values it still needs. -/
structure Unpacking where
  cells : Array Nat := #[]
  prev : Nat := 0
  /-- The symbol whose further symbols are being read. -/
  head : Nat := 0
  /-- How many further symbols it still needs. -/
  owed : Nat := 0
  /-- The further symbols read so far, as one number in base 85. -/
  acc : Nat := 0

namespace Unpacking

/-- Write a code point. -/
def put (u : Unpacking) (v : Nat) : Unpacking :=
  { u with cells := u.cells.push v, prev := v }

/-- Write `n` empty cells. -/
def skip (u : Unpacking) (n : Nat) : Unpacking :=
  { u with cells := u.cells ++ Array.replicate n 0 }

/-- Write what a symbol and its further symbols, read as `acc`, stand for. -/
def complete (u : Unpacking) (acc : Nat) : Unpacking :=
  let u := { u with owed := 0, acc := 0 }
  if u.head < 72 then u.put (u.prev + acc - 510)
  else if u.head == 82 then u.skip (acc + 11)
  else if u.head == 83 then u.put acc
  else (List.range (acc + 1)).foldl (fun u _ => u.put (u.prev + 1)) u

/-- Read one symbol. -/
def feed (u : Unpacking) (c : Char) : Unpacking :=
  if c == '\n' then u
  else
    let s := symbolValue c
    if u.owed > 0 then
      let acc := u.acc * 85 + s
      if u.owed == 1 then u.complete acc else { u with acc, owed := u.owed - 1 }
    else if s < 60 then u.put (u.prev + s - 20)
    else if s < 72 then { u with head := s, owed := 1, acc := s - 60 }
    else if s < 82 then u.skip (s - 71)
    else if s == 82 then { u with head := s, owed := 2, acc := 0 }
    else if s == 83 then { u with head := s, owed := 3, acc := 0 }
    else { u with head := s, owed := 1, acc := 0 }

end Unpacking

/-- The cells a packed table writes. -/
def unpackTable (code : String) : Array Nat :=
  (code.foldl Unpacking.feed {}).cells

/-- The cell of a table at a place, if it holds a code point. -/
def tableCell? (t : Array Nat) (i : Nat) : Option Nat :=
  match t.getD i 0 with
  | 0 => none
  | v => some v

/-! ### Tables of rows

Other tables are rows of numbers kept in order of their first number: ranges of code points
with what they stand for, or a code point and what it maps to. Such a table is written with
the same symbols, read as numbers in base 42: a symbol of value `s < 42` ends a number, one
of value `42 + d` is a digit `d` with more to follow. A row mostly differs little from the
row before it (`prev`, empty at the start), so it is written by how it differs:

* a number `k > 0`, then `d`, then `k - 1` numbers `z`: a row of `k` numbers, the first `d`
  after the first of `prev`, each other one `unzigzag z` after the number in its place in
  `prev`, or after the number before it where `prev` is shorter;
* `0`, then `n`, then `d`, then one number `z` for each further number of `prev`: `n` rows,
  each the one before it moved by the same amounts, the first number by `d`, the others by
  `unzigzag z`.
-/

/-- The numbers a packed text writes. -/
def packedNumbers (code : String) : List Nat :=
  let step : List Nat × Nat → Char → List Nat × Nat
    | (ns, acc), c =>
      if c == '\n' then (ns, acc)
      else
        let s := symbolValue c
        if s < 42 then ((acc * 42 + s) :: ns, 0) else (ns, acc * 42 + (s - 42))
  (code.foldl step ([], 0)).1.reverse

/-- A difference written as a natural number: even numbers forward, odd ones back. -/
def unzigzag (z : Nat) : Int := if z % 2 = 0 then (z / 2 : Nat) else -(((z + 1) / 2 : Nat) : Int)

/-- The numbers of a row after its first: `k` of them, each relative to the number in its
place in the rest of the row before (`prev`), or to the one just read (`last`). -/
def rowRest (last : Nat) : List Nat → Nat → List Nat → List Nat × List Nat
  | _, 0, zs => ([], zs)
  | prev, k + 1, z :: zs =>
    let v := ((prev.headD last : Int) + unzigzag z).toNat
    let (vs, zs) := rowRest v prev.tail k zs
    (v :: vs, zs)
  | _, _ + 1, [] => ([], [])

/-- Move a row: its first number forward by `d`, the others by their amounts. -/
def moveRow (d : Nat) (ds : List Int) : List Nat → List Nat
  | [] => []
  | x :: xs => (x + d) :: List.zipWith (fun (y : Nat) (e : Int) => ((y : Int) + e).toNat) xs ds

/-- Read rows from the numbers of a packed table, after the row `prev`; each step reads at
least one number, so `fuel` as many as there are is enough. -/
def unpackRowsFrom : Nat → List Nat → List Nat → Array (List Nat) → Array (List Nat)
  | 0, _, _, acc => acc
  | fuel + 1, prev, 0 :: n :: d :: zs, acc =>
    let m := prev.length - 1
    let ds := (zs.take m).map unzigzag
    let (last, acc) := (List.range n).foldl
      (fun (p : List Nat × Array (List Nat)) _ =>
        let r := moveRow d ds p.1
        (r, p.2.push r)) (prev, acc)
    unpackRowsFrom fuel last (zs.drop m) acc
  | fuel + 1, prev, (k + 1) :: d :: zs, acc =>
    let first := prev.headD 0 + d
    let (rest, zs) := rowRest first prev.tail k zs
    unpackRowsFrom fuel (first :: rest) zs (acc.push (first :: rest))
  | _ + 1, _, _, acc => acc

/-- The rows a packed table writes. -/
def unpackRows (code : String) : Array (List Nat) :=
  let ns := packedNumbers code
  unpackRowsFrom ns.length [] ns #[]

/-- The rows of a packed table of ranges, as pairs of first and last code point. -/
def unpackRanges (code : String) : List (Nat × Nat) :=
  (unpackRows code).toList.map fun r => (r.headD 0, r.getD 1 0)

/-! ### Copies

A long packed text may write a stretch that occurred before as a copy of it. -/

/-- The printable letters a copy is written in: all but the quote, the backslash and the
braces. -/
def codeAlphabet : List Char :=
  (List.range 95).filterMap fun i =>
    if i + 0x20 ∈ [0x22, 0x5C, 0x7B, 0x7D] then none else some (Char.ofNat (i + 0x20))

/-- The place of a letter in `codeAlphabet`. -/
def alphabetPlace (c : Char) : Nat := (codeAlphabet.idxOf? c).getD 0

/-- The letters that begin a copy, one octet each: a near copy, a copy and a far copy. -/
def nearMark : Char := '\x01'
def copyMark : Char := '\t'
def farMark : Char := '\x02'

/-- Append `count` letters taken from `back` letters before the end; a copy may reach into
its own letters. -/
def copyBack (out : Array Char) (back count : Nat) : Array Char :=
  let start := out.size - back
  (List.range count).foldl (fun o k => o.push (o.getD (start + k) ' ')) out

/-- Expand the copies of a code onto what was read. After its mark, how far back a copy
starts is written in letters of `codeAlphabet` and how many letters it takes in one more: a
near copy has one letter for the distance less one and takes four letters or more, a copy two
and six or more, a far copy three and seven or more. -/
def expandCopies : List Char → Array Char → Array Char
  | [], out => out
  | c :: rest, out =>
    if c == nearMark then
      match rest with
      | a :: n :: rest =>
        expandCopies rest (copyBack out (alphabetPlace a + 1) (alphabetPlace n + 4))
      | _ => out
    else if c == copyMark then
      match rest with
      | a :: b :: n :: rest =>
        expandCopies rest (copyBack out (alphabetPlace a * 91 + alphabetPlace b) (alphabetPlace n + 6))
      | _ => out
    else if c == farMark then
      match rest with
      | a :: b :: d :: n :: rest =>
        let back := (alphabetPlace a * 91 + alphabetPlace b) * 91 + alphabetPlace d
        expandCopies rest (copyBack out back (alphabetPlace n + 7))
      | _ => out
    else expandCopies rest (out.push c)

/-- A text written with copies, in full; its line breaks only keep the lines short. -/
def expandText (code : String) : String :=
  String.ofList (expandCopies (code.toList.filter (· != '\n')) #[]).toList

end GraphProbe.Text
