import GraphProbe.Text.JisTables
import GraphProbe.Text.GbTables

/-!
# Multi-octet character sets

The Japanese and Chinese character sets write ASCII in one octet and an ideograph in two or
more. Reading goes one character at a time (`readStep`): an octet either stands for a
character by itself, or leads a sequence whose octets are looked up in the tables, or stands
for nothing. A sequence the octets end inside is incomplete, and the fault covers the octets
from its start to the end; any other octets that stand for nothing are illegal, and the fault
covers the lead octet (ISO-2022-JP: the whole pair, or the whole escape sequence).

Two of the sets shift between tables. ISO-2022-JP switches with escape sequences between
ASCII, JIS X 0201 Roman and JIS X 0208 (an escape sequence it does not know passes the octets
after it through as Latin-1 up to a final letter); HZ switches between ASCII and GB 2312 with
`~{` and `~}`, and writes a tilde as `~~`.

Writing looks each character up in the same tables; where a code point has several cells the
first one counts. A character a set cannot write is reported by its place.
-/

namespace GraphProbe.Text

/-- The multi-octet character sets. -/
inductive Multibyte where
  | shiftJis
  /-- The Windows variant of Shift JIS (code page 932). -/
  | windowsJis
  | eucJp
  | iso2022Jp
  | gb2312
  /-- GBK, also code page 936. -/
  | gbk
  | gb18030
  | hz
  deriving BEq, Inhabited

/-- The table a shifting set reads in: ASCII, JIS X 0201 Roman, or the double-octet one. -/
inductive Plane where
  | ascii
  | roman
  | double
  deriving BEq, Inhabited

/-- The state of a shifting set between characters: the table it reads in, and whether an
unknown escape sequence is passing octets through. -/
structure Shift where
  plane : Plane := .ascii
  passing : Bool := false
  deriving Inhabited

/-- What reading at a place gives. -/
inductive ReadStep where
  /-- Characters, the octets they take, and the state after them. -/
  | chars (cs : List Nat) (used : Nat) (next : Shift)
  /-- Octets of a width that stand for nothing. -/
  | illegal (width : Nat)
  /-- A sequence the octets end inside. -/
  | short
  deriving Inhabited

namespace Multibyte

/-- The name faults give a set. -/
def name : Multibyte → String
  | .shiftJis => "shift_jis"
  | .windowsJis => "cp932"
  | .eucJp => "euc_jp"
  | .iso2022Jp => "iso2022_jp"
  | .gb2312 => "gb2312"
  | .gbk => "gbk"
  | .gb18030 => "gb18030"
  | .hz => "hz"

/-- The octet with its high bit turned over. -/
def flipHigh (b : Nat) : Nat := if b ≥ 0x80 then b - 0x80 else b + 0x80

/-- Whether an octet lies in a range. -/
def within (lo hi b : Nat) : Bool := lo ≤ b && b ≤ hi

/-- The cell of a 94 × 94 table at a row and a cell, both named from 0x21. -/
def cell94? (t : Array Nat) (r c : Nat) : Option Nat :=
  if within 0x21 0x7E r && within 0x21 0x7E c then tableCell? t ((r - 0x21) * 94 + (c - 0x21))
  else none

/-- The code point of a JIS X 0208 cell. -/
def jis? (r c : Nat) : Option Nat := cell94? jisTable r c

/-- The code point of a JIS X 0212 cell. -/
def jisSupplement? (r c : Nat) : Option Nat := cell94? jisSupplementTable r c

/-- Whether an octet may follow a Shift JIS lead octet. -/
def shiftTrail (b : Nat) : Bool := within 0x40 0xFC b && b != 0x7F

/-- The JIS X 0208 row and cell of a Shift JIS pair: a lead octet stands for two rows, and
the second octet picks the row and the cell. -/
def shiftRowCell (c c2 : Nat) : Nat × Nat :=
  let lead := if c < 0xE0 then c - 0x81 else c - 0xC1
  let t := if c2 < 0x80 then c2 - 0x40 else c2 - 0x41
  if t < 0x5E then (2 * lead + 0x21, t + 0x21) else (2 * lead + 0x22, t - 0x5E + 0x21)

/-- The Shift JIS pair of a JIS X 0208 row and cell. -/
def shiftPair (r c : Nat) : List Nat :=
  let k := r - 0x21
  let t := (if k % 2 == 1 then 0x5E else 0) + (c - 0x21)
  let lead := k / 2
  [if lead < 0x1F then lead + 0x81 else lead + 0xC1, if t < 0x3F then t + 0x40 else t + 0x41]

/-- The code point of a Shift JIS pair. -/
def shiftCell? (c c2 : Nat) : Option Nat :=
  if shiftTrail c2 then
    let (r, k) := shiftRowCell c c2
    jis? r k
  else none

/-- Whether an octet leads a pair in Shift JIS. -/
def shiftLead (c : Nat) : Bool := within 0x81 0x9F c || within 0xE0 0xEA c

/-- The code point the Windows variant's rule gives a pair: Shift JIS for its lead octets,
the private use area for the lead octets 0xF0 to 0xF9. -/
def windowsRule? (c c2 : Nat) : Option Nat :=
  if shiftLead c then shiftCell? c c2
  else if within 0xF0 0xF9 c && shiftTrail c2 then
    some (0xE000 + 188 * (c - 0xF0) + (if c2 < 0x80 then c2 - 0x40 else c2 - 0x41))
  else none

/-- The place of a pair among the cells of the Windows variant, if it lies among them. -/
def windowsPlace? (c c2 : Nat) : Option Nat :=
  let lead := if within 0x81 0x9F c then some (c - 0x81)
    else if within 0xE0 0xFC c then some (c - 0xE0 + 31) else none
  match lead with
  | some l => if within 0x40 0xFC c2 then some (l * 189 + (c2 - 0x40)) else none
  | none => none

/-- The code point of a pair in the Windows variant of Shift JIS. -/
def windowsCell? (c c2 : Nat) : Option Nat :=
  match windowsPlace? c c2 with
  | some i =>
    match windowsJisDepartures.getD i 0 with
    | 0 => windowsRule? c c2
    | 1 => none
    | v => some v
  | none => windowsRule? c c2

/-- The place of a GBK pair among its cells, if it lies among them. -/
def gbkPlace? (c c2 : Nat) : Option Nat :=
  if within 0x81 0xFE c && within 0x40 0xFE c2 then some ((c - 0x81) * 191 + (c2 - 0x40))
  else none

/-- The code point of a GBK pair. -/
def gbkCell? (c c2 : Nat) : Option Nat :=
  (gbkPlace? c c2).bind (tableCell? gbkTable)

/-- The code point of a GB 18030 pair: GBK's, else the one GB 18030 adds. -/
def gb18030Cell? (c c2 : Nat) : Option Nat :=
  (gbkCell? c c2).orElse fun _ => (gbkPlace? c c2).bind (tableCell? gb18030Additions)

/-- The code point of a GB 2312 cell at a row and a cell, both named from 0x21. -/
def gb2312Cell? (r c : Nat) : Option Nat :=
  if within 0x21 0x7E r && within 0x21 0x7E c then
    match gb2312Departures.lookup ((r + 0x80) * 256 + (c + 0x80)) with
    | some 0 => none
    | some v => some v
    | none => gbkCell? (r + 0x80) (c + 0x80)
  else none

/-- The runs of `gb18030Runs` as an array. -/
def gb18030RunArray : Array (Nat × Nat) := gb18030Runs.toArray

/-- The number of four-octet sequences that stand for code points below U+10000. -/
def fourOctetBmpCount : Nat := 39420

/-- The code point of the four-octet sequence at a place below `fourOctetBmpCount`: the last
run that starts at or before it. -/
def fourOctetPoint (l : Nat) : Nat :=
  match gb18030RunArray.toList.reverse.find? (fun r => r.1 ≤ l) with
  | some (start, first) => first + (l - start)
  | none => l

/-- The place of the four-octet sequence of a code point below U+10000, if one stands for it:
the last run that starts at or before the code point, if it reaches that far. -/
def fourOctetPlace? (n : Nat) : Option Nat := do
  let runs := gb18030RunArray
  let i ← (List.range runs.size).reverse.find? fun i => (runs.getD i (0, 0)).2 ≤ n
  let (start, first) := runs.getD i (0, 0)
  let l := start + (n - first)
  let next := if i + 1 < runs.size then (runs.getD (i + 1) (0, 0)).1 else fourOctetBmpCount
  if l < next then some l else none

/-- The four octets of a place in the order of the four-octet sequences. -/
def fourOctets (l : Nat) : List Nat :=
  [0x81 + l / 12600, 0x30 + l / 1260 % 10, 0x81 + l / 10 % 126, 0x30 + l % 10]

/-- Whether an octet ends an escape sequence. -/
def escapeFinal (b : Nat) : Bool := within 0x41 0x5A b || b == 0x40

/-- The length of the escape sequence at the front of the octets: `none` when they end
before its final octet, `some 0` when it runs too long; `&@` before a final is passed over. -/
def escapeLength (a : Array Nat) : Nat → Nat → Option Nat
  | 0, _ => some 0
  | fuel + 1, i =>
    if i ≥ 16 then some 0
    else if i ≥ a.size then none
    else if escapeFinal (a.getD i 0) then some (i + 1)
    else if a.getD i 0 == 0x26 && i + 1 < a.size && a.getD (i + 1) 0 == 0x40 then
      escapeLength a fuel (i + 3)
    else escapeLength a fuel (i + 1)

/-- The table an escape sequence of ISO-2022-JP designates, if it is a known one: `none` for
one that designates the second table (which the set never shifts to). -/
def designation (a : Array Nat) (len : Nat) : Except Nat (Option Plane) :=
  let b := fun i => a.getD i 0
  let single (final : Nat) : Except Nat Plane :=
    if final == 0x42 then .ok .ascii else if final == 0x4A then .ok .roman else .error len
  let double (final : Nat) : Except Nat Plane :=
    if final == 0x42 || final == 0x40 then .ok .double else .error len
  match len with
  | 0 => .error 1
  | 3 =>
    if b 1 == 0x24 then some <$> double (b 2)
    else if b 1 == 0x28 then some <$> single (b 2)
    else if b 1 == 0x29 then (fun _ => none) <$> single (b 2)
    else .error 3
  | 4 =>
    if b 1 != 0x24 then .error 4
    else if b 2 == 0x28 then some <$> double (b 3)
    else if b 2 == 0x29 then (fun _ => none) <$> double (b 3)
    else .error 4
  | 6 =>
    if b 3 == 0x1B && b 4 == 0x24 && b 5 == 0x42 then .ok (some .double) else .error 6
  | n => .error n

/-- Read an escape sequence of ISO-2022-JP at the front of the octets. -/
def readEscape (st : Shift) (bs : List Nat) : ReadStep :=
  let a := (bs.take 16).toArray
  match escapeLength a 16 1 with
  | none => .short
  | some len =>
    match designation a len with
    | .ok (some p) => .chars [] len { st with plane := p }
    | .ok none => .chars [] len st
    | .error w => .illegal w

/-- One character of a single octet, or a pair read by `pair?`. -/
def pairStep (st : Shift) (rest : List Nat) (pair? : Nat → Option Nat) : ReadStep :=
  match rest with
  | [] => .short
  | c2 :: _ =>
    match pair? c2 with
    | some v => .chars [v] 2 st
    | none => .illegal 1

/-- Read one character of ISO-2022-JP. -/
def readIso2022Jp (st : Shift) (c : Nat) (rest : List Nat) : ReadStep :=
  if st.passing then .chars [c] 1 { st with passing := !escapeFinal c }
  else if c == 0x1B then
    match rest with
    | [] => .short
    | c2 :: _ =>
      if [0x28, 0x29, 0x24, 0x2E, 0x26].contains c2 then readEscape st (c :: rest)
      else .chars [0x1B] 1 { st with passing := true }
  else if c < 0x20 then .chars [c] 1 st
  else if c ≥ 0x80 then .illegal 1
  else
    match st.plane with
    | .ascii => .chars [c] 1 st
    | .roman => .chars [if c == 0x5C then 0xA5 else if c == 0x7E then 0x203E else c] 1 st
    | .double =>
      match rest with
      | [] => .short
      | c2 :: _ =>
        match jis? c c2 with
        | some v => .chars [v] 2 st
        | none => .illegal 2

/-- Read one character of HZ. -/
def readHz (st : Shift) (c : Nat) (rest : List Nat) : ReadStep :=
  if c == 0x7E then
    match rest with
    | [] => .short
    | c2 :: _ =>
      if st.plane == .ascii then
        if c2 == 0x7E then .chars [0x7E] 2 st
        else if c2 == 0x7B then .chars [] 2 { st with plane := .double }
        else if c2 == 0x0A then .chars [] 2 st
        else .illegal 1
      else if c2 == 0x7D then .chars [] 2 { st with plane := .ascii }
      else .illegal 1
  else if c ≥ 0x80 then .illegal 1
  else if st.plane == .ascii then .chars [c] 1 st
  else pairStep st rest (gb2312Cell? c)

/-- Read one character of GB 18030: one octet, a pair, or four octets. -/
def readGb18030 (st : Shift) (c : Nat) (rest : List Nat) : ReadStep :=
  match rest with
  | [] => .short
  | c2 :: rest2 =>
    if within 0x30 0x39 c2 then
      match rest2 with
      | c3 :: c4 :: _ =>
        if !(within 0x81 0xFE c && within 0x81 0xFE c3 && within 0x30 0x39 c4) then .illegal 1
        else
          let l := (((c - 0x81) * 10 + (c2 - 0x30)) * 126 + (c3 - 0x81)) * 10 + (c4 - 0x30)
          if c - 0x81 < 4 then
            if l < fourOctetBmpCount then .chars [fourOctetPoint l] 4 st else .illegal 1
          else if c - 0x81 ≥ 15 then
            let n := 0x10000 + (l - 15 * 12600)
            if n ≤ 0x10FFFF then .chars [n] 4 st else .illegal 1
          else .illegal 1
      | _ => .short
    else
      match gb18030Cell? c c2 with
      | some v => .chars [v] 2 st
      | none => .illegal 1

/-- Read one character at the front of some octets. -/
def readStep (m : Multibyte) (st : Shift) (c : Nat) (rest : List Nat) : ReadStep :=
  match m with
  | .iso2022Jp => readIso2022Jp st c rest
  | .hz => readHz st c rest
  | _ =>
    if c < 0x80 then .chars [c] 1 st
    else
      match m with
      | .shiftJis =>
        if within 0xA1 0xDF c then .chars [0xFEC0 + c] 1 st
        else if shiftLead c then pairStep st rest (shiftCell? c)
        else .illegal 1
      | .windowsJis =>
        if c == 0x80 then .chars [c] 1 st
        else if c == 0xA0 then .chars [0xF8F0] 1 st
        else if within 0xA1 0xDF c then .chars [0xFEC0 + c] 1 st
        else if c ≥ 0xFD then .chars [0xF8F1 + (c - 0xFD)] 1 st
        else pairStep st rest (windowsCell? c)
      | .eucJp =>
        match rest with
        | [] => .short
        | c2 :: rest2 =>
          if c == 0x8E then
            if within 0xA1 0xDF c2 then .chars [0xFEC0 + c2] 2 st else .illegal 1
          else if c == 0x8F then
            match rest2 with
            | [] => .short
            | c3 :: _ =>
              match jisSupplement? (flipHigh c2) (flipHigh c3) with
              | some v => .chars [v] 3 st
              | none => .illegal 1
          else
            match jis? (flipHigh c) (flipHigh c2) with
            | some v => .chars [v] 2 st
            | none => .illegal 1
      | .gb2312 => pairStep st rest fun c2 => gb2312Cell? (flipHigh c) (flipHigh c2)
      | .gbk => pairStep st rest (gbkCell? c)
      | _ => readGb18030 st c rest

/-- Why octets cannot be read: the span of the fault and its reason. -/
structure Unreadable where
  start : Nat
  stop : Nat
  reason : String

/-- Read the octets `bs` from place `pos` on, of `total` octets in all. -/
def readFrom (m : Multibyte) (total : Nat) :
    Nat → Shift → Nat → List Nat → Array Nat → Except Unreadable (Array Nat)
  | 0, _, _, _, out => .ok out
  | _ + 1, _, _, [], out => .ok out
  | fuel + 1, st, pos, c :: rest, out =>
    match m.readStep st c rest with
    | .chars cs used next => m.readFrom total fuel next (pos + used) ((c :: rest).drop used) (out ++ cs)
    | .illegal w => .error ⟨pos, pos + w, "illegal multibyte sequence"⟩
    | .short => .error ⟨pos, total, "incomplete multibyte sequence"⟩

/-- The code points of some octets, or why they cannot be read. -/
def decode (m : Multibyte) (bs : List Nat) : Except Unreadable (List Nat) :=
  Array.toList <$> m.readFrom bs.length bs.length {} 0 bs #[]

/-- The first place in a table that holds a code point. -/
def placeOf? (t : Array Nat) (n : Nat) : Option Nat := t.idxOf? n

/-- The JIS X 0208 row and cell of a code point. -/
def jisRowCell? (n : Nat) : Option (Nat × Nat) :=
  (placeOf? jisTable n).map fun i => (i / 94 + 0x21, i % 94 + 0x21)

/-- The cells of the Windows variant of Shift JIS, cell by cell. -/
def windowsCells : Array Nat :=
  (Array.range (60 * 189)).map fun i =>
    let lead := i / 189
    let c := if lead < 31 then lead + 0x81 else lead - 31 + 0xE0
    (windowsCell? c (i % 189 + 0x40)).getD 0

/-- The cells of GB 2312, cell by cell. -/
def gb2312Cells : Array Nat :=
  (Array.range (94 * 94)).map fun i => (gb2312Cell? (i / 94 + 0x21) (i % 94 + 0x21)).getD 0

/-- The GB 2312 row and cell of a code point. -/
def gb2312RowCell? (n : Nat) : Option (Nat × Nat) :=
  (placeOf? gb2312Cells n).map fun i => (i / 94 + 0x21, i % 94 + 0x21)

/-- The cells of GB 18030's pairs, cell by cell. -/
def gb18030Cells : Array Nat :=
  (Array.range (126 * 191)).map fun i => (gb18030Cell? (i / 191 + 0x81) (i % 191 + 0x40)).getD 0

/-- The octets of one character in a set that does not shift, if the set holds it. -/
def encodeChar (m : Multibyte) (n : Nat) : Option (List Nat) :=
  match m with
  | .shiftJis =>
    if n < 0x80 then some [n]
    else if n == 0xA5 then some [0x5C]
    else if n == 0x203E then some [0x7E]
    else if within 0xFF61 0xFF9F n then some [n - 0xFEC0]
    else (jisRowCell? n).map fun (r, c) => shiftPair r c
  | .windowsJis =>
    if n ≤ 0x80 then some [n]
    else if within 0xFF61 0xFF9F n then some [n - 0xFEC0]
    else if n == 0xF8F0 then some [0xA0]
    else if within 0xF8F1 0xF8F3 n then some [n - 0xF8F1 + 0xFD]
    else
      match placeOf? windowsCells n with
      | some i =>
        let lead := i / 189
        some [if lead < 31 then lead + 0x81 else lead - 31 + 0xE0, i % 189 + 0x40]
      | none => (jisRowCell? n).map fun (r, c) => shiftPair r c
  | .eucJp =>
    if n < 0x80 then some [n]
    else
      match jisRowCell? n with
      | some (r, c) => some [r + 0x80, c + 0x80]
      | none =>
        if within 0xFF61 0xFF9F n then some [0x8E, n - 0xFEC0]
        else if n == 0xA5 then some [0x5C]
        else if n == 0x203E then some [0x7E]
        else
          (placeOf? jisSupplementTable n).map fun i => [0x8F, i / 94 + 0xA1, i % 94 + 0xA1]
  | .gb2312 =>
    if n < 0x80 then some [n] else (gb2312RowCell? n).map fun (r, c) => [r + 0x80, c + 0x80]
  | .gbk =>
    if n < 0x80 then some [n]
    else (placeOf? gbkTable n).map fun i => [i / 191 + 0x81, i % 191 + 0x40]
  | .gb18030 =>
    if n < 0x80 then some [n]
    else
      match placeOf? gb18030Cells n with
      | some i => some [i / 191 + 0x81, i % 191 + 0x40]
      | none =>
        if n ≥ 0x10000 then
          if n ≤ 0x10FFFF then some (fourOctets (n - 0x10000 + 15 * 12600)) else none
        else (fourOctetPlace? n).map fourOctets
  | _ => none

/-- The octets of one character in a shifting set and the table it leaves the set in, if the
set holds the character: the escape or shift into its table goes first when the set is in
another. -/
def encodeShifted (m : Multibyte) (plane : Plane) (n : Nat) : Option (List Nat × Plane) :=
  let enter (p : Plane) (esc : List Nat) (body : List Nat) : List Nat × Plane :=
    (if plane == p then body else esc ++ body, p)
  match m with
  | .hz =>
    if n < 0x80 then
      let body := if n == 0x7E then [0x7E, 0x7E] else [n]
      some (enter .ascii [0x7E, 0x7D] body)
    else (gb2312RowCell? n).map fun (r, c) => enter .double [0x7E, 0x7B] [r, c]
  | _ =>
    if n < 0x80 then some (enter .ascii [0x1B, 0x28, 0x42] [n])
    else
      match jisRowCell? n with
      | some (r, c) => some (enter .double [0x1B, 0x24, 0x42] [r, c])
      | none =>
        if n == 0xA5 then some (enter .roman [0x1B, 0x28, 0x4A] [0x5C])
        else if n == 0x203E then some (enter .roman [0x1B, 0x28, 0x4A] [0x7E])
        else none

/-- The octets a shifting set ends with, to leave it in ASCII. -/
def closing (m : Multibyte) (plane : Plane) : List Nat :=
  if plane == .ascii then []
  else if m == .hz then [0x7E, 0x7D]
  else [0x1B, 0x28, 0x42]

/-- Write code points from place `pos` on, in the table `plane`. -/
def writeFrom (m : Multibyte) : Plane → Nat → List Nat → Array Nat → Except Nat (Array Nat)
  | plane, _, [], out => .ok (out ++ m.closing plane)
  | plane, pos, n :: ns, out =>
    if m == .hz || m == .iso2022Jp then
      match m.encodeShifted plane n with
      | some (bytes, next) => m.writeFrom next (pos + 1) ns (out ++ bytes)
      | none => .error pos
    else
      match m.encodeChar n with
      | some bytes => m.writeFrom plane (pos + 1) ns (out ++ bytes)
      | none => .error pos

/-- The octets of some code points, or the place of the first one the set cannot write. -/
def encode (m : Multibyte) (ns : List Nat) : Except Nat (List Nat) :=
  Array.toList <$> m.writeFrom .ascii 0 ns #[]

end Multibyte

end GraphProbe.Text
