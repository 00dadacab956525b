import GraphProbe.Json.Value
import GraphProbe.Number.Text

/-!
# Reading JSON text

`Json.read` turns a text into a `Value` or says why it cannot, naming the position (counted
in characters, with its line and column) where reading stopped. The grammar is JSON's, with
three additions: the names `NaN`, `Infinity` and `-Infinity` stand for the special doubles.
Between tokens only space, tab, newline and carriage return may stand.

The reader follows one fixed strategy, and its error positions come from it:

* a value starts with `"`, `{`, `[`, one of the names, or a number; anything else is
  "Expecting value" at that position;
* an object wants a quoted key, then `:`, then a value, then `,` or `}`; an array wants a
  value, then `,` or `]`; the first token that does not fit is reported;
* a number is `-? (0 | [1-9][0-9]*) (.[0-9]+)? ([eE][-+]?[0-9]+)?`, taken as long as it
  goes; a fraction or exponent makes it a double, correctly rounded;
* a text may not hold a raw control character; its escapes are `\" \\ \/ \b \f \n \r \t`
  and `\uXXXX`, where a high and a low surrogate escape in a row make one character and any
  other surrogate escape stays a lone surrogate;
* after the value only blanks may follow.

Integers of more than 4300 digits are refused, as are containers nested more than 1000 deep,
and a text that starts with a byte order mark.
-/

namespace GraphProbe.Json

/-- The syntax faults a reader reports. -/
inductive SyntaxFault where
  | expectingValue
  | expectingPropertyName
  | expectingColon
  | expectingComma
  | unterminatedString
  | invalidControlCharacter
  | invalidEscape
  | invalidUnicodeEscape
  | extraData
  | byteOrderMark
  deriving BEq, Repr, Inhabited

/-- The words of a syntax fault. -/
def SyntaxFault.text : SyntaxFault → String
  | .expectingValue => "Expecting value"
  | .expectingPropertyName => "Expecting property name enclosed in double quotes"
  | .expectingColon => "Expecting ':' delimiter"
  | .expectingComma => "Expecting ',' delimiter"
  | .unterminatedString => "Unterminated string starting at"
  | .invalidControlCharacter => "Invalid control character at"
  | .invalidEscape => "Invalid \\escape"
  | .invalidUnicodeEscape => "Invalid \\uXXXX escape"
  | .extraData => "Extra data"
  | .byteOrderMark => "Unexpected UTF-8 BOM (decode using utf-8-sig)"

/-- A position in a text: character offset, line and column (both from 1). -/
structure Position where
  offset : Nat
  line : Nat
  column : Nat
  deriving BEq, Repr, Inhabited

/-- Why a text could not be read. -/
inductive ReadError where
  /-- The text breaks the grammar at a position. -/
  | malformed (fault : SyntaxFault) (at_ : Position)
  /-- An integer literal has more digits than allowed. -/
  | integerTooLong (digits : Nat)
  /-- Containers nest too deeply; the flag tells whether an object was being entered. -/
  | nestedTooDeep (inObject : Bool)
  deriving BEq, Repr, Inhabited

/-- The message of a syntax fault with its position. -/
def syntaxMessage (f : SyntaxFault) (p : Position) : String :=
  s!"{f.text}: line {p.line} column {p.column} (char {p.offset})"

/-- The deepest nesting of containers the reader accepts. -/
def maxDepth : Nat := 1000

/-- Line and column of an offset of the spelling: the offset counts the code points before
it, and lines are counted by the newlines before it. -/
def locate (cs : Array Char) (offset : Nat) : Position :=
  let before := Text.points (cs.toList.take offset)
  let nl := '\n'.toNat
  let line := before.count nl + 1
  let lastNl := (before.reverse.findIdx? (· == nl))
  let column := match lastNl with
    | some k => k + 1
    | none => before.length + 1
  ⟨before.length, line, column⟩

/-- A syntax error at an offset. -/
def fault (cs : Array Char) (f : SyntaxFault) (offset : Nat) : ReadError :=
  .malformed f (locate cs offset)

/-- Whether a character may stand between tokens. -/
def isSpace (c : Char) : Bool := c == ' ' || c == '\t' || c == '\n' || c == '\r'

/-- The first offset at or after `i` that holds no blank between tokens. -/
def skipSpace (cs : Array Char) (i : Nat) : Nat :=
  go i (cs.size - i)
where
  /-- Step over at most `fuel` blanks. -/
  go (i : Nat) : Nat → Nat
    | 0 => i
    | fuel + 1 => if (cs[i]?.map isSpace).getD false then go (i + 1) fuel else i

/-- Whether the offset holds an ASCII digit. -/
def digitAt (cs : Array Char) (i : Nat) : Bool :=
  match cs[i]? with
  | some c => '0' ≤ c && c ≤ '9'
  | none => false

/-- The first offset at or after `i` that holds no ASCII digit. -/
def skipDigits (cs : Array Char) (i : Nat) : Nat :=
  go i (cs.size - i)
where
  /-- Step over at most `fuel` digits. -/
  go (i : Nat) : Nat → Nat
    | 0 => i
    | fuel + 1 => if digitAt cs i then go (i + 1) fuel else i

/-- Whether the characters from offset `i` spell `word`. -/
def spells (cs : Array Char) (i : Nat) (word : String) : Bool :=
  (word.toList.zipIdx).all fun (c, k) => cs[i + k]? == some c

/-- The value of a hex digit. -/
def hexValue? (c : Char) : Option Nat :=
  if '0' ≤ c && c ≤ '9' then some (c.toNat - '0'.toNat)
  else if 'a' ≤ c && c ≤ 'f' then some (c.toNat - 'a'.toNat + 10)
  else if 'A' ≤ c && c ≤ 'F' then some (c.toNat - 'A'.toNat + 10)
  else none

/-- Four hex digits from offset `i`. -/
def hex4? (cs : Array Char) (i : Nat) : Option Nat :=
  [0, 1, 2, 3].foldlM (fun acc k => do
    let c ← cs[i + k]?
    let v ← hexValue? c
    pure (16 * acc + v)) 0

/-- The text of a number literal between two offsets, as a value. -/
def numberValue (cs : Array Char) (start stop : Nat) (isFloat : Bool) :
    Except ReadError Value :=
  let lit := (cs.extract start stop).toList
  let (neg, body) := match lit with
    | '-' :: r => (true, r)
    | r => (false, r)
  if isFloat then
    -- split mantissa digits, fraction digits and exponent
    let intPart := body.takeWhile (fun c => '0' ≤ c && c ≤ '9')
    let rest := body.drop intPart.length
    let (fracPart, rest) := match rest with
      | '.' :: r => (r.takeWhile (fun c => '0' ≤ c && c ≤ '9'),
                     r.dropWhile (fun c => '0' ≤ c && c ≤ '9'))
      | r => ([], r)
    let expVal : Int := match rest with
      | c :: r =>
        if c == 'e' || c == 'E' then
          match r with
          | '-' :: ds => -(Number.digitsValue (ds.map fun d => d.toNat - 48) : Int)
          | '+' :: ds => Number.digitsValue (ds.map fun d => d.toNat - 48)
          | ds => Number.digitsValue (ds.map fun d => d.toNat - 48)
        else 0
      | [] => 0
    let mant := Number.digitsValue ((intPart ++ fracPart).map fun d => d.toNat - 48)
    let e : Int := expVal - fracPart.length
    .ok (.float (if neg then -(Number.ofDecimal mant e) else Number.ofDecimal mant e))
  else
    if body.length > Number.maxIntDigits then .error (.integerTooLong body.length)
    else
      let v := Number.digitsValue (body.map fun d => d.toNat - 48)
      .ok (.int (if neg then -(v : Int) else v))

/-- A number starting at `start`, or "Expecting value" there. -/
def scanNumber (cs : Array Char) (start : Nat) : Except ReadError (Value × Nat) := do
  let lastIdx := cs.size - 1
  let i := if cs[start]? == some '-' then start + 1 else start
  if i > lastIdx || cs.size == 0 then throw (fault cs .expectingValue start)
  let c := cs[i]?.getD ' '
  let i ←
    if '1' ≤ c && c ≤ '9' then pure (skipDigits cs (i + 1))
    else if c == '0' then pure (i + 1)
    else throw (fault cs .expectingValue start)
  let (i, isFloat) :=
    if i < lastIdx && cs[i]? == some '.' && digitAt cs (i + 1) then
      (skipDigits cs (i + 2), true)
    else (i, false)
  let (i, isFloat) :=
    if i < lastIdx && (cs[i]? == some 'e' || cs[i]? == some 'E') then
      let j := i + 1
      let j := if j < lastIdx && (cs[j]? == some '-' || cs[j]? == some '+') then j + 1 else j
      let k := skipDigits cs j
      if k > j then (k, true) else (i, isFloat)
    else (i, isFloat)
  let v ← numberValue cs start i isFloat
  pure (v, i)

/-- Read a text body whose opening quote is at `begin`, from offset `i`. -/
def scanString (cs : Array Char) (begin : Nat) : Nat → List Char → Nat →
    Except ReadError (String × Nat)
  | 0, _, _ => .error (fault cs .unterminatedString begin)
  | fuel + 1, acc, i =>
    match cs[i]? with
    | none => .error (fault cs .unterminatedString begin)
    | some c =>
      if c == '"' then .ok (String.ofList acc.reverse, i + 1)
      else if c == '\\' then
        match cs[i + 1]? with
        | none => .error (fault cs .unterminatedString begin)
        | some e =>
          if e != 'u' then
            let mapped : Option Char :=
              if e == '"' || e == '\\' || e == '/' then some e
              else if e == 'b' then some (Char.ofNat 8)
              else if e == 'f' then some (Char.ofNat 12)
              else if e == 'n' then some '\n'
              else if e == 'r' then some '\r'
              else if e == 't' then some '\t'
              else none
            match mapped with
            | some m => scanString cs begin fuel (m :: acc) (i + 2)
            | none => .error (fault cs .invalidEscape i)
          else
            let h := i + 2
            let stop := h + 4
            if stop ≥ cs.size then .error (fault cs .invalidUnicodeEscape (h - 1))
            else
              match hex4? cs h with
              | none => .error (fault cs .invalidUnicodeEscape (stop - 5))
              | some code =>
                if 0xD800 ≤ code && code ≤ 0xDBFF && stop + 6 < cs.size &&
                    cs[stop]? == some '\\' && cs[stop + 1]? == some 'u' then
                  match hex4? cs (stop + 2) with
                  | none => .error (fault cs .invalidUnicodeEscape (stop + 1))
                  | some low =>
                    if 0xDC00 ≤ low && low ≤ 0xDFFF then
                      let joined := 0x10000 + (code - 0xD800) * 0x400 + (low - 0xDC00)
                      scanString cs begin fuel ((Text.pointChars joined).reverse ++ acc) (stop + 6)
                    else scanString cs begin fuel ((Text.pointChars code).reverse ++ acc) stop
                else scanString cs begin fuel ((Text.pointChars code).reverse ++ acc) stop
      else if c.toNat ≤ 0x1F then .error (fault cs .invalidControlCharacter i)
      else scanString cs begin fuel (c :: acc) (i + 1)

mutual
/-- A value at offset `i`, nested `depth` containers deep. -/
def scanValue (cs : Array Char) (depth : Nat) (i : Nat) : Nat → Except ReadError (Value × Nat)
  | 0 => .error (fault cs .expectingValue i)
  | fuel + 1 =>
    match cs[i]? with
    | none => .error (fault cs .expectingValue i)
    | some c =>
      if c == '"' then do
        let (s, j) ← scanString cs i (cs.size + 1) [] (i + 1)
        pure (.str s, j)
      else if c == '{' then
        if depth + 1 > maxDepth then .error (.nestedTooDeep true)
        else
          let j := skipSpace cs (i + 1)
          if cs[j]? == some '}' then .ok (.obj [], j + 1)
          else scanMembers cs (depth + 1) j [] fuel
      else if c == '[' then
        if depth + 1 > maxDepth then .error (.nestedTooDeep false)
        else
          let j := skipSpace cs (i + 1)
          if cs[j]? == some ']' then .ok (.arr [], j + 1)
          else scanItems cs (depth + 1) j [] fuel
      else if c == 'n' && i + 3 < cs.size && spells cs i "null" then .ok (.null, i + 4)
      else if c == 't' && i + 3 < cs.size && spells cs i "true" then .ok (.bool true, i + 4)
      else if c == 'f' && i + 4 < cs.size && spells cs i "false" then .ok (.bool false, i + 5)
      else if c == 'N' && i + 2 < cs.size && spells cs i "NaN" then
        .ok (.float (0.0 / 0.0), i + 3)
      else if c == 'I' && i + 7 < cs.size && spells cs i "Infinity" then
        .ok (.float (1.0 / 0.0), i + 8)
      else if c == '-' && i + 8 < cs.size && spells cs i "-Infinity" then
        .ok (.float (-1.0 / 0.0), i + 9)
      else scanNumber cs i
termination_by structural fuel => fuel

/-- The items of an array from offset `i`, after those read so far (in reverse). -/
def scanItems (cs : Array Char) (depth : Nat) (i : Nat) (acc : List Value) :
    Nat → Except ReadError (Value × Nat)
  | 0 => .error (fault cs .expectingValue i)
  | fuel + 1 => do
    let (v, j) ← scanValue cs depth i fuel
    let j := skipSpace cs j
    match cs[j]? with
    | some ']' => pure (.arr (v :: acc).reverse, j + 1)
    | some ',' => scanItems cs depth (skipSpace cs (j + 1)) (v :: acc) fuel
    | _ => throw (fault cs .expectingComma j)
termination_by structural fuel => fuel

/-- The members of an object from offset `i`, after those read so far. -/
def scanMembers (cs : Array Char) (depth : Nat) (i : Nat) (acc : List (String × Value)) :
    Nat → Except ReadError (Value × Nat)
  | 0 => .error (fault cs .expectingPropertyName i)
  | fuel + 1 => do
    if cs[i]? != some '"' then throw (fault cs .expectingPropertyName i)
    let (k, j) ← scanString cs i (cs.size + 1) [] (i + 1)
    let j := skipSpace cs j
    if cs[j]? != some ':' then throw (fault cs .expectingColon j)
    let j := skipSpace cs (j + 1)
    let (v, j) ← scanValue cs depth j fuel
    let acc := Value.setField acc k v
    let j := skipSpace cs j
    match cs[j]? with
    | some '}' => pure (.obj acc, j + 1)
    | some ',' => scanMembers cs depth (skipSpace cs (j + 1)) acc fuel
    | _ => throw (fault cs .expectingComma j)
termination_by structural fuel => fuel
end

/-- Read a JSON text into a value. -/
def read (text : String) : Except ReadError Value := do
  let cs := text.toList.toArray
  if cs[0]? == some (Char.ofNat 0xFEFF) then throw (fault cs .byteOrderMark 0)
  let i := skipSpace cs 0
  let (v, j) ← scanValue cs 0 i (2 * cs.size + 4)
  let j := skipSpace cs j
  if j != cs.size then throw (fault cs .extraData j)
  pure v

end GraphProbe.Json
