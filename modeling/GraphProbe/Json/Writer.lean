import GraphProbe.Json.Value
import GraphProbe.Number.Text
import GraphProbe.Text.Quote

/-!
# Writing JSON text and value literals

`Json.write` is the one JSON writer of the kit. By default members are separated by `", "`
and keys from values by `": "`; a style may choose other separators and an indent, which puts
every item of a non-empty array or object on a line of its own, indented once more than the
brackets around it. Objects keep their insertion order unless the style sorts their keys.
Texts escape the quote, the backslash and the control characters; in ASCII style every
other character outside printable ASCII becomes `\uXXXX`, a character above the basic plane
as its two surrogate escapes. Doubles are written with their shortest digits, the specials
as `NaN`, `Infinity` and `-Infinity`. A byte string has no JSON text: writing one fails.

`Value.literal` writes a value the way the kit's messages show values: `None`, `True`,
quoted texts, `[…]` and `{'k': …}`. `Value.display` is the same except that a text shows as
itself.
-/

namespace GraphProbe.Json

/-- How the writer lays out a document. -/
structure WriteStyle where
  /-- Sort object members by key. -/
  sortKeys : Bool := false
  /-- Escape every character outside printable ASCII. -/
  asciiOnly : Bool := true
  /-- What separates the items of an array or object. -/
  itemSep : String := ", "
  /-- What separates a key from its value. -/
  keySep : String := ": "
  /-- The indent of one level, if items go on lines of their own. -/
  indent : Option String := none
  deriving Inhabited

/-- The layout of JSON text that the kit sends and compares. -/
def WriteStyle.plain : WriteStyle := {}

/-- The layout with sorted keys, used for canonical text of a payload. -/
def WriteStyle.sorted : WriteStyle := { sortKeys := true }

/-- Why a value has no JSON text: it holds a value of the named kind. -/
structure WriteError where
  kind : String
  deriving BEq, Repr, Inhabited

/-- The message of a write error. -/
def WriteError.message (e : WriteError) : String :=
  s!"Object of type {e.kind} is not JSON serializable"

/-- `\u` and four lower-case hex digits. -/
private def unitEscape (n : Nat) : String := "\\u" ++ Text.hexPadded 4 n

/-- The escaped form of one code point inside a JSON text. -/
def escapePoint (asciiOnly : Bool) (n : Nat) : String :=
  if n == '"'.toNat then "\\\""
  else if n == '\\'.toNat then "\\\\"
  else if n == '\n'.toNat then "\\n"
  else if n == '\r'.toNat then "\\r"
  else if n == '\t'.toNat then "\\t"
  else if n == 8 then "\\b"
  else if n == 12 then "\\f"
  else if n < 0x20 then unitEscape n
  else if !asciiOnly || n < 0x7F then Text.pointText n
  else if n < 0x10000 then unitEscape n
  else
    let m := n - 0x10000
    unitEscape (0xD800 + m / 0x400) ++ unitEscape (0xDC00 + m % 0x400)

/-- A text as a JSON string literal. -/
def quoteText (asciiOnly : Bool) (s : String) : String :=
  "\"" ++ String.join ((Text.codes s).map (escapePoint asciiOnly)) ++ "\""

/-- Written object members in the order the style lays them out: by key when sorting,
else as they came. -/
def orderMembers (style : WriteStyle) (ms : List (String × String)) : List (String × String) :=
  if style.sortKeys then ms.mergeSort (fun a b => !(Text.codes b.1).lex (Text.codes a.1))
  else ms

/-- Join texts with a separator. -/
def joinWith (sep : String) : List String → String
  | [] => ""
  | [x] => x
  | x :: xs => x ++ sep ++ joinWith sep xs

/-- Items in brackets: on one line, or each on a line of its own at `level + 1` indents. -/
def bracketed (style : WriteStyle) (level : Nat) (opener closer : String) (parts : List String) :
    String :=
  match style.indent, parts with
  | _, [] => opener ++ closer
  | none, _ => opener ++ joinWith style.itemSep parts ++ closer
  | some ind, _ =>
    let inner := "\n" ++ String.join (List.replicate (level + 1) ind)
    let outer := "\n" ++ String.join (List.replicate level ind)
    opener ++ inner ++ joinWith (style.itemSep ++ inner) parts ++ outer ++ closer

mutual
/-- The JSON text of a value at a depth of nesting. -/
def writeAt (style : WriteStyle) (level : Nat) : Value → Except WriteError String
  | .null => .ok "null"
  | .bool b => .ok (if b then "true" else "false")
  | .int n => .ok (Number.intText n)
  | .float x => .ok (Number.floatText .json x)
  | .str s => .ok (quoteText style.asciiOnly s)
  | .bytes _ => .error ⟨"bytes"⟩
  | .arr xs => do
    let parts ← writeItems style level xs
    pure (bracketed style level "[" "]" parts)
  | .obj fs => do
    let parts ← writeMembers style level fs
    let parts := (orderMembers style parts).map fun (k, t) =>
      quoteText style.asciiOnly k ++ style.keySep ++ t
    pure (bracketed style level "\x7b" "\x7d" parts)

/-- The texts of array items. -/
def writeItems (style : WriteStyle) (level : Nat) : List Value → Except WriteError (List String)
  | [] => .ok []
  | x :: xs => do
    let t ← writeAt style (level + 1) x
    let ts ← writeItems style level xs
    pure (t :: ts)

/-- The keys of object members with the texts of their values. -/
def writeMembers (style : WriteStyle) (level : Nat) :
    List (String × Value) → Except WriteError (List (String × String))
  | [] => .ok []
  | (k, v) :: rest => do
    let t ← writeAt style (level + 1) v
    let ts ← writeMembers style level rest
    pure ((k, t) :: ts)
end

/-- The JSON text of a value. -/
def write (style : WriteStyle) (v : Value) : Except WriteError String := writeAt style 0 v

end Json

namespace Value

mutual
/-- A value as the kit's messages show it: `None`, `True`, `False`, numbers, quoted texts and
byte strings, `[a, b]`, `{'k': v}`. -/
def literal : Value → String
  | .null => "None"
  | .bool b => if b then "True" else "False"
  | .int n => Number.intText n
  | .float x => Number.floatText .literal x
  | .str s => Text.quote s
  | .bytes bs => Text.quoteBytes bs
  | .arr xs => "[" ++ Json.joinWith ", " (literalItems xs) ++ "]"
  | .obj fs => "\x7b" ++ Json.joinWith ", " (literalMembers fs) ++ "\x7d"

/-- The literals of list items. -/
def literalItems : List Value → List String
  | [] => []
  | x :: xs => literal x :: literalItems xs

/-- The literals of members, `'k': v`. -/
def literalMembers : List (String × Value) → List String
  | [] => []
  | (k, v) :: rest => (Text.quote k ++ ": " ++ literal v) :: literalMembers rest
end

/-- A value as text in a message: a text shows as itself, anything else as its literal. -/
def display : Value → String
  | .str s => s
  | v => v.literal

end Value

end GraphProbe
