import GraphProbe.Graphql.Parser

/-!
# Errors of the query language

An error has a message, the offsets of the nodes it is about, and, when it was raised while
a field was answered, the path of that field in the answer. Shown as data it becomes
`{"message", "locations", "path"}`, the locations as lines and columns, each part only when
there is one.

A location counts lines as the query language does: a line ends at a line feed, a carriage
return, or a carriage return with a line feed after it. Other separators of Unicode do not
end lines.
-/

namespace GraphProbe.Graphql

/-- A step of a path into an answer: the key of a field or the index of a list item. -/
inductive PathKey where
  | key (name : String)
  | index (i : Nat)
  deriving BEq, Repr, Inhabited

/-- The value of a path step. -/
def PathKey.toValue : PathKey → Value
  | .key k => .str k
  | .index i => .int i

/-- An error: a message, where it is, and the path of the field it was raised in. -/
structure GraphqlError where
  message : String
  positions : List Nat := []
  path : Option (List PathKey) := none
  deriving Inhabited, Repr

/-- The error of a syntax error. -/
def SyntaxError.toError (e : SyntaxError) : GraphqlError :=
  { message := "Syntax Error: " ++ e.description, positions := [e.position] }

/-- Whether a character breaks lines. -/
def isLineBreak (c : Char) : Bool :=
  c == '\n' || c == '\r' ||
    [0x0B, 0x0C, 0x1C, 0x1D, 0x1E, 0x85, 0x2028, 0x2029].contains c.toNat

/-- The line and column of an offset in a source, both counted from one. A line ends at a
line feed, a carriage return, or both together; every break that starts before the offset
counts, and the column is counted from the end of the last one. -/
def lineColumn (body : Array Char) (offset : Nat) : Nat × Nat :=
  go (body.size + 1) 0 1 0
where
  /-- Walk from `i`, on line `line`, which started at `lineStart`. -/
  go : Nat → Nat → Nat → Nat → Nat × Nat
    | 0, _, line, lineStart => (line, offset + 1 - lineStart)
    | fuel + 1, i, line, lineStart =>
      if i ≥ offset then (line, offset + 1 - lineStart)
      else
        match body[i]? with
        | some '\r' =>
          let next := if body[i + 1]? == some '\n' then i + 2 else i + 1
          go fuel next (line + 1) next
        | some '\n' => go fuel (i + 1) (line + 1) (i + 1)
        | some _ => go fuel (i + 1) line lineStart
        | none => (line, offset + 1 - lineStart)

/-- An error as data, its locations found in the source. -/
def GraphqlError.toValue (body : Array Char) (e : GraphqlError) : Value :=
  let locations := e.positions.map fun p =>
    let (line, column) := lineColumn body p
    Value.obj [("line", .int line), ("column", .int column)]
  .obj ([("message", .str e.message)] ++
    (if locations.isEmpty then [] else [("locations", .arr locations)]) ++
    (match e.path with
     | some p => [("path", .arr (p.map PathKey.toValue))]
     | none => []))

/-! ### Errors as text -/

/-- The lines of a source as its excerpts show them: split at `\r\n`, `\n` and `\r`. -/
def sourceLines (body : String) : List String :=
  (go body.toList [] []).map String.ofList
where
  /-- Split a character list, with the current line and the lines before it. -/
  go : List Char → List Char → List (List Char) → List (List Char)
    | [], cur, acc => (cur :: acc).reverse
    | '\r' :: '\n' :: rest, cur, acc => go rest [] (cur.reverse :: acc)
    | '\n' :: rest, cur, acc | '\r' :: rest, cur, acc => go rest [] (cur.reverse :: acc)
    | c :: rest, cur, acc => go rest (c :: cur) acc
termination_by cs => cs.length

/-- A text right-aligned in a width. -/
def alignRight (width : Nat) (s : String) : String :=
  String.ofList (List.replicate (width - s.length) ' ') ++ s

/-- Lines with their prefixes, the prefixes aligned; lines that do not exist are left out
and empty lines show their prefix alone. -/
def prefixedLines (lines : List (String × Option String)) : String :=
  let present := lines.filterMap fun (p, l) => l.map (p, ·)
  let width := present.foldl (fun w (p, _) => max w p.length) 0
  "\n".intercalate (present.map fun (p, l) =>
    alignRight width p ++ (if l.isEmpty then "" else " " ++ l))

/-- Cut the code points of a text into pieces of 80. -/
def chunks80 (ns : List Nat) : List String :=
  go (ns.length + 1) ns
where
  /-- Cut with a budget of pieces. -/
  go : Nat → List Nat → List String
    | 0, _ => []
    | _, [] => []
    | fuel + 1, ns => Text.ofPoints (ns.take 80) :: go fuel (ns.drop 80)

/-- The excerpt of a source around an offset: the place's name, line and column, then the
line with its neighbours and a caret under the column. A line longer than 120 characters
is shown in pieces of 80. -/
def excerpt (body : String) (offset : Nat) : String :=
  let (line, column) := lineColumn (Text.view body) offset
  let lines := sourceLines body
  let head := s!"GraphQL request:{line}:{column}\n"
  let at_ := (lines[line - 1]?).getD ""
  let caret (n : Nat) : String := alignRight n "^"
  if Text.codeLength at_ > 120 then
    let pieces := chunks80 (Text.codes at_)
    let sub := column / 80
    let subColumn := column % 80
    head ++ prefixedLines ([(s!"{line} |", pieces.head?)] ++
      ((pieces.drop 1).take sub).map (fun p => ("|", some p)) ++
      [("|", some (caret subColumn)), ("|", pieces[sub + 1]?)])
  else
    head ++ prefixedLines [
      (s!"{line - 1} |", if line ≥ 2 then lines[line - 2]? else none),
      (s!"{line} |", some at_),
      ("|", some (caret column)),
      (s!"{line + 1} |", lines[line]?)]

/-- An error as text: its message, then an excerpt of the source at each of its places. -/
def GraphqlError.describe (body : String) (e : GraphqlError) : String :=
  "\n\n".intercalate (e.message :: e.positions.map (excerpt body))

end GraphProbe.Graphql
