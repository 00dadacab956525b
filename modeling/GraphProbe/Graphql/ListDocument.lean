import GraphProbe.Json.Value
import GraphProbe.Text.CodePoint

/-!
# Documents given as lists

A request may carry its query as a JSON list rather than a text. The view hands it to the
parser all the same, and the parser reads the list as it reads a text: item by item where
it would read character by character, each item compared with characters as a text is
compared (code point by code point, a shorter prefix first). This module tells how that
reading ends.

What makes the outcome small is that a list is never a text:

* a slice of the list is a list, so it never equals a character: no spread `...`, no block
  string, and `\r\n` is two line breaks;
* a name's value is a slice, so looking it up as a keyword fails (`unhashable type: 'list'`),
  and so does validating any field whose name it is;
* a number or a quoted text is assembled from slices, which always fails;
* the line and column of a syntax error are found by a pattern search over the body, which
  refuses a list: every syntax error ends as that refusal.

An item that is not a text fails as soon as it is compared with a character. So the reading
of a list ends in one of three ways: the document parses (it is a run of shorthand queries
whose names are all lists), the parser refuses it, or reading raises an error with a message.
-/

namespace GraphProbe.Graphql.ListDocument

/-! ### Items compared as characters -/

/-- Whether one list of code points comes before another or equals it, a shorter prefix
first. -/
def codesLe : List Nat → List Nat → Bool
  | [], _ => true
  | _ :: _, [] => false
  | x :: xs, y :: ys => x < y || (x == y && codesLe xs ys)

/-- The code points of a text, a lone surrogate as itself. -/
def codesOf (s : String) : List Nat := Text.codes s

/-- Whether a text lies between two bounds, both included. -/
def codesBetween (lo hi : List Nat) (s : String) : Bool :=
  codesLe lo (codesOf s) && codesLe (codesOf s) hi

/-- The error of comparing a character with an item that is no text. -/
def orderError (v : Value) : String :=
  s!"'<=' not supported between instances of 'str' and '{v.kindName}'"

/-- The error of asking whether an item that is no text occurs in a text. -/
def containError (v : Value) : String :=
  s!"'in <string>' requires string as left operand, not {v.kindName}"

/-- Whether an item lies between two characters; an item that is no text cannot be
compared. -/
def itemBetween (lo hi : Char) : Value → Except String Bool
  | .str s => .ok (codesBetween [lo.toNat] [hi.toNat] s)
  | v => .error (orderError v)

/-- Whether characters occur together in a list of characters. -/
def occursIn (part : List Char) : List Char → Bool
  | [] => part.isEmpty
  | c :: rest => part.isPrefixOf (c :: rest) || occursIn part rest

/-- Whether an item occurs in a text: an item that is a text is looked for as a part of it
(the empty text is a part of every text). -/
def itemIn (t : String) : Value → Except String Bool
  | .str s => .ok (occursIn s.toList t.toList)
  | v => .error (containError v)

/-- Whether an item is an ASCII letter, as characters compare. -/
def itemIsLetter (v : Value) : Except String Bool := do
  if ← itemBetween 'a' 'z' v then return true
  itemBetween 'A' 'Z' v

/-- Whether an item is an ASCII digit, as characters compare. -/
def itemIsDigit (v : Value) : Except String Bool := itemBetween '0' '9' v

/-- Whether an item may start a name. -/
def itemIsNameStart (v : Value) : Except String Bool := do
  if ← itemIsLetter v then return true
  return v matches .str "_"

/-- Whether an item may continue a name. -/
def itemIsNameContinue (v : Value) : Except String Bool := do
  if ← itemIsLetter v then return true
  if ← itemIsDigit v then return true
  return v matches .str "_"

/-- Whether a text lies in the range of Unicode scalar values, as texts compare. -/
def isScalarText (s : String) : Bool :=
  codesBetween [0] [0xD7FF] s || codesBetween [0xE000] [0x10FFFF] s

/-- Whether the item at a position starts a surrogate pair: it is a leading surrogate, as
texts compare, and the next item, if any, a trailing one. -/
def pairAt (items : List Value) (i : Nat) : Except String Bool :=
  match items[i]? with
  | some (.str s) =>
    if codesBetween [0xD800] [0xDBFF] s then
      match items[i + 1]? with
      | none => .ok false
      | some (.str t) => .ok (codesBetween [0xDC00] [0xDFFF] t)
      | some v => .error (orderError v)
    else .ok false
  | _ => .ok false

/-! ### Tokens -/

/-- A token read from a list: a punctuator, a name (whose value is a list), or the end. -/
inductive ItemToken where
  | punct (p : String)
  | name
  | eof
  deriving BEq, Inhabited

/-- Why reading stops: the parser refuses the document, or reading raises an error. -/
inductive Stop where
  | refused
  | raised (message : String)
  deriving Inhabited

/-- Raise an error of comparing items. -/
def raiseOn {α : Type} : Except String α → Except Stop α
  | .ok a => .ok a
  | .error m => .error (.raised m)

/-- The punctuators: each is one character. -/
def punctuators : List String :=
  ["!", "$", "&", "(", ")", ":", "=", "@", "[", "]", "\x7b", "|", "\x7d"]

/-- Describe the item at a position for an error: printable ASCII as itself, anything else
by its code point, which a text of more than one character or a pair of items has not. -/
def describeAt (items : List Value) (i : Nat) : Except Stop Unit :=
  match items[i]? with
  | some (.str s) =>
    if codesBetween [0x20] [0x7E] s then .ok ()
    else do
      if ← raiseOn (pairAt items i) then
        throw (.raised "ord() expected string of length 1, but list found")
      if s.length == 1 then pure ()
      else throw (.raised s!"ord() expected a character, but string of length {s.length} found")
  | _ => .ok ()

/-- The position after a comment that starts at a position: the comment runs to a line
break. -/
def skipComment (items : List Value) (start : Nat) : Except Stop Nat :=
  go (items.length + 1) (start + 1)
where
  /-- Walk the comment, one step an item. -/
  go : Nat → Nat → Except Stop Nat
    | 0, i => .ok i
    | fuel + 1, i =>
      match items[i]? with
      | none => .ok i
      | some v => do
        if ← raiseOn (itemIn "\r\n" v) then return i
        match v with
        | .str s =>
          if isScalarText s then go fuel (i + 1)
          else if ← raiseOn (pairAt items i) then go fuel (i + 2)
          else return i
        | _ => return i

/-- The position after a name that starts at a position. -/
def skipName (items : List Value) (start : Nat) : Except Stop Nat :=
  go (items.length + 1) (start + 1)
where
  /-- Walk the name, one step an item. -/
  go : Nat → Nat → Except Stop Nat
    | 0, i => .ok i
    | fuel + 1, i =>
      match items[i]? with
      | none => .ok i
      | some v => do
        if ← raiseOn (itemIsNameContinue v) then go fuel (i + 1) else return i

/-- Reading a number that starts at a position always fails: after its digits the parser
compares the slice that follows with characters. -/
def readNumber (items : List Value) (start : Nat) (first : String) : Stop :=
  if first == "-" || first == "0" then .raised (orderError (.arr []))
  else
    match go (items.length + 1) (start + 1) with
    | .error m => .raised m
    | .ok i =>
      if i < items.length then .raised (containError (.arr []))
      else .raised (orderError (.arr []))
where
  /-- Walk the digits, one step an item. -/
  go : Nat → Nat → Except String Nat
    | 0, i => .ok i
    | fuel + 1, i =>
      match items[i]? with
      | none => .ok i
      | some v => do if ← itemIsDigit v then go fuel (i + 1) else return i

/-- The escapes a backslash may start in a quoted text. -/
def escapeLetters : List String := ["\"", "\\", "/", "b", "f", "n", "r", "t"]

/-- Reading a quoted text that starts at a position always fails: when it is closed its
value is joined from slices of the list. -/
def readQuoted (items : List Value) (start : Nat) : Stop :=
  match go (items.length + 1) (start + 1) with
  | .error s => s
  | .ok _ => .refused
where
  /-- Walk the text, one step an item. -/
  go : Nat → Nat → Except Stop Unit
    | 0, _ => .error .refused
    | fuel + 1, i =>
      match items[i]? with
      | none => .error .refused
      | some (.str "\"") => .error (.raised "sequence item 0: expected str instance, list found")
      | some (.str "\\") =>
        match items[i + 1]? with
        | none => .error (.raised "list index out of range")
        | some (.arr _) => .error (.raised "unhashable type: 'list'")
        | some (.obj _) => .error (.raised "unhashable type: 'dict'")
        | some (.str e) => if escapeLetters.contains e then go fuel (i + 2) else .error .refused
        | some _ => .error .refused
      | some v => do
        if ← raiseOn (itemIn "\r\n" v) then throw .refused
        match v with
        | .str s =>
          if isScalarText s then go fuel (i + 1)
          else if ← raiseOn (pairAt items i) then go fuel (i + 2)
          else do
            describeAt items i
            throw .refused
        | _ => throw .refused

/-- The next token from a position, with the position after it: blanks, commas, line
breaks and comments are passed over. -/
def nextToken (items : List Value) (start : Nat) : Except Stop (ItemToken × Nat) :=
  go (items.length + 1) start
where
  /-- Read on from a position, one step an item or a comment. -/
  go : Nat → Nat → Except Stop (ItemToken × Nat)
    | 0, i => .ok (.eof, i)
    | fuel + 1, i =>
      match items[i]? with
      | none => .ok (.eof, i)
      | some v => do
        if ← raiseOn (itemIn " \t,\uFEFF" v) then return (← go fuel (i + 1))
        match v with
        | .str s =>
          if s == "\n" || s == "\r" then go fuel (i + 1)
          else if s == "#" then do
            let j ← skipComment items i
            go fuel j
          else if punctuators.contains s then .ok (.punct s, i + 1)
          else if s == "\"" then throw (readQuoted items i)
          else if (← raiseOn (itemIsDigit v)) || s == "-" then throw (readNumber items i s)
          else if ← raiseOn (itemIsNameStart v) then
            return (.name, ← skipName items i)
          else if s == "'" then throw .refused
          else do
            if !isScalarText s then discard (raiseOn (pairAt items i))
            describeAt items i
            throw .refused
        | _ => throw .refused

/-- The tokens of a list in order, up to the end or to where reading stops. -/
abbrev Tokens := List (Except Stop ItemToken)

/-- Read every token of a list. -/
def tokensOf (items : List Value) : Tokens :=
  go (items.length + 1) 0
where
  /-- Read tokens from a position; each token takes at least one item. -/
  go : Nat → Nat → Tokens
    | 0, _ => [.ok .eof]
    | fuel + 1, i =>
      match nextToken items i with
      | .error s => [.error s]
      | .ok (.eof, _) => [.ok .eof]
      | .ok (t, j) => .ok t :: go fuel j

/-! ### Parsing the tokens -/

/-- The token the parser stands at; standing at a failure to read means reading stops. -/
def current (ts : Tokens) : Except Stop ItemToken :=
  match ts with
  | [] => .ok .eof
  | t :: _ => t

/-- Move past a token that must be the given one. -/
def expectToken (t : ItemToken) (ts : Tokens) : Except Stop Tokens := do
  if (← current ts) == t then pure ts.tail else throw .refused

/-- Move past a name. -/
def expectName (ts : Tokens) : Except Stop Tokens := expectToken .name ts

/-- Move past a token if it is the given one; whether it was. -/
def skipIf (t : ItemToken) (ts : Tokens) : Except Stop (Bool × Tokens) := do
  if (← current ts) == t then pure (true, ts.tail) else pure (false, ts)

mutual
/-- A value: a list, an object, a name or a variable. -/
def parseValue : Nat → Tokens → Except Stop Tokens
  | 0, _ => .error .refused
  | fuel + 1, ts => do
    match ← current ts with
    | .punct "[" => parseItems fuel ts.tail
    | .punct "\x7b" => parseMembers fuel ts.tail
    | .name => pure ts.tail
    | .punct "$" => expectName ts.tail
    | _ => throw .refused

/-- The items of a list value, up to its closing bracket. -/
def parseItems : Nat → Tokens → Except Stop Tokens
  | 0, _ => .error .refused
  | fuel + 1, ts => do
    let (closed, ts) ← skipIf (.punct "]") ts
    if closed then return ts
    let ts ← parseValue fuel ts
    parseItems fuel ts

/-- The members of an object value, up to its closing brace. -/
def parseMembers : Nat → Tokens → Except Stop Tokens
  | 0, _ => .error .refused
  | fuel + 1, ts => do
    let (closed, ts) ← skipIf (.punct "\x7d") ts
    if closed then return ts
    let ts ← expectName ts
    let ts ← expectToken (.punct ":") ts
    let ts ← parseValue fuel ts
    parseMembers fuel ts
end

/-- Arguments between parentheses, each `name: value`, up to the closing one. -/
def parseArgumentList : Nat → Tokens → Except Stop Tokens
  | 0, _ => .error .refused
  | fuel + 1, ts => do
    let ts ← expectName ts
    let ts ← expectToken (.punct ":") ts
    let ts ← parseValue fuel ts
    let (closed, ts) ← skipIf (.punct ")") ts
    if closed then pure ts else parseArgumentList fuel ts

/-- Arguments, if an opening parenthesis stands here. -/
def parseArguments (fuel : Nat) (ts : Tokens) : Except Stop Tokens := do
  let (opened, ts) ← skipIf (.punct "(") ts
  if opened then parseArgumentList fuel ts else pure ts

/-- Directives, each `@name` with arguments, as long as they follow. -/
def parseDirectives : Nat → Tokens → Except Stop Tokens
  | 0, _ => .error .refused
  | fuel + 1, ts => do
    let (at_, ts) ← skipIf (.punct "@") ts
    if !at_ then return ts
    let ts ← expectName ts
    let ts ← parseArguments fuel ts
    parseDirectives fuel ts

mutual
/-- A field: a name (or an alias and a name), arguments, directives and perhaps its own
selections. -/
def parseField : Nat → Tokens → Except Stop Tokens
  | 0, _ => .error .refused
  | fuel + 1, ts => do
    let ts ← expectName ts
    let (aliased, ts) ← skipIf (.punct ":") ts
    let ts ← if aliased then expectName ts else pure ts
    let ts ← parseArguments fuel ts
    let ts ← parseDirectives fuel ts
    if (← current ts) == .punct "\x7b" then parseSelections fuel ts.tail else pure ts

/-- Fields up to the closing brace; there is at least one. -/
def parseSelections : Nat → Tokens → Except Stop Tokens
  | 0, _ => .error .refused
  | fuel + 1, ts => do
    let ts ← parseField fuel ts
    let (closed, ts) ← skipIf (.punct "\x7d") ts
    if closed then pure ts else parseSelections fuel ts
end

/-- Definitions up to the end: each must be a shorthand query, since a name's value cannot
be looked up among the keywords. -/
def parseDefinitions : Nat → Tokens → Except Stop Unit
  | 0, _ => .error .refused
  | fuel + 1, ts => do
    match ← current ts with
    | .punct "\x7b" =>
      let ts ← parseSelections fuel ts.tail
      let (ended, ts) ← skipIf .eof ts
      if ended then pure () else parseDefinitions fuel ts
    | .name => throw (.raised "unhashable type: 'list'")
    | _ => throw .refused

/-- How reading a document given as a list ends: it parses, or it stops. -/
def read (items : List Value) : Except Stop Unit :=
  let ts := tokensOf items
  parseDefinitions (4 * ts.length + 8) ts

end GraphProbe.Graphql.ListDocument
