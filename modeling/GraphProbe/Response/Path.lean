import GraphProbe.Json.Value
import GraphProbe.Number.Text

/-!
# Paths into answers

A path names a value inside a JSON document as a list of steps: a member key or an array
index. It is written as a chain of tokens after an optional leading `$`:

* a *name* `.key` or `key`, where the key is an ASCII letter or underscore followed by
  letters, digits and underscores;
* an *index* `[n]` or `[-n]`, with decimal digits of any script;
* a *quoted key* `['key']` or `["key"]`, any text without quotes (the two quotes need not
  match).

At each position the three token kinds are tried in that order, and the first that fits is
taken as far as it goes. Blanks around the whole path are ignored. `Path.parse` returns the
steps, or the position (after trimming and the `$`) where no token fits.

`Path.resolve` follows steps through a value: a key selects an object's member, an index an
array's element, counting from the end when negative. A step that does not fit the value
leaves nothing.
-/

namespace GraphProbe

/-- One step of a path. -/
inductive Step where
  | key (name : String)
  | index (i : Int)
  deriving BEq, Repr, Inhabited, DecidableEq

/-- A path: steps from the root. -/
abbrev Path := List Step

namespace Path

/-- Why a path text is refused. -/
inductive ParseError where
  /-- No token fits at this position. -/
  | invalidAt (position : Nat)
  /-- An index has more digits than a number may have. -/
  | indexTooLong (digits : Nat)
  deriving BEq, Repr, Inhabited

/-- Whether a character may start a name. -/
def isNameStart (c : Char) : Bool := ('A' ≤ c && c ≤ 'Z') || ('a' ≤ c && c ≤ 'z') || c == '_'

/-- Whether a character may continue a name. -/
def isNameChar (c : Char) : Bool := isNameStart c || ('0' ≤ c && c ≤ '9')

/-- Whether a character is a quote. -/
def isQuote (c : Char) : Bool := c == '"' || c == Char.ofNat 0x27

/-- A token read at the front of a text: the step and the rest of the text. -/
abbrev Token := Step × List Char

/-- A name token: an optional dot, a name start, name characters. -/
def nameToken : List Char → Option Token
  | c :: rest =>
    if isNameStart c then
      let tail := rest.takeWhile isNameChar
      some (.key (String.ofList (c :: tail)), rest.drop tail.length)
    else if c == '.' then
      match rest with
      | d :: rest' =>
        if isNameStart d then
          let tail := rest'.takeWhile isNameChar
          some (.key (String.ofList (d :: tail)), rest'.drop tail.length)
        else none
      | [] => none
    else none
  | [] => none

/-- An index token `[-?digits]`; the digits may be of any script. The result is the token,
or the digit count when it exceeds what a number may have. -/
def indexToken : List Char → Option (Except Nat Token)
  | '[' :: rest =>
    let (neg, body) := match rest with
      | '-' :: r => (true, r)
      | r => (false, r)
    let digits := body.takeWhile Text.isDecimalDigit
    match body.drop digits.length with
    | ']' :: after =>
      if digits.isEmpty then none
      else if digits.length > Number.maxIntDigits then some (.error digits.length)
      else
        let v := Number.digitsValue (digits.map fun c => (Text.digitValue? c).getD 0)
        some (.ok (.index (if neg then -(v : Int) else v), after))
    | _ => none
  | _ => none

/-- A quoted-key token `[` quote, non-quote characters, quote `]`. -/
def keyToken : List Char → Option Token
  | '[' :: q :: rest =>
    if isQuote q then
      let body := rest.takeWhile (fun c => !isQuote c)
      match rest.drop body.length with
      | q' :: ']' :: after =>
        if isQuote q' && !body.isEmpty then some (.key (String.ofList body), after) else none
      | _ => none
    else none
  | _ => none

/-- The first token that fits at the front of a text, in the order name, index, key. -/
def token (cs : List Char) : Option (Except Nat Token) :=
  match nameToken cs with
  | some t => some (.ok t)
  | none =>
    match indexToken cs with
    | some r => some r
    | none => (keyToken cs).map .ok

/-- Tokens read from `cs`, which starts at position `pos` of the expression. -/
def tokens (cs : List Char) (pos : Nat) (fuel : Nat) : Except ParseError Path :=
  match fuel, cs with
  | _, [] => .ok []
  | 0, _ => .error (.invalidAt pos)
  | fuel + 1, cs =>
    match token cs with
    | none => .error (.invalidAt pos)
    | some (.error n) => .error (.indexTooLong n)
    | some (.ok (step, rest)) =>
      (tokens rest (pos + (Text.points (cs.take (cs.length - rest.length))).length) fuel).map
        (step :: ·)

/-- The expression of a path text: blanks trimmed, one leading `$` removed. -/
def expression (text : String) : List Char :=
  match Number.trimBlanks text.toList with
  | '$' :: rest => rest
  | cs => cs

/-- Read a path text into steps. -/
def parse (text : String) : Except ParseError Path :=
  let e := expression text
  tokens e 0 e.length

/-- The step an index selects in an array of `len` elements: negative indices count from
the end. -/
def arrayPosition (len : Nat) (i : Int) : Option Nat :=
  let j := if i < 0 then i + len else i
  if 0 ≤ j && j < len then some j.toNat else none

/-- Follow one step. -/
def follow : Value → Step → Option Value
  | .obj fs, .key k => fs.lookup k
  | .arr xs, .index i => (arrayPosition xs.length i).bind fun j => xs[j]?
  | _, _ => none

/-- Follow steps from a value: the value reached, or `none` when a step does not fit. -/
def resolve (v : Value) : Path → Option Value
  | [] => some v
  | s :: rest => (follow v s).bind fun w => resolve w rest

end Path

end GraphProbe
