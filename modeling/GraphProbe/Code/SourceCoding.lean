import GraphProbe.Text.Charset

/-!
# The character set of a module's code

A module's code is read as UTF-8 unless one of its first two lines declares another
character set in a comment, `# -*- coding: latin-1 -*-` or the like; the second line counts
only when the first holds nothing but blanks and a comment. The reader first turns every
line break into a newline and ends the code with one, drops a UTF-8 byte order mark, and
then reads the declaration:

* a name of UTF-8 leaves the code as it is;
* with a byte order mark, any other name is a mistake;
* any other name reads the whole code in that set, and a name that is no character set, or
  octets the set cannot read, are mistakes shown as errors of line 0.
-/

namespace GraphProbe.Code

/-- What reading a module's code by the character set its first lines declare gives. -/
inductive SourceReading where
  /-- The code as the compiler reads it. -/
  | text (s : String)
  /-- The declaration cannot be followed: the message of the error. -/
  | refused (message : String)
  /-- The declared set is one whose tables are not held here. -/
  | unmodelled

namespace SourceCoding

/-- Every line break as a newline, and a newline at the end. -/
def unifiedBreaks (bs : List UInt8) : List UInt8 :=
  let rec go : List UInt8 -> List UInt8
    | [] => []
    | 13 :: 10 :: rest => 10 :: go rest
    | 13 :: rest => 10 :: go rest
    | b :: rest => b :: go rest
  let out := go bs
  if out.getLast? == some 10 then out else out ++ [10]

/-- Whether an octet is a blank the declaration may follow: a space, a tab or a form feed. -/
def isBlank (b : UInt8) : Bool := b == 32 || b == 9 || b == 12

/-- Whether an octet may stand in the name of a character set. -/
def isNameOctet (b : UInt8) : Bool :=
  (b ≥ 48 && b ≤ 57) || (b ≥ 65 && b ≤ 90) || (b ≥ 97 && b ≤ 122) || b == 45 || b == 95 ||
    b == 46

/-- The name a declaration in one line gives: the line starts, after blanks, with `#`, and
from there `coding` is followed by `:` or `=`, blanks, and a name. Only the places that
leave six more octets in the line are searched, and the first that gives a name counts. -/
def spec? (line : Array UInt8) : Option String :=
  let octetAt (i : Nat) : UInt8 := line.getD i 10
  let reach := line.size - 6
  match (List.range reach).find? (fun i => !isBlank (octetAt i)) with
  | none => none
  | some first =>
    if octetAt first != 35 then none
    else
      (List.range' first (reach - first)).findSome? fun j =>
        let word := (List.range 6).map fun k => octetAt (j + k)
        if word != "coding".toList.map (·.toNat.toUInt8) then none
        else if octetAt (j + 6) != 58 && octetAt (j + 6) != 61 then none
        else
          let start := ((List.range' (j + 7) line.size).find? fun k =>
            octetAt k != 32 && octetAt k != 9).getD line.size
          let name := ((List.range' start (line.size - start)).takeWhile fun k =>
            isNameOctet (octetAt k)).map octetAt
          if name.isEmpty then none
          else some (String.ofList (name.map fun b => Char.ofNat b.toNat))

/-- Whether a line holds nothing before its comment but blanks. -/
def onlyComment (line : Array UInt8) : Bool :=
  (line.toList.takeWhile (· != 35)).all isBlank

/-- The name the reader uses for a declared name: the names of UTF-8 and of Latin-1 in
their common spellings (judged by their first twelve characters, with `_` as `-` and in
lower case) become `utf-8` and `iso-8859-1`; others stay as written. -/
def normalName (s : String) : String :=
  let buf := String.ofList ((s.toList.take 12).map fun c => if c == '_' then '-' else c.toLower)
  if buf == "utf-8" || buf.startsWith "utf-8-" then "utf-8"
  else if buf == "latin-1" || buf == "iso-8859-1" || buf == "iso-latin-1" ||
      buf.startsWith "latin-1-" || buf.startsWith "iso-8859-1-" ||
      buf.startsWith "iso-latin-1-" then "iso-8859-1"
  else s

/-- The declaration of the first two lines, if any. -/
def declared? (bs : List UInt8) : Option String :=
  let lines := bs.splitOn 10
  match lines with
  | first :: rest =>
    let first := first.toArray
    match spec? first with
    | some n => some (normalName n)
    | none =>
      -- the second line counts only when a second line break ends it
      match rest with
      | second :: _ :: _ =>
        if onlyComment first then (spec? second.toArray).map normalName else none
      | _ => none
  | [] => none

end SourceCoding

open SourceCoding in
/-- Read a module's code by the character set its first lines declare. -/
def readSource (code : String) : SourceReading :=
  let bs := unifiedBreaks (Utf8.encode code)
  let (marked, body) := match bs with
    | 0xEF :: 0xBB :: 0xBF :: rest => (true, rest)
    | _ => (false, bs)
  match declared? body with
  | none => .text code
  | some "utf-8" => .text code
  | some name =>
    if marked then .refused s!"encoding problem: {name} with BOM"
    else
      match Charset.lookup name with
      | some (.charset c) =>
        match (c.decode body).mapError (Fault.withinCodec "decoding" name) with
        | .ok s => .text s
        | .error f => .refused f.text
      | some .transform => .refused (Charset.notText name "codecs.decode()").text
      | none =>
        match Charset.unmodelledModule? name with
        | some m =>
          if Charset.passesPlain m (body.map UInt8.toNat) then
            .text (String.ofList (body.map fun b => Char.ofNat b.toNat))
          else .unmodelled
        | none => .refused s!"unknown encoding: {name}"

end GraphProbe.Code
