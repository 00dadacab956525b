import GraphProbe.Fault

/-!
# Locations of files

A location is a path of names, relative to the working directory or absolute. Its text
drops empty and `.` names; `..` names are kept in the text and only take effect when the
location is resolved against the file tree.

The tree of resources sits in a directory of its own, which is also the working directory.
Its absolute path is written `{root}`, so a text that starts with that word is absolute,
and absolute locations under it are written from it.
-/

namespace GraphProbe

/-- A location of a file. -/
structure Location where
  absolute : Bool
  parts : List String
  deriving BEq, Repr, Inhabited

namespace Location

/-- The name that stands for the tree's own directory. -/
def rootName : String := "\x7broot\x7d"

/-- The tree's own directory. -/
def root : Location := ⟨true, [rootName]⟩

/-- The location a text names. -/
def ofText (s : String) : Location :=
  let names := ((s.toList.splitOn '/').map String.ofList).filter fun n => n != "" && n != "."
  if s.toList.head? == some '/' then ⟨true, names⟩
  else
    match names with
    | n :: _ => if n == rootName then ⟨true, names⟩ else ⟨false, names⟩
    | [] => ⟨false, []⟩

/-- The text of a location. -/
def text (l : Location) : String :=
  if !l.absolute then (if l.parts.isEmpty then "." else "/".intercalate l.parts)
  else
    match l.parts with
    | n :: _ => if n == rootName then "/".intercalate l.parts else "/" ++ "/".intercalate l.parts
    | [] => "/"

/-- `a / b`: `b` when it is absolute, else `b` inside `a`. -/
def join (a b : Location) : Location :=
  if b.absolute then b else ⟨a.absolute, a.parts ++ b.parts⟩

/-- The names of an absolute location with `..` applied: each one drops the name before it. -/
def resolveNames (acc : List String) : List String → List String
  | [] => acc.reverse
  | ".." :: rest => resolveNames acc.tail rest
  | n :: rest => resolveNames (n :: acc) rest

/-- The absolute names of a location, seen from the tree's directory. -/
def resolved (l : Location) : List String :=
  resolveNames [] (if l.absolute then l.parts else root.parts ++ l.parts)

end Location

end GraphProbe
