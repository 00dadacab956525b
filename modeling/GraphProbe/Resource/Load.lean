import GraphProbe.Resource.Tree
import GraphProbe.Resource.ModuleCode
import GraphProbe.Log

/-!
# Loading GraphQL documents

A test names the document it sends by an *identifier*, resolved in this order:

1. `package:relative`, a file inside an importable package (a directory of the tree with or
   without an `__init__.py`, dotted names for packages inside packages). Packages are looked
   up in the working tree first, then in the installed trees. It applies only when both
   sides are non-empty and the package name has no slash; names that start with a dot, that
   do not resolve or that name a plain module (`name.py`) fall through. Looking a package
   up imports it: the code of each `__init__.py` on the way (and of a plain module) runs.
   A run that raises a missing-module or wrong-type exception falls through too, a system
   error or an undecodable text makes the load fail with it as the cause, and any other
   exception it raises ends the load.
2. The identifier itself, when it is absolute.
3. The identifier inside each search directory, in order, then inside the working directory.

The first file found is read as UTF-8 text with uniform line ends, and the load is logged.
When nothing is found, the load fails; when a file is no UTF-8 or the system refuses to read
it, or checking a location fails (a name too long), it fails with that fault as the cause and
tries nothing after it.
-/

namespace GraphProbe.Resource

/-- The code files that importing a dotted module name runs in a tree, in order, and where
its files lie: a package's directory, or a plain module's file. `none` when a name on the
way is not found or a plain module is asked for a module inside it. -/
def importPath (t : FileTree) (name : String) : Option (List (List String) × ModulePlace) :=
  if name.startsWith "." then none else
  let names := name.splitOn "."
  if names.any (· == "") then none else
  let step : Option (List (List String) × ModulePlace) → String →
      Option (List (List String) × ModulePlace)
    | some (code, .package d), n =>
      (childModule t d n).map fun
        | .package sub =>
          let init := sub ++ ["__init__.py"]
          (if (t.entry? init).isSome then code ++ [init] else code, .package sub)
        | .plain file => (code ++ [file], .plain file)
    | _, _ => none
  names.foldl step (some ([], .package Location.root.parts))

/-- Whether an exception raised while a package is looked up means only that there is no
such package: a missing module, or a value of the wrong type. -/
def meansNoPackage (lineage : List String) : Bool :=
  lineage.contains "ModuleNotFoundError" || lineage.contains "TypeError"

/-- Whether an exception raised while a package is looked up makes the load fail with it as
the cause: a system error or an undecodable text. -/
def failsLoad (lineage : List String) : Bool :=
  lineage.contains "OSError" || lineage.contains "UnicodeDecodeError"

/-- The failure of a document that cannot be loaded. -/
def loadFailure (identifier : String) : Fault :=
  Fault.fail s!"Test setup failure - could not load GraphQL resource: {identifier}"

/-- The tree and location of a `package:relative` identifier, when it names a file. The
package's top-level name is looked up along the module path, a list of trees: the first tree
that holds it is the only one the rest of the name and the relative part are resolved in.
Importing the package runs its code first, which may end the lookup with a fault. -/
def packageFile (path : List FileTree) (identifier : String) :
    Except Fault (Option (FileTree × Location)) :=
  match identifier.toList.span (· != ':') with
  | (pkgChars, _ :: relChars) =>
    if pkgChars.isEmpty || relChars.isEmpty || pkgChars.contains '/' || pkgChars.contains '\\'
    then .ok none
    else
      let pkg := String.ofList pkgChars
      let relative := String.ofList relChars
      let top := (pkg.splitOn ".").headD ""
      match holder path top with
      | none => .ok none
      | some t =>
        match importPath t pkg with
        | none => .ok none
        | some (_, place) =>
          match runPackage path t pkg with
          | .raised f lineage =>
            if meansNoPackage lineage then .ok none
            else if failsLoad lineage then .error (Fault.failBecause (loadFailure identifier).text f)
            else .error f
          | .ran =>
            match place with
            | .plain _ => .ok none
            | .package dir =>
              let l := Location.join ⟨true, dir⟩ (Location.ofText relative)
              match t.checkFile l with
              | .ok found => .ok (if found then some (t, l) else none)
              | .error e => .error (Fault.failBecause (loadFailure identifier).text e)
  | _ => .ok none

/-- The locations tried for an identifier, after the package step. Search directories must
be texts. -/
def candidates (identifier : String) (dirs : List Value) : Except Fault (List Location) := do
  let target := Location.ofText identifier
  if target.absolute then return [target]
  let inDirs ← dirs.mapM fun
    | .str d => pure (Location.join (Location.ofText d) target)
    | v => throw (Fault.simple .wrongType
        s!"expected str, bytes or os.PathLike object, not {v.kindName}")
  pure (inDirs ++ [Location.join Location.root target])

/-- The first location that holds a file, checked in order. A check that fails ends the
search with its fault. -/
def firstFile (t : FileTree) : List Location → Except Fault (Option Location)
  | [] => .ok none
  | l :: ls =>
    match t.checkFile l with
    | .ok true => .ok (some l)
    | .ok false => firstFile t ls
    | .error e => .error e

/-- Read a found file, or fail with the decoding fault or the system's refusal as the cause. -/
def readFound (t : FileTree) (identifier : String) (l : Location) : Except Fault String :=
  match t.readText l with
  | some (.ok s) => .ok s
  | some (.error e) => .error (Fault.failBecause (loadFailure identifier).text e)
  | none => .error (loadFailure identifier)

/-- Load the document an identifier names from the working tree `t`, with the trees of
`installed` after it on the module path: its text and the record of the load. -/
def load (t : FileTree) (installed : List FileTree) (identifier : String) (dirs : List Value) :
    Except Fault (String × LogRecord) := do
  let found ← packageFile (t :: installed) identifier
  match found with
  | some (owner, l) =>
    let text ← readFound owner identifier l
    return (text, LogRecord.ofKit "resources" .debug "loaded package resource"
      [("resource", .str identifier)])
  | none =>
    let cs ← candidates identifier dirs
    let found ← (firstFile t cs).mapError (Fault.failBecause (loadFailure identifier).text)
    match found with
    | some l =>
      let text ← readFound t identifier l
      return (text, LogRecord.ofKit "resources" .debug "loaded file resource"
        [("resource", .str identifier), ("path", .str l.text)])
    | none => throw (loadFailure identifier)

end GraphProbe.Resource
