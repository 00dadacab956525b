import GraphProbe.Resource.Location
import GraphProbe.Text.Utf8

/-!
# Trees of files

A file tree maps absolute names to entries: a file holds octets, a file the system refuses
to read holds the system error a read of it raises (a permission not granted, say), and a
directory holds nothing itself. Every directory above an entry exists too. `FileTree.ofListing` builds a tree from a
listing of paths relative to the tree's directory; a path that ends in `/` is a directory.

A location is followed name by name, as a file system does: every name on the way must be a
directory, and `..` steps out of the directory reached so far, so `a.txt/../q` reaches
nothing when `a.txt` is a file.

Checking whether a location holds a file fails when the walk looks up a name longer than a
directory may hold (`FileTree.checkFile`). `FileTree.readText` reads a file as UTF-8 text
with uniform line ends, or fails with the system error of a file that cannot be read.
Directories are searched freely: a check fails only for a name too long.
-/

namespace GraphProbe

/-- An entry of a file tree. -/
inductive Entry where
  | file (data : List UInt8)
  /-- A file the system refuses to read: a read raises the system error `errno` with its
  reason. -/
  | unreadable (errno : Nat) (reason : String)
  | directory
  deriving BEq, Repr, Inhabited

/-- Whether an entry is a file, whether or not it can be read. -/
def Entry.isFile : Entry → Bool
  | .directory => false
  | _ => true

/-- A file tree: entries by their absolute names. -/
structure FileTree where
  entries : List (List String × Entry)
  deriving Inhabited

namespace FileTree

/-- The entry at absolute names. -/
def entry? (t : FileTree) (names : List String) : Option Entry :=
  if names == Location.root.parts then some .directory else t.entries.lookup names

/-- Follow names one at a time from the directory `cur`: every name but the last must be a
directory, and `..` steps out to the directory above. The absolute names reached, or
`none` when a step passes through something that is no directory. -/
def walk (t : FileTree) (cur : List String) : List String → Option (List String)
  | [] => some cur
  | [".."] => some cur.dropLast
  | [n] => some (cur ++ [n])
  | ".." :: rest => walk t cur.dropLast rest
  | n :: rest =>
    match t.entry? (cur ++ [n]) with
    | some .directory => walk t (cur ++ [n]) rest
    | _ => none

/-- The absolute names a location reaches in the tree, seen from the tree's directory. -/
def reach (t : FileTree) (l : Location) : Option (List String) :=
  walk t [] (if l.absolute then l.parts else Location.root.parts ++ l.parts)

/-- The entry at a location. -/
def entryAt? (t : FileTree) (l : Location) : Option Entry := (t.reach l).bind t.entry?

/-- Whether a location holds a file. -/
def isFile (t : FileTree) (l : Location) : Bool := (t.entryAt? l).any Entry.isFile

/-- The most octets a name in a directory may have. -/
def nameMax : Nat := 255

/-- Whether following names from the directory `cur` looks up a name longer than `nameMax`
octets. A name is looked up only in a directory that was reached, so a walk that stops
before a long name never meets it. -/
def longLookup (t : FileTree) (cur : List String) : List String → Bool
  | [] => false
  | ".." :: rest => t.longLookup cur.dropLast rest
  | n :: rest => nameMax < n.utf8ByteSize ||
      (t.entry? (cur ++ [n]) == some .directory && t.longLookup (cur ++ [n]) rest)

/-- The fault of a lookup of a name longer than a directory may hold. -/
def nameTooLong : Fault := .raised .system [.int 36, .str "File name too long"]

/-- Check whether a location holds a file, as a file system answers: the check itself fails
when the walk to the location looks up a name that is too long. -/
def checkFile (t : FileTree) (l : Location) : Except Fault Bool :=
  if t.longLookup [] (if l.absolute then l.parts else Location.root.parts ++ l.parts) then
    .error nameTooLong
  else .ok (t.isFile l)

/-- Add an entry unless one is present at its names. -/
def put (t : FileTree) (names : List String) (e : Entry) : FileTree :=
  if names == Location.root.parts || (t.entries.lookup names).isSome then t
  else ⟨t.entries ++ [(names, e)]⟩

/-- Add an entry at a location, with the directories on the way to it. An entry already
present stays. -/
def add (t : FileTree) (l : Location) (e : Entry) : FileTree :=
  let raw := if l.absolute then l.parts else Location.root.parts ++ l.parts
  let above := (List.range raw.length).map fun k => Location.resolveNames [] (raw.take k)
  let t := above.foldl (fun t p => if p.length > 1 then t.put p .directory else t) t
  t.put l.resolved e

/-- A tree from a listing of relative paths and entries. -/
def ofListing (listing : List (String × Entry)) : FileTree :=
  listing.foldl (fun t (path, e) =>
    let e := if path.endsWith "/" then Entry.directory else e
    t.add (Location.ofText path) e) ⟨[]⟩

/-- The fault a read of a file the system refuses raises: the system error of its number,
of the class that number selects. -/
def readRefusal (errno : Nat) (reason : String) : Fault :=
  .raised (FaultKind.ofErrno errno) [.int errno, .str reason]

/-- Read octets as UTF-8 text with uniform line ends, or fail with the decoding fault. -/
def decodeText (d : List UInt8) : Except Fault String :=
  match Utf8.decode d with
  | .ok s => .ok (Utf8.uniformLines s)
  | .error e => .error (e.toFault d)

/-- Read the file at a location as UTF-8 text with uniform line ends: `none` when there is
no file, the fault when the octets are no UTF-8 or the system refuses the read. -/
def readText (t : FileTree) (l : Location) : Option (Except Fault String) :=
  match t.entryAt? l with
  | some (.file d) => some (decodeText d)
  | some (.unreadable errno reason) => some (.error (readRefusal errno reason))
  | _ => none

end FileTree

end GraphProbe
