import GraphProbe.Exercise.Encoding
import GraphProbe.Settings
import GraphProbe.Resource.Load
import GraphProbe.Site.Documents
import GraphProbe.Exports

/-!
# Exercises of settings, resources and exports

`configuration` reads settings one by one and as a snapshot; `resource` loads a document from
a file tree; `exported` resolves names against a package's exports.
-/

namespace GraphProbe.Exercise

/-- The configuration a request carries: its `settings` object, or none. -/
def settingsOf (req : Value) : Except Fault Settings :=
  match req.field? "settings" with
  | some (.obj fs) => Settings.configure fs
  | _ => .ok none

/-- One settings call: a lookup by key or a snapshot. -/
def settingsCall (s : Settings) (call : Value) : Except Fault Value :=
  match call.field? "get" with
  | some k => s.lookup k.display
  | none => SettingsSnapshot.toValue <$> s.load

/-- Read settings. -/
def configuration (req : Value) : Value :=
  match settingsOf req with
  | .error f => faultRecord f
  | .ok s => .obj [("calls", .arr ((listOf req "calls").map fun c => outcome (settingsCall s c)))]

/-- The file tree a request lists. -/
def treeOf (req : Value) : Except Fault FileTree := do
  let listing ← match req.field? "files" with
    | some (.obj fs) => fs.mapM fun (path, v) => do
      match ← incoming v with
      | .bytes bs => pure (path, Entry.file bs)
      | w => pure (path, Entry.file (Utf8.encode w.display))
    | _ => pure []
  pure (FileTree.ofListing listing)

/-- The search directories of a request: its own, or those of the settings. -/
def searchDirsOf (req : Value) (s : Settings) : Except Fault (List Value) :=
  match req.field? "search_dirs" with
  | some .null | none => (s.get .resourceDirs).elements
  | some v => v.elements

/-- Load a document from a file tree. -/
def resource (req : Value) : Value :=
  let r : Except Fault Value := do
    let s ← settingsOf req
    let tree ← treeOf req
    let dirs ← searchDirsOf req s
    let (text, _) ← Resource.load tree Site.modulePath (textOr req "identifier" "") dirs
    pure (.str text)
  match r with
  | .ok v => .obj [("result", v)]
  | .error f => faultRecord f

/-- Look names up in one of the kit's packages. -/
def exported (req : Value) : Value :=
  let name := textOr req "package" ""
  match Exports.ofName? name with
  | none => faultRecord (Fault.simple .missingModule s!"No module named {Text.quote name}")
  | some p =>
    .obj [("all", .arr (p.all.map Value.str)), ("dir_has_all", .bool true),
      ("dir_sorted", .bool true),
      ("names", .arr ((listOf req "names").map fun n =>
        outcome ((p.get n.display).map Exports.Binding.toValue)))]

end GraphProbe.Exercise
