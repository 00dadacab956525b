import GraphProbe.Resource.Load

/-!
# Document loaders

A test gets the documents it sends from a loader: a table of texts by name, where a name
that is not in the table is a missing key, or a file tree searched in directories, with
installed trees after it for package lookups, where each load is logged.
-/

namespace GraphProbe

/-- Where documents come from: a table of texts by name, or a working file tree searched in
directories, with installed trees after it on the module path. -/
inductive Loader where
  | table (docs : List (String × String))
  | files (tree : FileTree) (installed : List FileTree) (dirs : Except Fault (List Value))
  deriving Inhabited

/-- Read a document by its name: its text and the record of the load, if one is logged. -/
def Loader.read : Loader → String → Except Fault (String × Option LogRecord)
  | .table docs, name =>
    match docs.lookup name with
    | some d => .ok (d, none)
    | none => .error (.raised .missingKey [.str name])
  | .files tree installed dirs, name => do
    let (text, record) ← Resource.load tree installed name (← dirs)
    pure (text, some record)

end GraphProbe
