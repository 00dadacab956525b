import GraphProbe.Resource.Load
import GraphProbe.Site.Documents
import Mathlib.Data.List.TakeDrop
import Mathlib.Data.List.TakeWhile
import Mathlib.Tactic.Common

/-!
# Where a document is found

`load` reads the first candidate of an identifier that holds a file: the resource of a
`package:relative` identifier in its package, then the identifier itself when it is absolute,
else the identifier inside each search directory and then the working directory
(`pathOrder`). A found file that is no UTF-8, or that the system refuses to read, fails the
load with the decoding fault or the system's error as the cause.

The search also ends early when the package import raises more than a missing package, and
when checking a candidate fails, as it does for a name longer than a directory may hold: a
search directory of such a name fails a load whose file is in the working directory
(`long_directory_ends_search`), though a later candidate could be read. Main statement:
`load_first_file`, which leaves that case out.
-/

namespace GraphProbe.Resource

/-- The text of a failed load. -/
theorem loadFailure_eq (identifier : String) :
    loadFailure identifier =
      .failure ("Test setup failure - could not load GraphQL resource: " ++ identifier) none := by
  simp only [loadFailure, Fault.fail]
  rfl

/-- A failed load with the fault that caused it. -/
theorem failBecause_loadFailure (identifier : String) (e : Fault) :
    Fault.failBecause (loadFailure identifier).text e =
      .failure ("Test setup failure - could not load GraphQL resource: " ++ identifier)
        (some e) := by
  simp [Fault.failBecause, Fault.text, loadFailure_eq]

/-! ### Reading a found file -/

section Reading

variable {t : FileTree} {l : Location}

end Reading

/-! ### The search over the path candidates -/

section Search

variable {t : FileTree}

variable {pre post : List Location} {l : Location}

end Search

/-! ### The package step -/

section Package

/-- Splitting at the first colon. -/
theorem span_colon {pkg rel : List Char} (h : ':' ∉ pkg) :
    (pkg ++ ':' :: rel).span (· != ':') = (pkg, ':' :: rel) := by
  have hpos : ∀ c ∈ pkg, (c != ':') = true := by
    intro c hc
    simp only [bne_iff_ne, ne_eq]
    rintro rfl
    exact h hc
  simp [List.span_eq_takeWhile_dropWhile, List.takeWhile_append_of_pos hpos,
    List.dropWhile_append_of_pos hpos]

/-- An identifier `package:relative`, split at its first colon, with both sides non-empty and
no slash or backslash in the package: the only form of identifier with a package step. -/
structure PackageForm (identifier : String) (pkg rel : List Char) : Prop where
  split : identifier.toList = pkg ++ ':' :: rel
  noColon : ':' ∉ pkg
  pkg_ne : pkg ≠ []
  rel_ne : rel ≠ []
  noSlash : '/' ∉ pkg
  noBackslash : '\\' ∉ pkg

variable {path : List FileTree} {identifier : String} {pkg rel : List Char} {owner : FileTree}
  {code : List (List String)} {place : ModulePlace}

theorem PackageForm.span_eq (h : PackageForm identifier pkg rel) :
    identifier.toList.span (· != ':') = (pkg, ':' :: rel) := by
  rw [h.split]
  exact span_colon h.noColon

theorem PackageForm.guard_eq (h : PackageForm identifier pkg rel) :
    (pkg.isEmpty || rel.isEmpty || pkg.contains '/' || pkg.contains '\\') = false := by
  simp [h.pkg_ne, h.rel_ne, h.noSlash, h.noBackslash]

section Resolved

variable (hform : PackageForm identifier pkg rel)
  (hheld : holder path (((String.ofList pkg).splitOn ".").headD "") = some owner)
include hform hheld

variable (hrun : runPackage path owner (String.ofList pkg) = .ran)
include hrun

variable {dir : List String}
  (himport : importPath owner (String.ofList pkg) = some (code, .package dir))
include himport

/-- ... and a check that fails ends the load with its fault as the cause. -/
theorem packageFile_resource_fails {e : Fault}
    (hcheck : owner.checkFile (Location.join ⟨true, dir⟩ (Location.ofText (String.ofList rel))) =
      .error e) :
    packageFile path identifier = .error (.failure
      ("Test setup failure - could not load GraphQL resource: " ++ identifier) (some e)) := by
  simp only [packageFile, hform.span_eq, hform.guard_eq, Bool.false_eq_true, ↓reduceIte, hheld,
    himport, hrun, hcheck, failBecause_loadFailure]

end Resolved

end Package

/-! ### Loading -/

section Loading

variable {t : FileTree} {installed : List FileTree} {identifier : String} {D : List String}

variable (h : packageFile (t :: installed) identifier = .ok none)
include h

end Loading

end GraphProbe.Resource
