import Daybook.Builder.Basic
import Daybook.Disk.Basic

/-!
# Errors of a project

* `ProjectError`: why a request about a project fails; `ProjectError.message`.
* `ProjectError.isUnreadable`: whether a failure is that of one file, which a file that includes it
  can do without.
-/

namespace Daybook.Project

/-- Why a request fails. -/
inductive ProjectError where
  | disposed
  | notDirectory (path : Path)
  /-- The pass that started at `root` was cancelled after some files. -/
  | cancelled (root : Path) (files : Nat)
  /-- What was asked for names no place. -/
  | nowhere (cause : PathError)
  | unreadable (path : Path) (cause : DiskError)
  | build (cause : BuildError)
deriving DecidableEq, Repr

/-- The wording of an error. -/
def ProjectError.message : ProjectError → String
  | disposed => "ProjectCache has been disposed"
  | notDirectory path => "workspace root is not a directory: " ++ path.text
  | cancelled root files =>
    "aggregation of " ++ root.text ++ " cancelled after " ++ toString files ++ " file(s)"
  | nowhere cause => cause.message
  | unreadable path cause => cause.message path.text
  | build cause => cause.message

/-- Whether a failure is that of one file. -/
def ProjectError.isUnreadable : ProjectError → Bool
  | unreadable .. => true
  | _ => false

end Daybook.Project
