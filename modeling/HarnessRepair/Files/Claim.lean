import HarnessRepair.Failure

/-!
# Exclusive use of harness files

Two sessions must not work on one harness file, under whatever spellings.

## Main definitions

* `FileKey` — what tells two files apart: the place of a file that exists, the
  components of a path that leads nowhere.
* `claim` — one more file, unless it is claimed already.
-/

namespace HarnessRepair

/-- What tells two harness files apart. -/
inductive FileKey where
  | existing (place : Place)
  | absent (components : List Path.Component)
  deriving DecidableEq, Repr

/-- The key of the file at a path. -/
def fileKey (fs : FileSystem) (path : String) : FileKey :=
  match fs.place? path with
  | some place => .existing place
  | none => .absent (Path.components path)

/-- Adds the file at a path to those claimed. -/
def claim (fs : FileSystem) (claimed : List FileKey) (path : String) :
    Except ConfigurationError (List FileKey) :=
  let key := fileKey fs path
  if claimed.contains key then .error (.duplicateHarness path) else .ok (key :: claimed)

end HarnessRepair
