import HarnessRepair.Files.Path
import HarnessRepair.Json.Record

/-!
# Source locations

Where the verifier says that something is wrong.  Line numbers count from one
and are words of 64 bits.

## Main definitions

* `Location` — file, function and line.
* `Location.isIn` — whether it lies in a file, compared by file name.
* `sameFileName` — the comparison.
-/

namespace HarnessRepair

open Json

/-- Whether two paths lead to files of the same name.  The verifier reports paths
as seen from a directory of its own, so more cannot be compared. -/
def sameFileName (p q : String) : Bool :=
  match Path.fileName? p, Path.fileName? q with
  | some a, some b => a == b
  | _, _ => false

/-- A line in a function of a source file. -/
structure Location where
  file : String
  function : String
  line : Nat
  deriving DecidableEq, Repr, Inhabited

namespace Location

/-- Whether the location lies in the file at a path. -/
def isIn (l : Location) (path : String) : Bool := sameFileName l.file path

/-- The location as it is shown. -/
def text (l : Location) : String :=
  l.file ++ ":" ++ toString l.line ++ " in " ++ l.function

/-- The location as a JSON value. -/
def toJson (l : Location) : Value :=
  .ofObject [("file", .ofText l.file), ("function", .ofText l.function), ("line", .ofNat l.line)]

/-- The location that a JSON value describes. -/
def ofJson? (v : Value) : Option Location := do
  let r ← v.record? ["file", "function", "line"]
  return ⟨← r.required "file" Value.text?, ← r.required "function" Value.text?,
    ← r.required "line" Value.word?⟩

end Location

end HarnessRepair
