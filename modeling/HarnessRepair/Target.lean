import HarnessRepair.Files.Path
import HarnessRepair.Finding.Basic

/-!
# Targets and modes

The harness under repair, and which kind of finding is repaired in it.

## Main definitions

* `HarnessTarget` — the harness, its function and its directories.
* `HarnessTarget.ofLayout` — a harness at the usual place.
* `RepairMode` — modeling errors or coverage gaps.
-/

namespace HarnessRepair

/-- One harness and what is known about it. -/
structure HarnessTarget where
  /-- The name in logs and reports. -/
  name : String
  /-- The file that is patched. -/
  harnessFile : String
  targetFunction : String
  rootDir : String
  targetFile : Option String
  deriving DecidableEq, Repr

namespace HarnessTarget

/-- The harness of a function in a directory: `<function>_harness.c`. -/
def ofLayout (targetFunction rootDir harnessDir : String) (targetFile : Option String) :
    HarnessTarget :=
  { name := targetFunction
    harnessFile := Path.join harnessDir (targetFunction ++ "_harness.c")
    targetFunction := targetFunction
    rootDir := rootDir
    targetFile := targetFile }

/-- The directory the verifier runs in. -/
def harnessDir (t : HarnessTarget) : String := (Path.parent? t.harnessFile).getD "."

end HarnessTarget

/-- Which kind of finding a session repairs. -/
inductive RepairMode where
  /-- Modeling errors. -/
  | errors
  /-- Coverage gaps. -/
  | coverage
  deriving DecidableEq, Repr

namespace RepairMode

/-- The kind of finding that the mode is about. -/
def targets : RepairMode → FindingKind
  | .errors => .modelingError
  | .coverage => .coverageGap

/-- The name of a mode. -/
def name : RepairMode → String
  | .errors => "debugger"
  | .coverage => "coverage"

/-- All modes. -/
def all : List RepairMode := [.errors, .coverage]

/-- The mode with a name. -/
def ofName? (s : String) : Option RepairMode := all.find? (·.name == s)

end RepairMode

end HarnessRepair
