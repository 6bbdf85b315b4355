import HarnessRepair.Failure
import HarnessRepair.Finding.Basic
import HarnessRepair.Target
import HarnessRepair.World

/-!
# Verifier reports

What one verifier run leaves behind, as it stands and as it reads.

## Main definitions

* `Artifact` — the four documents of a run.
* `RawReport` — their texts and the output of the run.
* `CoverageIndex` — which lines were reached.
* `VerifierReport` — the findings of a run and its coverage.
* `Verifier` — whoever runs.
-/

namespace HarnessRepair

/-- The documents a run may leave behind. -/
inductive Artifact where
  | result
  | property
  | trace
  | coverage
  deriving DecidableEq, Repr

namespace Artifact

/-- The file name of a document. -/
def fileName : Artifact → String
  | .result => "viewer-result.json"
  | .property => "viewer-property.json"
  | .trace => "viewer-trace.json"
  | .coverage => "viewer-coverage.json"

/-- All documents. -/
def all : List Artifact := [.result, .property, .trace, .coverage]

end Artifact

/-- The output of a run and the texts of its documents. -/
structure RawReport where
  exitCode : Option Int := none
  stdout : String := ""
  stderr : String := ""
  result : Option String := none
  property : Option String := none
  trace : Option String := none
  coverage : Option String := none
  deriving DecidableEq, Repr

/-- Whether a line was reached, by file, function and line; of two entries for a
line the first counts. -/
structure CoverageIndex where
  entries : List (Location × Bool) := []
  deriving DecidableEq, Repr

namespace CoverageIndex

/-- One more line, over what was known of it. -/
def insert (c : CoverageIndex) (l : Location) (hit : Bool) : CoverageIndex :=
  ⟨(l, hit) :: c.entries⟩

/-- Whether a line was reached, if the report says so or the opposite. -/
def hit? (c : CoverageIndex) (l : Location) : Option Bool := c.entries.lookup l

/-- Whether nothing is known. -/
def isEmpty (c : CoverageIndex) : Bool := c.entries.isEmpty

@[simp] theorem hit?_insert (c : CoverageIndex) (l m : Location) (hit : Bool) :
    (c.insert l hit).hit? m = if m = l then some hit else c.hit? m := by
  by_cases h : m = l
  · subst h; simp [insert, hit?]
  · have hb : (m == l) = false := by simpa using h
    simp [insert, hit?, List.lookup_cons, hb, h]

end CoverageIndex

/-- What a run reports: findings in the order of their places, none meaning
verified clean, and the coverage if there is one. -/
structure VerifierReport where
  findings : List Finding
  coverage : Option CoverageIndex
  deriving DecidableEq, Repr

/-- Whoever builds a harness and runs the model checker on it. -/
structure Verifier (ε : Type) where
  /-- The name in logs. -/
  name : String
  run : HarnessTarget → Run ε (Except InfrastructureFailure RawReport)

end HarnessRepair
