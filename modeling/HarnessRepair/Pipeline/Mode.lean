import HarnessRepair.Target

/-!
# Modes of a run

A mode is a list of steps: making the harness, making stubs, closing coverage
gaps, resolving modeling errors.

## Main definitions

* `ScaffoldStep`, `PipelineStep`, `PipelineMode` — steps and modes.
* `PipelineMode.steps` — the steps of a mode, in order.
-/

namespace HarnessRepair

/-- What is made before a session. -/
inductive ScaffoldStep where
  | harness
  | functionStubs
  deriving DecidableEq, Repr

namespace ScaffoldStep

/-- The name of a step. -/
def name : ScaffoldStep → String
  | .harness => "harness"
  | .functionStubs => "function-stubs"

/-- The step with a name. -/
def ofName? (s : String) : Option ScaffoldStep :=
  [ScaffoldStep.harness, .functionStubs].find? (·.name == s)

end ScaffoldStep

/-- One step of a mode. -/
inductive PipelineStep where
  | scaffold (step : ScaffoldStep)
  | repair (mode : RepairMode)
  deriving DecidableEq, Repr

/-- The name of a step. -/
def PipelineStep.name : PipelineStep → String
  | .scaffold step => step.name
  | .repair mode => mode.name

/-- The mode of a run. -/
inductive PipelineMode where
  | harness
  | functionStubs
  | coverage
  | debugger
  | all
  deriving DecidableEq, Repr

namespace PipelineMode

/-- The name of a mode. -/
def name : PipelineMode → String
  | .harness => "harness"
  | .functionStubs => "function-stubs"
  | .coverage => "coverage"
  | .debugger => "debugger"
  | .all => "all"

/-- All modes. -/
def modes : List PipelineMode := [.harness, .functionStubs, .coverage, .debugger, .all]

/-- The mode with a name. -/
def ofName? (s : String) : Option PipelineMode := modes.find? (·.name == s)

/-- The steps of a mode, in order. -/
def steps : PipelineMode → List PipelineStep
  | .harness => [.scaffold .harness]
  | .functionStubs => [.scaffold .functionStubs]
  | .coverage => [.repair .coverage]
  | .debugger => [.repair .errors]
  | .all => [.scaffold .harness, .scaffold .functionStubs, .repair .coverage, .repair .errors]

/-- Whether a step of the mode asks the oracle. -/
def needsOracle (m : PipelineMode) : Bool :=
  m.steps.any fun step => match step with
    | .repair _ => true
    | .scaffold _ => false

end PipelineMode

end HarnessRepair
