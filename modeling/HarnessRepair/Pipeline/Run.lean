import HarnessRepair.Batch.Run
import HarnessRepair.Pipeline.Mode

/-!
# Running a mode

The steps of a mode on one target, up to the first that ends blocked.

## Main definitions

* `Scaffolder` — whoever makes harnesses and stubs.
* `StepReport`, `PipelineReport` — what is told of the steps.
* `runSteps`, `runPipeline` — the steps.
-/

namespace HarnessRepair

open Json

/-- Whoever makes, or checks for, the files a session needs. -/
structure Scaffolder (ε : Type) where
  scaffold : ScaffoldStep → HarnessTarget → Run ε (Except InfrastructureFailure Unit)

/-- How a step ended. -/
structure StepReport where
  step : String
  status : SessionStatus
  detail : Option String
  /-- The session of a repair step. -/
  session : Option SessionReport
  deriving DecidableEq, Repr

/-- How the steps of a mode ended. -/
structure PipelineReport where
  mode : PipelineMode
  targetFunction : String
  steps : List StepReport
  deriving DecidableEq, Repr

namespace StepReport

/-- Whether neither the step nor a finding in it ended blocked. -/
def isSuccess (s : StepReport) : Bool :=
  s.status != .blocked &&
    match s.session with
    | some r => r.count .blocked == 0
    | none => true

/-- The step as a JSON value. -/
def toJson (s : StepReport) : Value :=
  .ofObject [("step", .ofText s.step), ("status", .ofText s.status.name),
    ("detail", .ofOption .ofText s.detail), ("session", .ofOption SessionReport.toJson s.session)]

/-- The step that a JSON value describes. -/
def ofJson? (v : Value) : Option StepReport := do
  let r ← v.record? ["step", "status", "detail", "session"]
  return ⟨← r.required "step" Value.text?,
    ← r.required "status" fun v => v.variant?.bind SessionStatus.ofName?,
    ← r.optional "detail" Value.text?, ← r.optional "session" SessionReport.ofJson?⟩

end StepReport

namespace PipelineReport

/-- Whether nothing ended blocked. -/
def isSuccess (r : PipelineReport) : Bool := r.steps.all StepReport.isSuccess

/-- The sessions of the steps. -/
def sessionsOf (steps : List StepReport) : List SessionReport := steps.filterMap (·.session)

/-- The sessions of a run. -/
def sessions (r : PipelineReport) : List SessionReport := sessionsOf r.steps

/-- The members of the report as JSON values. -/
def members (r : PipelineReport) : List (String × Value) :=
  [("mode", .ofText r.mode.name), ("target_function", .ofText r.targetFunction),
    ("steps", .array (r.steps.map StepReport.toJson))]

/-- The report as a JSON value. -/
def toJson (r : PipelineReport) : Value := .ofObject r.members

/-- The report that a JSON value describes. -/
def ofJson? (v : Value) : Option PipelineReport := do
  let r ← v.record? ["mode", "target_function", "steps"]
  return ⟨← r.required "mode" fun v => v.variant?.bind PipelineMode.ofName?,
    ← r.required "target_function" Value.text?,
    ← r.required "steps" (Value.list? StepReport.ofJson?)⟩

end PipelineReport

/-! ### Running -/

/-- Who takes part in a run, and how. -/
structure Pipeline (ε : Type) where
  scaffolder : Scaffolder ε
  /-- The controller for a mode; none if there is no oracle. -/
  controller : Option (RepairMode → Controller ε)
  settings : BatchSettings

variable {ε : Type}

/-- One scaffold step. -/
def runScaffold (p : Pipeline ε) (step : ScaffoldStep) (target : HarnessTarget) :
    Run ε StepReport := do
  match ← p.scaffolder.scaffold step target with
  | .ok () => return ⟨step.name, .clean, none, none⟩
  | .error e => return ⟨step.name, .blocked, some e.message, none⟩

/-- One repair step. -/
def runRepair (p : Pipeline ε) (mode : RepairMode) (target : HarnessTarget) :
    Run ε (Except RunFailure StepReport) := do
  match p.controller with
  | none =>
    return .error (.configuration (.invalid ("mode " ++ mode.name ++ " requires a repair oracle")))
  | some controller =>
    match ← runJob (controller mode) p.settings { target := target } with
    | .error o => return .error (.overflow o)
    | .ok session => return .ok ⟨mode.name, session.status, session.blockedReason, some session⟩

/-- One step. -/
def runStep (p : Pipeline ε) (target : HarnessTarget) :
    PipelineStep → Run ε (Except RunFailure StepReport)
  | .scaffold step => do return .ok (← runScaffold p step target)
  | .repair mode => runRepair p mode target

/-- The steps of a list, up to the first that ends blocked. -/
def runSteps (p : Pipeline ε) (target : HarnessTarget) :
    List PipelineStep → Run ε (Except RunFailure (List StepReport))
  | [] => return .ok []
  | step :: rest => do
    match ← runStep p target step with
    | .error e => return .error e
    | .ok report =>
      tell .info .pipeline "Step finished"
        [nameField target, ("step", .shown report.step), ("status", .text report.status.name)]
      if report.status = .blocked then return .ok [report]
      match ← runSteps p target rest with
      | .error e => return .error e
      | .ok reports => return .ok (report :: reports)

/-- Runs a mode on a target. -/
def runPipeline (p : Pipeline ε) (mode : PipelineMode) (target : HarnessTarget) :
    Run ε (Except RunFailure PipelineReport) := do
  match ← runSteps p target mode.steps with
  | .error e => return .error e
  | .ok steps => return .ok ⟨mode, target.targetFunction, steps⟩

end HarnessRepair
