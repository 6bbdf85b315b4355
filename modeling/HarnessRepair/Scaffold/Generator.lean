import HarnessRepair.Pipeline.Run
import HarnessRepair.Process.Command
import HarnessRepair.Settings.Basic

/-!
# Generators

Harnesses and stubs are made by commands of the user.  Without a command, a step
only checks that the files a session needs are there.

## Main definitions

* `checkLayout` — whether the files are there.
* `generatorFor`, `generatorVariables` — the command of a step.
* `generator` — the scaffolder.
-/

namespace HarnessRepair

/-- The paths that a session needs. -/
def neededFiles (target : HarnessTarget) : List String :=
  [target.harnessFile, Path.join target.harnessDir "Makefile"]

/-- Whether the files that a session needs are there. -/
def checkLayout (fs : FileSystem) (target : HarnessTarget) : Except InfrastructureFailure Unit :=
  match (neededFiles target).find? fun path => !fs.isFile path with
  | some path => .error (.io (path ++ " does not exist"))
  | none => .ok ()

/-- The program and the arguments of a step. -/
def generatorFor (s : ScaffoldSettings) : ScaffoldStep → List String
  | .harness => s.harnessCommand
  | .functionStubs => s.stubsCommand

/-- What a generator is told about its target. -/
def generatorVariables (target : HarnessTarget) : List (String × String) :=
  [("PROOFMEND_TARGET_FUNCTION", target.targetFunction), ("PROOFMEND_ROOT_DIR", target.rootDir),
    ("PROOFMEND_HARNESS_FILE", target.harnessFile)] ++
  match target.targetFile with
  | some file => [("PROOFMEND_TARGET_FILE", file)]
  | none => []

variable {ε : Type}

/-- Runs the generator of a step and checks what it has made. -/
def runGenerator (host : ProcessHost) (s : ScaffoldSettings) (seconds : Nat) (step : ScaffoldStep)
    (target : HarnessTarget) : Run ε (Except InfrastructureFailure Unit) := do
  match generatorFor s step with
  | [] => return checkLayout (← get).files target
  | program :: args =>
    if let .error e ← onFiles fun fs => fs.createDirAll target.harnessDir then
      return .error (.io e.message)
    tell .info .scaffold "Running scaffold command"
      [("harness", .shown target.name), ("step", .text step.name), ("program", .shown program)]
    let command : Command :=
      { program := program
        args := args
        directory := target.harnessDir
        extraVariables := generatorVariables target }
    match ← runBounded host command seconds with
    | .error e => return .error e
    | .ok outcome =>
      if outcome.isSuccess then return checkLayout (← get).files target
      return .error outcome.buildFailure

/-- The scaffolder that runs generators. -/
def generator (host : ProcessHost) (s : ScaffoldSettings) (seconds : Nat) : Scaffolder ε where
  scaffold := runGenerator host s seconds

end HarnessRepair
