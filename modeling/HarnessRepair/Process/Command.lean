import HarnessRepair.Failure
import HarnessRepair.Text.Blank
import HarnessRepair.Text.Lines
import HarnessRepair.World

/-!
# Commands

The verifier and the generators of harnesses are programs.  Whoever runs them is
a parameter: a function of the command, the time it may take and the directory.

## Main definitions

* `Command`, `CommandOutcome`, `CommandEnd` — a command and how it ends.
* `ProcessHost` — whoever runs commands.
* `CommandOutcome.buildFailure` — what is told of a command that failed.
* `runBounded` — runs a command for a limited time.
-/

namespace HarnessRepair

/-- A program, its arguments, and where it runs. -/
structure Command where
  program : String
  args : List String := []
  /-- The working directory of the command. -/
  directory : String
  /-- Variables that are added to the environment. -/
  extraVariables : List (String × String) := []
  deriving DecidableEq, Repr

/-- What a finished command leaves behind. -/
structure CommandOutcome where
  /-- Empty if a signal ended the command. -/
  exitCode : Option Int
  stdout : String
  stderr : String
  deriving DecidableEq, Repr

/-- How a command ends. -/
inductive CommandEnd where
  | finished (outcome : CommandOutcome)
  | notStarted (e : IoError)
  | timedOut
  deriving DecidableEq, Repr

/-- Whoever runs commands, given the number of seconds a command may take. -/
abbrev ProcessHost := Command → Nat → FileSystem → CommandEnd × FileSystem

/-- How many lines are kept of the output of a command that failed. -/
def failureLines : Nat := 20

namespace CommandOutcome

/-- Whether the command was successful. -/
def isSuccess (o : CommandOutcome) : Bool := o.exitCode == some 0

/-- The failure of a command: the last lines of what it wrote as errors, or of its
output if it wrote none. -/
def buildFailure (o : CommandOutcome) : InfrastructureFailure :=
  let shown := if Text.isBlankText o.stderr then o.stdout else o.stderr
  .buildFailed o.exitCode (Text.tail shown failureLines)

end CommandOutcome

variable {ε : Type}

/-- Runs a command for at most `seconds`. -/
def runBounded (host : ProcessHost) (c : Command) (seconds : Nat) :
    Run ε (Except InfrastructureFailure CommandOutcome) := do
  let w ← get
  let (ending, files) := host c seconds w.files
  set { w with files := files }
  match ending with
  | .finished outcome => return .ok outcome
  | .notStarted e => return .error (.spawn e.message)
  | .timedOut =>
    tell .warn .process "Command timed out, killed" [("timeout_secs", .number seconds)]
    return .error (.timeout seconds)

end HarnessRepair
