import HarnessRepair.CommandLine.Option
import HarnessRepair.CommandLine.Output
import HarnessRepair.Log.Setup
import HarnessRepair.Settings.Layers

/-!
# How the program ends

A command ends with an outcome or with an error, and the program with a status, a text
for its output and a text for its errors.  The status is 0 if nothing ended blocked, 1
if something did or could not be done, 2 if the program was not set up to run, and 101 if
a session has stopped it.

## Main definitions

* `CommandReport` — the outcome of a command.
* `ProgramError` — what has kept a command from its outcome.
* `Ending`, `endingOf` — the end of the program.

## Main results

* `status_endingOf_eq_zero_iff` — the status is 0 exactly if a command had an outcome
  and nothing in it was blocked, or help was asked for.
-/

namespace HarnessRepair.CommandLine

open Json

/-- The outcome of a command. -/
structure CommandReport where
  /-- Whether nothing ended blocked. -/
  success : Bool
  text : String
  json : Value

/-- What has kept a command from its outcome. -/
inductive ProgramError where
  | arguments (e : ArgumentError)
  | settings (e : LoadFailure)
  | log (e : LogSetupError)
  /-- The log file could not be opened. -/
  | logFile (e : IoError)
  | configuration (e : ConfigurationError)
  /-- There is no oracle to ask. -/
  | oracle (e : ConfigurationError)
  /-- The reports could not be written into a directory. -/
  | reports (dir : String) (e : IoError)
  /-- A session has stopped the program. -/
  | overflow (o : Overflow)
  deriving DecidableEq, Repr

namespace ArgumentError

/-- The words for refused arguments. -/
def message : ArgumentError → String
  | .helpAsked => "usage: proofmend [-j] [-c <path>] run|batch <options>"
  | .versionAsked => "proofmend 0.1.0"
  | .nothingGiven => "no arguments given"
  | .commandMissing => "no command given"
  | .commandUnknown => "unknown command"
  | .argumentUnknown => "unexpected argument"
  | .valueInvalid => "missing or invalid value"
  | .valueNeedless => "unexpected value"
  | .optionRepeated => "option given more than once"
  | .optionMissing => "required option not given"

/-- Whether the program was asked for no more than a text about itself. -/
def isAnswered (e : ArgumentError) : Bool := e == .helpAsked || e == .versionAsked

end ArgumentError

namespace ProgramError

/-- What is said of settings of the wrong shape. -/
def unreadableSettings : String := "the settings do not have the expected shape"

/-- The words for an error: what was being done, and then why that failed. -/
def chain : ProgramError → List String
  | .arguments e => [e.message]
  | .settings (.unreadable context) => [context, unreadableSettings]
  | .settings (.invalid e) => [e.message]
  | .log e => [e.message]
  | .logFile e => ["Failed to open the log file", e.message]
  | .configuration e => [e.message]
  | .oracle e => ["Repair oracle is not configured", e.message]
  | .reports dir e => ["Failed to write reports to " ++ dir, e.message]
  | .overflow o => [o.message]

/-- The error of a command without a report. -/
def ofRun : RunFailure → ProgramError
  | .configuration e => .configuration e
  | .overflow o => .overflow o

/-- The status of the program after an error. -/
def status : ProgramError → Nat
  | .arguments e => if e.isAnswered then 0 else 2
  | .settings _ | .log _ | .configuration _ | .oracle _ => 2
  | .logFile _ | .reports _ _ => 1
  | .overflow _ => 101

/-- The error as a JSON value. -/
def toJson (e : ProgramError) : Value :=
  .ofObject [("error", .ofText (e.chain.headD "")), ("causes", .ofTexts e.chain.tail),
    ("exit_code", .ofNat e.status)]

/-- The error in one line. -/
def text (e : ProgramError) : String := "error: " ++ ": ".intercalate e.chain

end ProgramError

/-- The status of the program after an outcome. -/
def CommandReport.status (r : CommandReport) : Nat := if r.success then 0 else 1

/-- The end of the program. -/
structure Ending where
  status : Nat
  output : String := ""
  errors : String := ""
  failure : Option ProgramError := none

/-- A text with the end of its last line. -/
def line (s : String) : String := s ++ "\n"

/-- A JSON value as it is printed. -/
def printed (v : Value) : String := line v.renderPretty

/-- The end after an error.  As JSON it is output like an outcome; refused arguments
never are, nor is a program that has been stopped. -/
def failedEnding (json : Bool) (e : ProgramError) : Ending :=
  match e with
  | .arguments a =>
    if a.isAnswered then { status := e.status, output := line a.message, failure := some e }
    else { status := e.status, errors := line e.text, failure := some e }
  | .overflow o => { status := e.status, errors := line o.message, failure := some e }
  | e =>
    if json then { status := e.status, output := printed e.toJson, failure := some e }
    else { status := e.status, errors := line e.text, failure := some e }

/-- The end after a command. -/
def endingOf (json : Bool) : Except ProgramError CommandReport → Ending
  | .ok r => { status := r.status, output := if json then printed r.json else line r.text }
  | .error e => failedEnding json e

theorem status_failedEnding (json : Bool) (e : ProgramError) :
    (failedEnding json e).status = e.status := by
  unfold failedEnding
  repeat' split
  all_goals rfl

theorem status_endingOf_eq_zero_iff (json : Bool) (r : Except ProgramError CommandReport) :
    (endingOf json r).status = 0 ↔
      (∃ c, r = .ok c ∧ c.success = true) ∨
        ∃ a, r = .error (.arguments a) ∧ a.isAnswered = true := by
  cases r with
  | ok c => cases h : c.success <;> simp [endingOf, CommandReport.status, h]
  | error e =>
    rw [endingOf, status_failedEnding]
    cases e with
    | arguments a => cases h : a.isAnswered <;> simp [ProgramError.status, h]
    | _ => simp [ProgramError.status]

end HarnessRepair.CommandLine
