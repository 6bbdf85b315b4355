import HarnessRepair.Settings.Basic
import HarnessRepair.Text.Blank

/-!
# Checking settings

Settings are checked as a whole before anything runs.  The checks come in a fixed
order, and the first that fails decides what is said.

## Main definitions

* `SettingsError` — what is wrong, and `SettingsError.message`.
* `Settings.check` — the checks.

## Main results

* `Settings.check_default` — the defaults pass.
-/

namespace HarnessRepair

/-- The largest number of attempts that may be set. -/
def attemptLimit : Nat := 1000

/-- The largest number of workers that may be set. -/
def workerLimit : Nat := 64

/-- The names of the levels that may be set. -/
def levelNames : List String := ["trace", "debug", "info", "warn", "error"]

/-- The names of the formats that may be set. -/
def formatNames : List String := ["json", "pretty"]

/-- The names of the rotations that may be set. -/
def rotationNames : List String := ["daily", "hourly", "never"]

/-- What is wrong with some settings. -/
inductive SettingsError where
  | maxAttempts (n : Nat)
  | workers (n : Nat)
  | timeout (field : String)
  | emptyCommand
  | logLevel (name : String)
  | logFormat (name : String)
  | rotation (name : String)
  | rateLimit (n : Nat)
  | backoff (initialMillis maxMillis : Nat)
  deriving DecidableEq, Repr

/-- The words for what is wrong. -/
def SettingsError.message : SettingsError → String
  | .maxAttempts n =>
    "Invalid max_attempts: " ++ toString n ++ ". Must be between 1 and " ++ toString attemptLimit
  | .workers n =>
    "Invalid workers: " ++ toString n ++ ". Must be between 1 and " ++ toString workerLimit
  | .timeout field => "Invalid " ++ field ++ ": must be at least 1 second"
  | .emptyCommand => "Verifier command cannot be empty"
  | .logLevel name =>
    "Invalid log level: " ++ name ++ ". Must be one of: " ++ ", ".intercalate levelNames
  | .logFormat name =>
    "Invalid log format: " ++ name ++ ". Must be one of: " ++ ", ".intercalate formatNames
  | .rotation name =>
    "Invalid log rotation: " ++ name ++ ". Must be one of: " ++ ", ".intercalate rotationNames
  | .rateLimit n => "Invalid requests_per_minute: " ++ toString n ++ ". Must be at least 1"
  | .backoff initialMillis maxMillis =>
    "Invalid backoff configuration: initial_backoff_ms (" ++ toString initialMillis ++
      ") must be less than max_backoff_ms (" ++ toString maxMillis ++ ")"

namespace Settings

/-- Everything that is wrong, in the order of the checks. -/
def faults (s : Settings) : List SettingsError :=
  let given (wrong : Bool) (e : SettingsError) : List SettingsError := if wrong then [e] else []
  given (s.budget.maxAttempts == 0 || attemptLimit < s.budget.maxAttempts)
      (.maxAttempts s.budget.maxAttempts) ++
    given (s.session.workers == 0 || workerLimit < s.session.workers)
      (.workers s.session.workers) ++
    given (Text.isBlankText s.verifier.command) .emptyCommand ++
    given (s.verifier.timeoutSeconds == 0) (.timeout "verifier.timeout_secs") ++
    given (s.oracle.timeoutSeconds == 0) (.timeout "oracle.timeout_secs") ++
    given (!levelNames.contains s.logging.level) (.logLevel s.logging.level) ++
    given (!formatNames.contains s.logging.format) (.logFormat s.logging.format) ++
    given (!rotationNames.contains s.logging.rotation) (.rotation s.logging.rotation) ++
    given (s.oracle.requestsPerMinute == 0) (.rateLimit s.oracle.requestsPerMinute) ++
    given (s.oracle.maxBackoffMillis ≤ s.oracle.initialBackoffMillis)
      (.backoff s.oracle.initialBackoffMillis s.oracle.maxBackoffMillis)

/-- The settings if nothing is wrong with them, or what is found wrong first. -/
def check (s : Settings) : Except SettingsError Settings :=
  match s.faults with
  | [] => .ok s
  | e :: _ => .error e

theorem check_default : check {} = .ok {} := by
  have h : faults {} = [] := by decide
  simp [check, h]

end Settings

end HarnessRepair
