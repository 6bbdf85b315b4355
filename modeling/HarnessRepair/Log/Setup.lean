import HarnessRepair.Log.Event
import HarnessRepair.Settings.Basic

/-!
# Setting up the log

The names in the settings of the log, read in letters of either case.

## Main definitions

* `LogFormat`, `LogRotation`, `LogSetup` — how events are written, and where.
* `LogSetupError` — a name that means nothing, and `LogSetupError.message`.
* `LogSetup.ofSettings` — reading the settings.

## Main results

* `LogSetup.ofSettings_default` — the defaults are understood.
-/

namespace HarnessRepair

/-- How events are written for the terminal. -/
inductive LogFormat where
  | json
  | pretty
  deriving DecidableEq, Repr

namespace LogFormat

/-- The name of a format, with a capital. -/
def name : LogFormat → String
  | .json => "Json"
  | .pretty => "Pretty"

/-- All formats. -/
def all : List LogFormat := [.json, .pretty]

end LogFormat

/-- How often a new log file is begun. -/
inductive LogRotation where
  | daily
  | hourly
  | never
  deriving DecidableEq, Repr

namespace LogRotation

/-- The name of a rotation, with a capital. -/
def name : LogRotation → String
  | .daily => "Daily"
  | .hourly => "Hourly"
  | .never => "Never"

/-- All rotations. -/
def all : List LogRotation := [.daily, .hourly, .never]

end LogRotation

/-- How the log is written. -/
structure LogSetup where
  level : LogLevel
  format : LogFormat
  /-- Where log files go, if there are any. -/
  directory : Option String
  rotation : LogRotation
  deriving DecidableEq, Repr

/-- A name in the settings of the log that means nothing. -/
inductive LogSetupError where
  | level (name : String)
  | format (name : String)
  | rotation (name : String)
  deriving DecidableEq, Repr

/-- The words for a name that means nothing. -/
def LogSetupError.message : LogSetupError → String
  | .level name => "Invalid log level: " ++ name
  | .format name => "Invalid log format: " ++ name
  | .rotation name => "Invalid rotation policy: " ++ name

/-- Whether two texts differ at most in the case of ASCII letters. -/
def sameInAnyCase (s t : String) : Bool :=
  s.toList.map Char.toLower == t.toList.map Char.toLower

/-- The one of some things that has a name, in letters of either case. -/
def named? {α : Type} (all : List α) (nameOf : α → String) (name : String) : Option α :=
  all.find? fun a => sameInAnyCase (nameOf a) name

namespace LogSetup

/-- The setup that some settings describe.  Level, format and rotation are looked up
in this order, and the first that means nothing is told. -/
def ofSettings (s : LogSettings) : Except LogSetupError LogSetup :=
  match named? LogLevel.all LogLevel.name s.level with
  | none => .error (.level s.level)
  | some level =>
    match named? LogFormat.all LogFormat.name s.format with
    | none => .error (.format s.format)
    | some format =>
      match named? LogRotation.all LogRotation.name s.rotation with
      | none => .error (.rotation s.rotation)
      | some rotation => .ok ⟨level, format, s.logDir, rotation⟩

theorem ofSettings_default : ofSettings {} = .ok ⟨.info, .pretty, none, .daily⟩ := rfl

end LogSetup

end HarnessRepair
