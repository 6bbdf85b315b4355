/-!
# Log events

What happens in a run is told as events: a level, the part of the program that
speaks, a message, and named fields.

## Main definitions

* `LogLevel` — how much an event matters.
* `LogSource` — who speaks.
* `FieldValue`, `LogEvent` — the event.
-/

namespace HarnessRepair

/-- How much an event matters, from the least. -/
inductive LogLevel where
  | trace
  | debug
  | info
  | warn
  | error
  deriving DecidableEq, Repr, Inhabited

namespace LogLevel

/-- The level as a number that grows with importance. -/
def rank : LogLevel → Nat
  | .trace => 0
  | .debug => 1
  | .info => 2
  | .warn => 3
  | .error => 4

/-- The name of a level in capitals. -/
def name : LogLevel → String
  | .trace => "TRACE"
  | .debug => "DEBUG"
  | .info => "INFO"
  | .warn => "WARN"
  | .error => "ERROR"

/-- All levels. -/
def all : List LogLevel := [.trace, .debug, .info, .warn, .error]

end LogLevel

/-- The part of the program that an event comes from. -/
inductive LogSource where
  | patchStore
  | reportReader
  | session
  | batch
  | pipeline
  | reportWriter
  | scriptedOracle
  | httpOracle
  | oracleSetup
  | verifier
  | scaffold
  | process
  | logger
  deriving DecidableEq, Repr

/-- The target by which filters know a source. -/
def LogSource.target : LogSource → String
  | .patchStore => "proofmend::services::patch_store"
  | .reportReader => "proofmend::services::report_parser"
  | .session => "proofmend::services::iteration_controller"
  | .batch => "proofmend::services::session_aggregator"
  | .pipeline => "proofmend::services::mode_pipeline"
  | .reportWriter => "proofmend::services::report_writer"
  | .scriptedOracle => "proofmend::infrastructure::oracle::scripted"
  | .httpOracle => "proofmend::infrastructure::oracle::anthropic"
  | .oracleSetup => "proofmend::infrastructure::oracle"
  | .verifier => "proofmend::infrastructure::verifier::make_runner"
  | .scaffold => "proofmend::infrastructure::verifier::scaffold"
  | .process => "proofmend::infrastructure::verifier::process"
  | .logger => "proofmend::infrastructure::logging::logger"

/-- The value of a field. -/
inductive FieldValue where
  /-- A text, quoted where fields are written in a line. -/
  | text (s : String)
  /-- A rendering, written as it is. -/
  | shown (s : String)
  | number (n : Nat)
  | flag (b : Bool)
  deriving DecidableEq, Repr

/-- One event. -/
structure LogEvent where
  level : LogLevel
  source : LogSource
  message : String
  fields : List (String × FieldValue)
  deriving DecidableEq, Repr

end HarnessRepair
