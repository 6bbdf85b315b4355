import HarnessRepair.Json.Record

/-!
# Settings

What a user may set, section by section, each field with a default.

## Main definitions

* `VerifierSettings`, `OracleSettings`, `BudgetSettings`, `SessionSettings`,
  `ScaffoldSettings`, `LogSettings` — the sections.
* `Settings` — all of them.
* `Settings.toJson`, `Settings.ofJson?` — the written form; a field that is absent
  has its default.
-/

namespace HarnessRepair

open Json

/-! ### Sections -/

/-- How harnesses are built and checked. -/
structure VerifierSettings where
  command : String := "make"
  args : List String := ["-j4"]
  timeoutSeconds : Nat := 600
  /-- Where the documents of a run are, as seen from the directory of the harness. -/
  reportDir : String := "build/report/json"
  deriving DecidableEq, Repr

/-- How the oracle is asked. -/
structure OracleSettings where
  baseUrl : String := "https://api.anthropic.com"
  model : String := "claude-sonnet-4-5"
  apiVersion : String := "2023-06-01"
  maxTokens : Nat := 4096
  timeoutSeconds : Nat := 300
  /-- The environment variable that holds the key. -/
  apiKeyVariable : String := "ANTHROPIC_API_KEY"
  requestsPerMinute : Nat := 50
  maxRetries : Nat := 3
  initialBackoffMillis : Nat := 2000
  maxBackoffMillis : Nat := 60000
  deriving DecidableEq, Repr

/-- What may be spent on a finding. -/
structure BudgetSettings where
  maxAttempts : Nat := 3
  deriving DecidableEq, Repr

/-- How sessions are run. -/
structure SessionSettings where
  workers : Nat := 4
  testMode : Bool := false
  resultsDir : String := "results"
  deriving DecidableEq, Repr

/-- The commands that make harnesses and stubs; an empty command only checks. -/
structure ScaffoldSettings where
  harnessCommand : List String := []
  stubsCommand : List String := []
  deriving DecidableEq, Repr

/-- What is logged, and where. -/
structure LogSettings where
  level : String := "info"
  format : String := "pretty"
  logDir : Option String := none
  rotation : String := "daily"
  deriving DecidableEq, Repr

/-- All settings. -/
structure Settings where
  verifier : VerifierSettings := {}
  oracle : OracleSettings := {}
  budget : BudgetSettings := {}
  session : SessionSettings := {}
  scaffold : ScaffoldSettings := {}
  logging : LogSettings := {}
  deriving DecidableEq, Repr

/-! ### Written form -/

namespace VerifierSettings

/-- The section as a JSON value. -/
def toJson (s : VerifierSettings) : Value :=
  .ofObject [("command", .ofText s.command), ("args", .ofTexts s.args),
    ("timeout_secs", .ofNat s.timeoutSeconds), ("report_dir", .ofText s.reportDir)]

/-- The section that a JSON value describes. -/
def ofJson? (v : Value) : Option VerifierSettings := do
  let r ← v.record? ["command", "args", "timeout_secs", "report_dir"]
  let d : VerifierSettings := {}
  return {
    command := ← r.orDefault "command" d.command Value.text?
    args := ← r.orDefault "args" d.args (Value.list? Value.text?)
    timeoutSeconds := ← r.orDefault "timeout_secs" d.timeoutSeconds Value.word?
    reportDir := ← r.orDefault "report_dir" d.reportDir Value.text? }

end VerifierSettings

namespace OracleSettings

/-- The section as a JSON value. -/
def toJson (s : OracleSettings) : Value :=
  .ofObject [("base_url", .ofText s.baseUrl), ("model", .ofText s.model),
    ("api_version", .ofText s.apiVersion), ("max_tokens", .ofNat s.maxTokens),
    ("timeout_secs", .ofNat s.timeoutSeconds), ("api_key_env", .ofText s.apiKeyVariable),
    ("requests_per_minute", .ofNat s.requestsPerMinute), ("max_retries", .ofNat s.maxRetries),
    ("initial_backoff_ms", .ofNat s.initialBackoffMillis),
    ("max_backoff_ms", .ofNat s.maxBackoffMillis)]

/-- The section that a JSON value describes. -/
def ofJson? (v : Value) : Option OracleSettings := do
  let r ← v.record? ["base_url", "model", "api_version", "max_tokens", "timeout_secs",
    "api_key_env", "requests_per_minute", "max_retries", "initial_backoff_ms", "max_backoff_ms"]
  let d : OracleSettings := {}
  return {
    baseUrl := ← r.orDefault "base_url" d.baseUrl Value.text?
    model := ← r.orDefault "model" d.model Value.text?
    apiVersion := ← r.orDefault "api_version" d.apiVersion Value.text?
    maxTokens := ← r.orDefault "max_tokens" d.maxTokens Value.halfWord?
    timeoutSeconds := ← r.orDefault "timeout_secs" d.timeoutSeconds Value.word?
    apiKeyVariable := ← r.orDefault "api_key_env" d.apiKeyVariable Value.text?
    requestsPerMinute := ← r.orDefault "requests_per_minute" d.requestsPerMinute Value.halfWord?
    maxRetries := ← r.orDefault "max_retries" d.maxRetries Value.halfWord?
    initialBackoffMillis :=
      ← r.orDefault "initial_backoff_ms" d.initialBackoffMillis Value.word?
    maxBackoffMillis := ← r.orDefault "max_backoff_ms" d.maxBackoffMillis Value.word? }

end OracleSettings

namespace BudgetSettings

/-- The section as a JSON value. -/
def toJson (s : BudgetSettings) : Value := .ofObject [("max_attempts", .ofNat s.maxAttempts)]

/-- The section that a JSON value describes. -/
def ofJson? (v : Value) : Option BudgetSettings := do
  let r ← v.record? ["max_attempts"]
  let d : BudgetSettings := {}
  return { maxAttempts := ← r.orDefault "max_attempts" d.maxAttempts Value.halfWord? }

end BudgetSettings

namespace SessionSettings

/-- The section as a JSON value. -/
def toJson (s : SessionSettings) : Value :=
  .ofObject [("workers", .ofNat s.workers), ("test_mode", .bool s.testMode),
    ("results_dir", .ofText s.resultsDir)]

/-- The section that a JSON value describes. -/
def ofJson? (v : Value) : Option SessionSettings := do
  let r ← v.record? ["workers", "test_mode", "results_dir"]
  let d : SessionSettings := {}
  return {
    workers := ← r.orDefault "workers" d.workers Value.word?
    testMode := ← r.orDefault "test_mode" d.testMode Value.bool?
    resultsDir := ← r.orDefault "results_dir" d.resultsDir Value.text? }

end SessionSettings

namespace ScaffoldSettings

/-- The section as a JSON value. -/
def toJson (s : ScaffoldSettings) : Value :=
  .ofObject [("harness_command", .ofTexts s.harnessCommand),
    ("stubs_command", .ofTexts s.stubsCommand)]

/-- The section that a JSON value describes. -/
def ofJson? (v : Value) : Option ScaffoldSettings := do
  let r ← v.record? ["harness_command", "stubs_command"]
  let d : ScaffoldSettings := {}
  return {
    harnessCommand := ← r.orDefault "harness_command" d.harnessCommand (Value.list? Value.text?)
    stubsCommand := ← r.orDefault "stubs_command" d.stubsCommand (Value.list? Value.text?) }

end ScaffoldSettings

namespace LogSettings

/-- The section as a JSON value. -/
def toJson (s : LogSettings) : Value :=
  .ofObject [("level", .ofText s.level), ("format", .ofText s.format),
    ("log_dir", .ofOption .ofText s.logDir), ("rotation", .ofText s.rotation)]

/-- The section that a JSON value describes. -/
def ofJson? (v : Value) : Option LogSettings := do
  let r ← v.record? ["level", "format", "log_dir", "rotation"]
  let d : LogSettings := {}
  return {
    level := ← r.orDefault "level" d.level Value.text?
    format := ← r.orDefault "format" d.format Value.text?
    logDir := ← r.optionalOrAbsent "log_dir" Value.text?
    rotation := ← r.orDefault "rotation" d.rotation Value.text? }

end LogSettings

namespace Settings

/-- The settings as a JSON value. -/
def toJson (s : Settings) : Value :=
  .ofObject [("verifier", s.verifier.toJson), ("oracle", s.oracle.toJson),
    ("budget", s.budget.toJson), ("session", s.session.toJson),
    ("scaffold", s.scaffold.toJson), ("logging", s.logging.toJson)]

/-- The settings that a JSON value describes. -/
def ofJson? (v : Value) : Option Settings := do
  let r ← v.record? ["verifier", "oracle", "budget", "session", "scaffold", "logging"]
  return {
    verifier := ← r.orDefault "verifier" {} VerifierSettings.ofJson?
    oracle := ← r.orDefault "oracle" {} OracleSettings.ofJson?
    budget := ← r.orDefault "budget" {} BudgetSettings.ofJson?
    session := ← r.orDefault "session" {} SessionSettings.ofJson?
    scaffold := ← r.orDefault "scaffold" {} ScaffoldSettings.ofJson?
    logging := ← r.orDefault "logging" {} LogSettings.ofJson? }

end Settings

end HarnessRepair
