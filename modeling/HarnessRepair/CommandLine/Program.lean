import HarnessRepair.Batch.File
import HarnessRepair.Batch.Run
import HarnessRepair.CommandLine.Ending
import HarnessRepair.CommandLine.Invocation
import HarnessRepair.Log.File
import HarnessRepair.Oracle.Remote
import HarnessRepair.Scaffold.Generator
import HarnessRepair.Verifier.Make

/-!
# The program

From arguments to an ending: the arguments and the settings are read, the log is set
up, and the command is run.

## Main definitions

* `Surroundings` — whoever runs commands and carries messages, the variables, the clock.
* `runMode`, `runBatchFile`, `execute` — the commands.
* `runProgram`, `runLogged` — the program without a log and with one.
-/

namespace HarnessRepair.CommandLine

/-- What is around a run. -/
structure Surroundings (ε : Type) where
  environment : Environment
  processes : ProcessHost
  remote : RemoteHost ε
  /-- The time, if there is a clock. -/
  clock : Option Timestamp := none

variable {ε : Type}

/-- The time; without a clock, one that is always the same. -/
def Surroundings.now (s : Surroundings ε) : Timestamp := s.clock.getD .epoch

/-! ### Commands -/

/-- The oracle of a run, if it asks one. -/
def oracleFor (s : Surroundings ε) (settings : Settings) (needed : Bool) :
    Run ε (Except ProgramError (Option (Oracle ε))) := do
  if !needed then return .ok none
  match ← connectOracle s.remote s.environment settings.oracle with
  | .error e => return .error (.oracle e)
  | .ok oracle => return .ok (some oracle)

/-- The report on some sessions, written to the directory of the results. -/
def writeAggregate (settings : Settings) (report : AggregateReport) :
    Run ε (Except ProgramError WrittenReports) := do
  let dir := settings.session.resultsDir
  match ← writeReports report dir with
  | .error e => return .error (.reports dir e)
  | .ok written => return .ok written

/-- The outcome of running a mode. -/
def runOutcome (report : PipelineReport) (written : Option WrittenReports) : CommandReport :=
  let out : RunOutput := ⟨report, written.map (·.json), written.map (·.markdown)⟩
  ⟨report.isSuccess, out.text, out.toJson⟩

/-- The outcome of a batch. -/
def batchOutcome (report : AggregateReport) (written : WrittenReports) : CommandReport :=
  let out : BatchOutput := ⟨report, written⟩
  ⟨!report.hasBlocked, out.text, out.toJson⟩

/-- The parties that run a mode. -/
def pipelineOf (s : Surroundings ε) (settings : Settings) (oracle : Option (Oracle ε)) :
    Pipeline ε :=
  let verifier := makeVerifier s.processes settings.verifier
  { scaffolder := generator s.processes settings.scaffold settings.verifier.timeoutSeconds
    controller := oracle.map fun o => settings.controller verifier o
    settings := settings.batch }

/-- Runs a mode on a target.  The key of the oracle is looked up before anything
happens to the harness; reports are written if there was a session. -/
def runMode (s : Surroundings ε) (settings : Settings) (mode : PipelineMode)
    (target : HarnessTarget) : Run ε (Except ProgramError CommandReport) := do
  match ← oracleFor s settings mode.needsOracle with
  | .error e => return .error e
  | .ok oracle =>
    match ← runPipeline (pipelineOf s settings oracle) mode target with
    | .error e => return .error (.ofRun e)
    | .ok report =>
      if report.sessions.isEmpty then return .ok (runOutcome report none)
      match ← writeAggregate settings (.ofSessions s.now s.now report.sessions) with
      | .error e => return .error e
      | .ok written => return .ok (runOutcome report (some written))

/-- The jobs of a batch file. -/
def batchJobs (fs : FileSystem) (file : String) (only : List String) :
    Except ConfigurationError (List SessionJob) := do
  let entries ← loadBatch fs file
  return (← selectEntries entries only).map BatchEntry.job

/-- Runs some jobs and reports on them. -/
def runJobList (s : Surroundings ε) (settings : Settings) (oracle : Oracle ε) (mode : RepairMode)
    (jobs : List SessionJob) : Run ε (Except ProgramError CommandReport) := do
  let verifier := makeVerifier s.processes settings.verifier
  match ← runBatch (settings.controller verifier oracle mode) settings.batch s.now s.now jobs with
  | .error e => return .error (.ofRun e)
  | .ok report =>
    match ← writeAggregate settings report with
    | .error e => return .error e
    | .ok written => return .ok (batchOutcome report written)

/-- The settings in test mode if it is asked for. -/
def withTestMode (settings : Settings) (asked : Bool) : Settings :=
  { settings with
    session := { settings.session with testMode := asked || settings.session.testMode } }

/-- Repairs the harnesses of a batch file. -/
def runBatchFile (s : Surroundings ε) (settings : Settings) (file : String) (only : List String)
    (mode : RepairMode) : Run ε (Except ProgramError CommandReport) := do
  match batchJobs (← get).files file only with
  | .error e => return .error (.configuration e)
  | .ok jobs =>
    match ← connectOracle s.remote s.environment settings.oracle with
    | .error e => return .error (.oracle e)
    | .ok oracle => runJobList s settings oracle mode jobs

/-- Does what is asked for. -/
def execute (s : Surroundings ε) (settings : Settings) :
    Request → Run ε (Except ProgramError CommandReport)
  | .run mode target => runMode s settings mode target
  | .batch file only testMode mode =>
    runBatchFile s (withTestMode settings testMode) file only mode

/-! ### The program -/

/-- What is asked for and the settings for it, or the end of a program that cannot
start. -/
def start (env : Environment) (fs : FileSystem) (args : List String) :
    Except Ending (Invocation × Settings) :=
  match Invocation.ofArguments env args with
  | .error e => .error (failedEnding false (.arguments e))
  | .ok inv =>
    match loadSettings fs env inv.config with
    | .error e => .error (failedEnding inv.json (.settings e))
    | .ok settings => .ok (inv, settings)

/-- Runs the program without a log. -/
def runProgram (s : Surroundings ε) (args : List String) : Run ε Ending := do
  match start s.environment (← get).files args with
  | .error ending => return ending
  | .ok (inv, settings) => return endingOf inv.json (← execute s settings inv.request)

/-- The text that filters the log. -/
def filterText (env : Environment) : String := (env.get? "RUST_LOG").getD ""

/-- The log file, if there is to be one. -/
def openLogFile (s : Surroundings ε) (setup : LogSetup) :
    Run ε (Except IoError (Option String)) := do
  match setup.directory with
  | none => return .ok none
  | some dir => return (← openLog dir setup.rotation s.now).map some

/-- What is said of directives for the log that mean nothing, once for each place the
log goes to. -/
def filterComplaints (s : Surroundings ε) (setup : LogSetup) : List String :=
  let complaints := LogFilter.complaints (filterText s.environment)
  if setup.directory.isSome then complaints ++ complaints else complaints

/-- Writes the log of a run: to the file, and in front of its errors. -/
def writeLog (s : Surroundings ε) (setup : LogSetup) (file : Option String)
    (events : List LogEvent) (ending : Ending) : Run ε Ending := do
  let shown := events.filter (LogFilter.ofText setup.level (filterText s.environment)).admits
  if let some path := file then appendLog path s.clock shown
  let lines := filterComplaints s setup ++ shown.map (setup.format.line s.clock)
  return { ending with errors := terminatedLines lines ++ ending.errors }

/-- Does what is asked for, with a log. -/
def executeLogged (s : Surroundings ε) (setup : LogSetup) (settings : Settings)
    (inv : Invocation) : Run ε Ending := do
  match ← openLogFile s setup with
  | .error e => return failedEnding inv.json (.logFile e)
  | .ok file =>
    let before := (← get).events.length
    tell .debug .logger "logger initialized"
      [("level", .shown setup.level.name), ("format", .shown setup.format.name),
        ("file_output", .flag setup.directory.isSome)]
    let ending := endingOf inv.json (← execute s settings inv.request)
    writeLog s setup file ((← get).events.drop before) ending

/-- Runs the program. -/
def runLogged (s : Surroundings ε) (args : List String) : Run ε Ending := do
  match start s.environment (← get).files args with
  | .error ending => return ending
  | .ok (inv, settings) =>
    match LogSetup.ofSettings settings.logging with
    | .error e => return failedEnding inv.json (.log e)
    | .ok setup => executeLogged s setup settings inv

end HarnessRepair.CommandLine
