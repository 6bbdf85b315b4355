import HarnessRepair.Files.Claim
import HarnessRepair.Settings.Basic
import HarnessRepair.Summary.Aggregate

/-!
# Batches

Several harnesses, one session each.  A session that is blocked is told in the
report and does not keep the others from running.

## Main definitions

* `SessionJob`, `BatchSettings` — what is run, and how.
* `runJob` — one session, from taking over the harness to giving it up.
* `runBatch` — all of them.
* `Settings.controller`, `Settings.batch` — how the settings of a run govern its sessions.
-/

namespace HarnessRepair

/-- One harness to repair. -/
structure SessionJob where
  target : HarnessTarget
  /-- Lines to strip before the session starts. -/
  linesToRemove : List Nat := []
  deriving DecidableEq, Repr

/-- How sessions are run. -/
structure BatchSettings where
  /-- How many sessions may run side by side. -/
  workers : Nat
  /-- Whether every harness gets its text back. -/
  testMode : Bool
  /-- Where copies of repaired harnesses go in test mode. -/
  resultsDir : String
  deriving DecidableEq, Repr

variable {ε : Type}

/-- The field that names a harness. -/
def nameField (target : HarnessTarget) : String × FieldValue := ("harness", .shown target.name)

/-- What happens to a harness file after its session. -/
def BatchSettings.policy (b : BatchSettings) : RestorePolicy :=
  if b.testMode then .restoreText else .keepChanges

/-- Where the copy of a repaired harness goes. -/
def BatchSettings.copyPath (b : BatchSettings) (target : HarnessTarget) : String :=
  Path.join (Path.join b.resultsDir target.name)
    ((Path.fileName? target.harnessFile).getD "harness.c")

/-- Writes a text to a file, and makes its directory first. -/
def preserve (path text : String) : Run ε (Except IoError Unit) := do
  match Path.parent? path with
  | none => writeText path text
  | some dir =>
    match ← onFiles fun fs => fs.createDirAll dir with
    | .error e => return .error e
    | .ok () => writeText path text

/-- Keeps a copy of the repaired harness, and gives the harness its text back. -/
def finishTest (b : BatchSettings) (s : Session) (outcome : SessionOutcome) :
    Run ε Session := do
  if let .error e ← preserve (b.copyPath s.target) s.store.source then
    tell .warn .batch "Failed to save final harness"
      [nameField s.target, ("error", .shown e.message)]
  let (result, store) ← s.store.restorePristine
  if let .error e := result then
    tell .error .batch "Failed to restore harness"
      [nameField s.target, ("error", .shown e.message)]
  tell .debug .batch "Harness restored"
    [nameField s.target, ("status", .text outcome.status.name)]
  return { s with store := store }

/-- Strips the lines of a job. -/
def stripFor (job : SessionJob) (store : PatchStore) :
    Run ε (Except PatchError (List String) × PatchStore) := do
  if job.linesToRemove.isEmpty then return (.ok [], store)
  let (result, store) ← store.stripLines job.linesToRemove
  match result with
  | .ok removed =>
    tell .info .batch "Stripped preconditions"
      [nameField job.target, ("removed", .shown (Text.quoteList removed))]
  | .error e =>
    tell .error .batch "Cannot strip preconditions"
      [nameField job.target, ("error", .shown e.message)]
  return (result, store)

/-- The session of a harness whose store is at hand. -/
def runSession (c : Controller ε) (b : BatchSettings) (s : Session) :
    Run ε (Except Overflow SessionReport) := do
  match ← s.run c with
  | (.error o, s) =>
    s.store.close
    return .error o
  | (.ok outcome, s) =>
    let report := s.report c.mode outcome
    let s ← if b.testMode then finishTest b s outcome else pure s
    s.store.close
    return .ok report

/-- One session.  A harness that cannot be set up is reported as blocked. -/
def runJob (c : Controller ε) (b : BatchSettings) (job : SessionJob) :
    Run ε (Except Overflow SessionReport) := do
  let target := job.target
  match ← PatchStore.openFile target.harnessFile b.policy with
  | .error e =>
    tell .error .batch "Cannot open harness" [nameField target, ("error", .shown e.message)]
    return .ok (.setupBlocked target.name target.harnessFile c.mode e.message)
  | .ok store =>
    match ← stripFor job store with
    | (.error e, store) =>
      store.close
      return .ok (.setupBlocked target.name target.harnessFile c.mode e.message)
    | (.ok removed, store) =>
      runSession c b { target := target, store := store, removed := removed }

/-- One session after the other, up to the first that stops the program. -/
def runJobs (c : Controller ε) (b : BatchSettings) :
    List SessionJob → Run ε (Except Overflow (List SessionReport))
  | [] => return .ok []
  | job :: jobs => do
    match ← runJob c b job with
    | .error o => return .error o
    | .ok report => return (← runJobs c b jobs).map (report :: ·)

/-- Claims the harness files of some jobs, each for one job alone. -/
def claimAll (fs : FileSystem) : List FileKey → List SessionJob → Except ConfigurationError Unit
  | _, [] => .ok ()
  | claimed, job :: jobs =>
    match claim fs claimed job.target.harnessFile with
    | .error e => .error e
    | .ok claimed => claimAll fs claimed jobs

/-- Runs every job and reports in the order of the jobs.  Two jobs on one harness
are refused before anything runs. -/
def runBatch (c : Controller ε) (b : BatchSettings) (startedAt finishedAt : Timestamp)
    (jobs : List SessionJob) : Run ε (Except RunFailure AggregateReport) := do
  if let .error e := claimAll (← get).files [] jobs then return .error (.configuration e)
  tell .info .batch "Starting batch"
    [("sessions", .number jobs.length), ("workers", .number b.workers),
      ("mode", .text c.mode.name), ("test_mode", .flag b.testMode)]
  match ← runJobs c b jobs with
  | .error o => return .error (.overflow o)
  | .ok sessions =>
    let report := AggregateReport.ofSessions startedAt finishedAt sessions
    tell .info .batch "Batch finished"
      [("clean", .number report.totals.clean), ("partial", .number report.totals.partialEnd),
        ("blocked", .number report.totals.blocked)]
    return .ok report

/-! ### By the settings -/

/-- The controller that the settings ask for. -/
def Settings.controller (s : Settings) (verifier : Verifier ε) (oracle : Oracle ε)
    (mode : RepairMode) : Controller ε :=
  { verifier := verifier
    oracle := oracle
    mode := mode
    budget := .whole s.budget.maxAttempts
    oracleTimeout := s.oracle.timeoutSeconds }

/-- How the settings let sessions run. -/
def Settings.batch (s : Settings) : BatchSettings :=
  ⟨max s.session.workers 1, s.session.testMode, s.session.resultsDir⟩

end HarnessRepair
