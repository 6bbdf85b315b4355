import HarnessRepair.Session.Run

/-!
# Session reports

What is told about a session once it is over.

## Main definitions

* `FindingSummary`, `SessionReport` — the report.
* `Session.report` — the report of a session.
* `SessionReport.setupBlocked` — the report of a session that never started.
* `SessionReport.toJson`, `SessionReport.ofJson?` — its written form.

## Main results

* `Session.length_findings_report` — a report tells of every finding of the ledger.
-/

namespace HarnessRepair

open Json

/-- How one finding ended. -/
structure FindingSummary where
  id : FindingId
  kind : FindingKind
  location : Location
  message : String
  state : FindingState
  attemptsSpent : Attempts
  verifierRuns : UInt32
  resolvedBy : Option FindingId
  keptStatements : List String
  history : List AttemptEntry
  usage : TokenUsage
  deriving DecidableEq, Repr

/-- How one session ended. -/
structure SessionReport where
  harness : String
  harnessFile : String
  mode : String
  status : SessionStatus
  blockedReason : Option String
  findings : List FindingSummary
  /-- Statements stripped before the session started. -/
  preconditionsRemoved : List String
  /-- Statements in the harness when the session ended. -/
  preconditionsAdded : List String
  verifierRuns : UInt32
  attemptsSpent : Attempts
  usage : TokenUsage
  elapsedSeconds : Binary64
  deriving DecidableEq, Repr

/-! ### Making reports -/

/-- The summary of an entry. -/
def LedgerEntry.summary (e : LedgerEntry) : FindingSummary :=
  { id := e.record.findingId
    kind := e.finding.kind
    location := e.finding.location
    message := e.finding.message
    state := e.record.state
    attemptsSpent := e.record.attemptsSpent
    verifierRuns := e.record.verifierRuns
    resolvedBy := e.record.resolvedBy
    keptStatements := e.record.keptStatements
    history := e.record.history
    usage := e.record.usage }

/-- The report of a session. -/
def Session.report (s : Session) (mode : RepairMode) (outcome : SessionOutcome) :
    SessionReport :=
  { harness := s.target.name
    harnessFile := s.target.harnessFile
    mode := mode.name
    status := outcome.status
    blockedReason := outcome.reason
    findings := s.ledger.map LedgerEntry.summary
    preconditionsRemoved := s.removed
    preconditionsAdded := s.store.appliedStatements
    verifierRuns := s.verifierRuns
    attemptsSpent := Attempts.sum (s.ledger.map (·.record.attemptsSpent))
    usage := s.usage
    elapsedSeconds := .zero }

@[simp] theorem Session.length_findings_report (s : Session) (mode : RepairMode)
    (outcome : SessionOutcome) :
    (s.report mode outcome).findings.length = s.ledger.length := by
  simp [Session.report]

namespace SessionReport

/-- The report of a session that never got past setup. -/
def setupBlocked (harness harnessFile : String) (mode : RepairMode) (reason : String) :
    SessionReport :=
  { harness := harness
    harnessFile := harnessFile
    mode := mode.name
    status := .blocked
    blockedReason := some reason
    findings := []
    preconditionsRemoved := []
    preconditionsAdded := []
    verifierRuns := 0
    attemptsSpent := .zero
    usage := {}
    elapsedSeconds := .zero }

/-- How many findings ended in a state. -/
def count (r : SessionReport) (state : FindingState) : Nat :=
  (r.findings.filter fun f => f.state = state).length

end SessionReport

/-! ### Written form -/

namespace FindingSummary

/-- The summary as a JSON value. -/
def toJson (f : FindingSummary) : Value :=
  .ofObject [("id", .ofText f.id.text), ("kind", .ofText f.kind.name),
    ("location", f.location.toJson), ("message", .ofText f.message),
    ("state", .ofText f.state.name), ("attempts_spent", f.attemptsSpent.toJson),
    ("verifier_runs", .ofNat f.verifierRuns.toNat),
    ("resolved_by", .ofOption (fun id => .ofText id.text) f.resolvedBy),
    ("kept_statements", .ofTexts f.keptStatements),
    ("history", .array (f.history.map AttemptEntry.toJson)), ("tokens", f.usage.toJson)]

/-- The identity that a JSON value writes. -/
def idOfJson? (v : Value) : Option FindingId := (v.text?.bind Uuid.parse?).map FindingId.mk

/-- The summary that a JSON value describes. -/
def ofJson? (v : Value) : Option FindingSummary := do
  let r ← v.record? ["id", "kind", "location", "message", "state", "attempts_spent",
    "verifier_runs", "resolved_by", "kept_statements", "history", "tokens"]
  return {
    id := ← r.required "id" idOfJson?
    kind := ← r.required "kind" fun v => v.variant?.bind FindingKind.ofName?
    location := ← r.required "location" Location.ofJson?
    message := ← r.required "message" Value.text?
    state := ← r.required "state" fun v => v.variant?.bind FindingState.ofName?
    attemptsSpent := ← r.required "attempts_spent" Attempts.ofJson?
    verifierRuns := .ofNat (← r.required "verifier_runs" Value.halfWord?)
    resolvedBy := ← r.optional "resolved_by" idOfJson?
    keptStatements := ← r.required "kept_statements" (Value.list? Value.text?)
    history := ← r.required "history" (Value.list? AttemptEntry.ofJson?)
    usage := ← r.required "tokens" TokenUsage.ofJson? }

end FindingSummary

namespace SessionReport

/-- A number of seconds as a JSON value. -/
def secondsJson (x : Binary64) : Value :=
  let (digits, exponent) := x.shortest
  .number ⟨x.negative, digits, exponent, false⟩

/-- The report as a JSON value. -/
def toJson (r : SessionReport) : Value :=
  .ofObject [("harness", .ofText r.harness), ("harness_file", .ofText r.harnessFile),
    ("mode", .ofText r.mode), ("status", .ofText r.status.name),
    ("blocked_reason", .ofOption .ofText r.blockedReason),
    ("findings", .array (r.findings.map FindingSummary.toJson)),
    ("preconditions_removed", .ofTexts r.preconditionsRemoved),
    ("preconditions_added", .ofTexts r.preconditionsAdded),
    ("verifier_runs", .ofNat r.verifierRuns.toNat),
    ("attempts_spent", r.attemptsSpent.toJson), ("tokens", r.usage.toJson),
    ("elapsed_secs", secondsJson r.elapsedSeconds)]

/-- The report that a JSON value describes. -/
def ofJson? (v : Value) : Option SessionReport := do
  let r ← v.record? ["harness", "harness_file", "mode", "status", "blocked_reason", "findings",
    "preconditions_removed", "preconditions_added", "verifier_runs", "attempts_spent", "tokens",
    "elapsed_secs"]
  return {
    harness := ← r.required "harness" Value.text?
    harnessFile := ← r.required "harness_file" Value.text?
    mode := ← r.required "mode" Value.text?
    status := ← r.required "status" fun v => v.variant?.bind SessionStatus.ofName?
    blockedReason := ← r.optional "blocked_reason" Value.text?
    findings := ← r.required "findings" (Value.list? FindingSummary.ofJson?)
    preconditionsRemoved := ← r.required "preconditions_removed" (Value.list? Value.text?)
    preconditionsAdded := ← r.required "preconditions_added" (Value.list? Value.text?)
    verifierRuns := .ofNat (← r.required "verifier_runs" Value.halfWord?)
    attemptsSpent := ← r.required "attempts_spent" Attempts.ofJson?
    usage := ← r.required "tokens" TokenUsage.ofJson?
    elapsedSeconds := ← r.required "elapsed_secs" Value.binary64? }

end SessionReport

end HarnessRepair
