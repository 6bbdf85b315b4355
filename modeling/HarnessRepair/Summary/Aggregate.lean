import HarnessRepair.Summary.Session
import HarnessRepair.Summary.Timestamp

/-!
# Aggregate reports

The sessions of a run with their totals.

## Main definitions

* `BatchTotals`, `BatchTotals.ofSessions` — the totals.
* `AggregateReport` — sessions, totals, and when the run started and ended.
* `AggregateReport.hasBlocked` — whether anything ended blocked.
-/

namespace HarnessRepair

open Json

/-- Totals over sessions. -/
structure BatchTotals where
  sessions : Nat := 0
  clean : Nat := 0
  partialEnd : Nat := 0
  blocked : Nat := 0
  findings : Nat := 0
  resolved : Nat := 0
  exhausted : Nat := 0
  blockedFindings : Nat := 0
  attemptsSpent : Attempts := .zero
  verifierRuns : UInt32 := 0
  usage : TokenUsage := {}
  deriving DecidableEq, Repr

namespace BatchTotals

/-- One more session. -/
def add (t : BatchTotals) (r : SessionReport) : BatchTotals :=
  { sessions := t.sessions + 1
    clean := t.clean + (if r.status = .clean then 1 else 0)
    partialEnd := t.partialEnd + (if r.status = .partialEnd then 1 else 0)
    blocked := t.blocked + (if r.status = .blocked then 1 else 0)
    findings := t.findings + r.findings.length
    resolved := t.resolved + r.count .resolved
    exhausted := t.exhausted + r.count .exhausted
    blockedFindings := t.blockedFindings + r.count .blocked
    attemptsSpent := t.attemptsSpent + r.attemptsSpent
    verifierRuns := t.verifierRuns + r.verifierRuns
    usage := t.usage + r.usage }

/-- The totals of some sessions. -/
def ofSessions (sessions : List SessionReport) : BatchTotals := sessions.foldl add {}

/-- The totals as a JSON value. -/
def toJson (t : BatchTotals) : Value :=
  .ofObject [("sessions", .ofNat t.sessions), ("clean", .ofNat t.clean),
    ("partial", .ofNat t.partialEnd), ("blocked", .ofNat t.blocked),
    ("findings", .ofNat t.findings), ("resolved", .ofNat t.resolved),
    ("exhausted", .ofNat t.exhausted), ("blocked_findings", .ofNat t.blockedFindings),
    ("attempts_spent", t.attemptsSpent.toJson), ("verifier_runs", .ofNat t.verifierRuns.toNat),
    ("tokens", t.usage.toJson)]

end BatchTotals

/-- The sessions of a run. -/
structure AggregateReport where
  startedAt : Timestamp
  finishedAt : Timestamp
  totals : BatchTotals
  sessions : List SessionReport
  deriving DecidableEq, Repr

namespace AggregateReport

/-- The report over some sessions. -/
def ofSessions (startedAt finishedAt : Timestamp) (sessions : List SessionReport) :
    AggregateReport :=
  ⟨startedAt, finishedAt, .ofSessions sessions, sessions⟩

/-- Whether a session, or a finding of a finished session, ended blocked. -/
def hasBlocked (r : AggregateReport) : Bool :=
  0 < r.totals.blocked || 0 < r.totals.blockedFindings

/-- The members of the report as JSON values. -/
def members (r : AggregateReport) : List (String × Value) :=
  [("started_at", .ofText r.startedAt.shortText), ("finished_at", .ofText r.finishedAt.shortText),
    ("totals", r.totals.toJson), ("sessions", .array (r.sessions.map SessionReport.toJson))]

/-- The report as a JSON value. -/
def toJson (r : AggregateReport) : Value := .ofObject r.members

end AggregateReport

end HarnessRepair
