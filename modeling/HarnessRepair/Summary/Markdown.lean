import HarnessRepair.Json.Printer
import HarnessRepair.Summary.Aggregate
import HarnessRepair.Text.Table

/-!
# Reports as documents

The aggregate report as a document with tables, and the two files a run leaves
behind.

## Main definitions

* `renderMarkdown` — the document.
* `WrittenReports`, `writeReports` — the files.
-/

namespace HarnessRepair

open Text

/-- A table of the document. -/
def markdownTable (header : List String) (rows : List (List String)) : String :=
  renderTable .markdown header rows

/-- The totals as a table. -/
def totalsTable (t : BatchTotals) : String :=
  markdownTable
    ["Sessions", "Clean", "Partial", "Blocked", "Findings", "Resolved", "Exhausted",
      "Blocked findings", "Attempts", "Verifier runs", "Input tokens", "Output tokens"]
    [[toString t.sessions, toString t.clean, toString t.partialEnd, toString t.blocked,
      toString t.findings, toString t.resolved, toString t.exhausted,
      toString t.blockedFindings, t.attemptsSpent.text, toString t.verifierRuns.toNat,
      toString t.usage.input.toNat, toString t.usage.output.toNat]]

/-- The state of a finding, and whose patch resolved it. -/
def stateText (f : FindingSummary) : String :=
  match f.state, f.resolvedBy with
  | .resolved, some id => "resolved (by " ++ id.short ++ ")"
  | state, _ => state.name

/-- The row of a finding. -/
def findingRow (f : FindingSummary) : List String :=
  [f.id.short, f.location.text, replaceChar '|' "\\|" f.message, stateText f,
    f.attemptsSpent.text, toString f.verifierRuns.toNat,
    ", ".intercalate (f.history.filterMap fun e => e.cause.map FailureCause.label)]

/-- A list of statements under a heading; nothing if there are none. -/
def statementList (heading : String) : List String → String
  | [] => ""
  | statements =>
    heading ++ "\n\n" ++ String.join (statements.map fun s => "- `" ++ s ++ "`\n") ++ "\n"

/-- The findings of a session as a table; nothing if there are none. -/
def findingsTable : List FindingSummary → String
  | [] => ""
  | findings =>
    markdownTable ["Finding", "Location", "Message", "State", "Attempts", "Runs", "Causes"]
      (findings.map findingRow) ++ "\n\n"

/-- The part of the document about a session. -/
def sessionSection (r : SessionReport) : String :=
  "## " ++ r.harness ++ " (" ++ r.mode ++ ")\n\n" ++
  "Status: **" ++ r.status.name ++ "**, " ++ toString r.verifierRuns.toNat ++
    " verifier run(s), " ++ r.attemptsSpent.text ++ " attempt(s), " ++
    r.elapsedSeconds.fixed 1 ++ "s.\n\n" ++
  (match r.blockedReason with
    | some reason => "Blocked: " ++ reason ++ "\n\n"
    | none => "") ++
  statementList "Stripped before the run:" r.preconditionsRemoved ++
  statementList "Preconditions kept:" r.preconditionsAdded ++
  findingsTable r.findings

/-- The report as a document. -/
def renderMarkdown (r : AggregateReport) : String :=
  "# Harness repair report\n\n" ++
  "Started " ++ r.startedAt.text ++ " and finished " ++ r.finishedAt.text ++ ".\n\n" ++
  totalsTable r.totals ++ "\n\n" ++
  String.join (r.sessions.map sessionSection)

/-! ### Files -/

/-- Where the reports of a run are. -/
structure WrittenReports where
  json : String
  markdown : String
  deriving DecidableEq, Repr

variable {ε : Type}

/-- Writes the report into a directory, as JSON and as a document. -/
def writeReports (r : AggregateReport) (dir : String) :
    Run ε (Except IoError WrittenReports) := do
  let written : WrittenReports := ⟨Path.join dir "report.json", Path.join dir "report.md"⟩
  if let .error e ← onFiles fun fs => fs.createDirAll dir then return .error e
  if let .error e ← writeText written.json r.toJson.renderPretty then return .error e
  if let .error e ← writeText written.markdown (renderMarkdown r) then return .error e
  tell .info .reportWriter "Wrote reports"
    [("json", .shown written.json), ("markdown", .shown written.markdown)]
  return .ok written

end HarnessRepair
