import HarnessRepair.Pipeline.Run
import HarnessRepair.Text.Table

/-!
# Overviews

Tables of sessions, findings and steps for the terminal.

## Main definitions

* `sessionsOverview`, `findingsOverview`, `stepsOverview` — the tables.
-/

namespace HarnessRepair

open Text

/-- How much of a message a table shows. -/
def messageWidth : Nat := 48

/-- How much of the detail of a step a table shows. -/
def detailWidth : Nat := 60

/-- One row for each session. -/
def sessionsOverview (sessions : List SessionReport) : String :=
  renderTable .boxed
    ["Harness", "Mode", "Status", "Findings", "Resolved", "Exhausted", "Blocked", "Attempts",
      "Runs"]
    (sessions.map fun s =>
      [s.harness, s.mode, s.status.name, toString s.findings.length, toString (s.count .resolved),
        toString (s.count .exhausted), toString (s.count .blocked), s.attemptsSpent.text,
        toString s.verifierRuns.toNat])

/-- One row for each finding. -/
def findingsOverview (findings : List FindingSummary) : String :=
  renderTable .boxed ["ID", "Location", "Message", "State", "Attempts", "Runs"]
    (findings.map fun f =>
      [f.id.short, f.location.text, truncate f.message messageWidth, f.state.name,
        f.attemptsSpent.text, toString f.verifierRuns.toNat])

/-- One row for each step. -/
def stepsOverview (steps : List StepReport) : String :=
  renderTable .boxed ["Step", "Status", "Detail"]
    (steps.map fun s =>
      [s.step, s.status.name, (s.detail.map fun d => truncate d detailWidth).getD "-"])

end HarnessRepair
