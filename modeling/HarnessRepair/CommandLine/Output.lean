import HarnessRepair.Summary.Markdown
import HarnessRepair.Summary.Overview

/-!
# What a command prints

The outcome of a command, for people and as JSON.

## Main definitions

* `BatchOutput`, `RunOutput` — the outcomes.
* `BatchOutput.text`, `RunOutput.text` — for people.
* `BatchOutput.toJson`, `RunOutput.toJson` — as JSON.
-/

namespace HarnessRepair

open Json

/-- The outcome of a batch. -/
structure BatchOutput where
  report : AggregateReport
  written : WrittenReports
  deriving DecidableEq, Repr

namespace BatchOutput

/-- How many sessions and findings ended how. -/
def countsLine (t : BatchTotals) : String :=
  toString t.sessions ++ " session(s): " ++ toString t.clean ++ " clean, " ++
    toString t.partialEnd ++ " partial, " ++ toString t.blocked ++ " blocked. " ++
    toString t.findings ++ " finding(s): " ++ toString t.resolved ++ " resolved, " ++
    toString t.exhausted ++ " exhausted, " ++ toString t.blockedFindings ++ " blocked."

/-- What it has taken. -/
def costLine (t : BatchTotals) : String :=
  t.attemptsSpent.text ++ " attempt(s), " ++ toString t.verifierRuns.toNat ++
    " verifier run(s), " ++ toString t.usage.input.toNat ++ " input / " ++
    toString t.usage.output.toNat ++ " output tokens."

/-- Why a session was blocked, if it was. -/
def blockedLine? (s : SessionReport) : Option String :=
  s.blockedReason.map fun reason => s.harness ++ " blocked: " ++ reason

/-- The outcome for people. -/
def text (o : BatchOutput) : String :=
  "\n".intercalate
    ([sessionsOverview o.report.sessions, countsLine o.report.totals,
        costLine o.report.totals] ++
      o.report.sessions.filterMap blockedLine? ++
      ["Report written to " ++ o.written.markdown])

/-- The outcome as a JSON value. -/
def toJson (o : BatchOutput) : Value :=
  .ofObject (o.report.members ++
    [("report_json", .ofText o.written.json), ("report_markdown", .ofText o.written.markdown)])

end BatchOutput

/-- The outcome of running a mode. -/
structure RunOutput where
  report : PipelineReport
  /-- Where the reports are, if there was a session. -/
  reportJson : Option String
  reportMarkdown : Option String
  deriving DecidableEq, Repr

namespace RunOutput

/-- The findings of a session under a heading; nothing if there are none. -/
def findingsLines (s : SessionReport) : List String :=
  if s.findings.isEmpty then []
  else ["\n" ++ s.mode ++ " findings:", findingsOverview s.findings]

/-- The outcome for people. -/
def text (o : RunOutput) : String :=
  let pointer :=
    match o.reportMarkdown with
    | some path => ["\nReport written to " ++ path]
    | none => []
  "\n".intercalate
    (["Mode " ++ o.report.mode.name ++ " for " ++ o.report.targetFunction ++ ":",
        stepsOverview o.report.steps] ++
      o.report.sessions.flatMap findingsLines ++ pointer)

/-- The outcome as a JSON value. -/
def toJson (o : RunOutput) : Value :=
  .ofObject (o.report.members ++
    [("report_json", .ofOption .ofText o.reportJson),
      ("report_markdown", .ofOption .ofText o.reportMarkdown)])

end RunOutput

end HarnessRepair
