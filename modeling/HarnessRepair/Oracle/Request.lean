import HarnessRepair.Budget.Record
import HarnessRepair.Failure
import HarnessRepair.World

/-!
# Requests to the oracle

Everything the oracle is told about one attempt, and the oracle itself.

## Main definitions

* `RepairRequest` — the request.
* `Oracle` — whoever answers.
-/

namespace HarnessRepair

open Json

/-- What the oracle is told. -/
structure RepairRequest where
  finding : Finding
  /-- The harness under line numbers. -/
  sourceContext : String
  /-- The surroundings of a finding outside the harness. -/
  locationContext : Option String
  trace : List TraceEntry
  /-- Questions that guide the analysis. -/
  advice : List String
  /-- Why the attempt before failed. -/
  previousFailure : Option FailureCause
  /-- What the attempt before tried. -/
  previousStatements : List String
  targetFunction : String
  harnessFile : String
  attempt : Nat
  deriving DecidableEq, Repr

/-- The request as a JSON value. -/
def RepairRequest.toJson (r : RepairRequest) : Value :=
  .ofObject [("finding", r.finding.toJson), ("source_context", .ofText r.sourceContext),
    ("location_context", .ofOption .ofText r.locationContext),
    ("trace", Finding.traceJson r.trace), ("advice", .ofTexts r.advice),
    ("previous_failure", .ofOption FailureCause.toJson r.previousFailure),
    ("previous_statements", .ofTexts r.previousStatements),
    ("target_function", .ofText r.targetFunction), ("harness_file", .ofText r.harnessFile),
    ("attempt", .ofNat r.attempt)]

/-- Whoever proposes preconditions.  No answer at all stands for one that does not
come in time. -/
structure Oracle (ε : Type) where
  /-- The name in logs. -/
  name : String
  propose : RepairRequest → Run ε (Option (Except OracleFailure Proposal))

end HarnessRepair
