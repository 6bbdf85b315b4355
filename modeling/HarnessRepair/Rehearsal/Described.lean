import HarnessRepair.Json.Field
import HarnessRepair.Oracle.Request
import HarnessRepair.Settings.Variable
import HarnessRepair.Target
import HarnessRepair.Verifier.Report

/-!
# Described findings, patches and requests

A rehearsal runs a session against scripts instead of a verifier and an oracle.
Its findings, patches and targets are described by JSON objects.

## Main definitions

* `Finding.ofDescription?`, `Patch.ofDescription?`, `HarnessTarget.ofDescription?`,
  `RepairRequest.ofDescription?`, `TokenUsage.ofDescription?`,
  `Environment.ofDescription?` — what is described.
* `RawReport.toJson` — what a run of the verifier has left, described.
-/

namespace HarnessRepair

open Json

/-- The described entry of a trace. -/
def TraceEntry.ofDescription? (v : Value) : Option TraceEntry := do
  return ⟨← v.field? "scope" Value.text?, ← v.field? "variable" Value.text?,
    ← v.field? "value" Value.text?⟩

/-- The described location, its members standing among others. -/
def Location.ofDescription? (v : Value) : Option Location := do
  return ⟨← v.field? "file" Value.text?, ← v.field? "function" Value.text?,
    ← v.field? "line" Value.word?⟩

namespace Finding

/-- The described finding of a kind. -/
def ofKind? (v : Value) (l : Location) : FindingKind → Option Finding
  | .modelingError => do
    return .modelingError l (← v.field? "message" Value.text?)
      (← v.optionalField? "property" Value.text?)
      (← v.fieldOr? "trace" [] (Value.list? TraceEntry.ofDescription?))
  | .coverageGap => do return .coverageGap l (← v.field? "uncovered" Value.word?)

/-- The finding with the cluster that a description gives it, if it gives one. -/
def withCluster? (f : Finding) (v : Value) : Option Finding :=
  match v.member? "override_cluster" with
  | none => some f
  | some c => do
    let cluster ← c.nullable? fun c => c.variant?.bind ErrorCluster.ofName?
    return { f with cluster := cluster }

/-- The described finding.  Its message and its cluster may be replaced; its identity
does not change with them. -/
def ofDescription? (v : Value) : Option Finding := do
  let kind ← v.field? "kind" fun k => k.variant?.bind FindingKind.ofName?
  let f ← ofKind? v (← Location.ofDescription? v) kind
  let message ← v.fieldOr? "override_message" f.message Value.text?
  withCluster? { f with message := message } v

end Finding

/-- The described patch. -/
def Patch.ofDescription? (v : Value) : Option Patch := do
  return ⟨← v.field? "text" Value.text?,
    ⟨← v.field? "function" Value.text?, ← v.fieldOr? "previous_line" "" Value.text?,
      ← v.fieldOr? "next_line" "" Value.text?⟩⟩

/-- The described usage; what is not given was not used. -/
def TokenUsage.ofDescription? (v : Value) : Option TokenUsage := do
  return ⟨.ofNat (← v.fieldOr? "input_tokens" 0 Value.word?),
    .ofNat (← v.fieldOr? "output_tokens" 0 Value.word?)⟩

/-- The described target. -/
def HarnessTarget.ofDescription? (v : Value) : Option HarnessTarget := do
  return {
    name := ← v.fieldOr? "name" "dns" Value.text?
    harnessFile := ← v.field? "harness_file" Value.text?
    targetFunction := ← v.fieldOr? "target_function" "parse_dns" Value.text?
    rootDir := ← v.fieldOr? "root_dir" "" Value.text?
    targetFile := ← v.optionalField? "target_file" Value.text? }

/-- The target as a JSON value. -/
def HarnessTarget.toJson (t : HarnessTarget) : Value :=
  .ofObject [("name", .ofText t.name), ("harness_file", .ofText t.harnessFile),
    ("target_function", .ofText t.targetFunction), ("root_dir", .ofText t.rootDir),
    ("target_file", .ofOption .ofText t.targetFile)]

/-- The described mode of repair. -/
def RepairMode.ofDescription? (v : Value) : Option RepairMode :=
  v.variant?.bind fun s =>
    if s = "errors" then some .errors else if s = "coverage" then some .coverage else none

/-- The described round of an attempt ledger: why it failed, and what it tried. -/
def chargeOfDescription? (v : Value) : Option (Option FailureCause × List String) := do
  return (← v.optionalField? "cause" FailureCause.ofJson?,
    ← v.fieldOr? "statements" [] Value.texts?)

/-- The described request. -/
def RepairRequest.ofDescription? (v : Value) : Option RepairRequest := do
  return {
    finding := ← v.field? "finding" Finding.ofDescription?
    sourceContext := ← v.field? "source_context" Value.text?
    locationContext := ← v.optionalField? "location_context" Value.text?
    trace := ← v.fieldOr? "trace" [] (Value.list? TraceEntry.ofDescription?)
    advice := ← v.fieldOr? "advice" [] Value.texts?
    previousFailure := ← v.optionalField? "previous_failure" FailureCause.ofJson?
    previousStatements := ← v.fieldOr? "previous_statements" [] Value.texts?
    targetFunction := ← v.field? "target_function" Value.text?
    harnessFile := ← v.field? "harness_file" Value.text?
    attempt := ← v.field? "attempt" Value.halfWord? }

/-- The described variables. -/
def Environment.ofDescription? : Value → Option Environment
  | .object members =>
    members.mapM fun (name, v) => do return (← name, ← v.text?)
  | _ => none

/-- What a run has left, as a JSON value. -/
def RawReport.toJson (r : RawReport) : Value :=
  .ofObject [("exit_code", .ofOption .ofInt r.exitCode), ("stdout", .ofText r.stdout),
    ("stderr", .ofText r.stderr), ("result_json", .ofOption .ofText r.result),
    ("property_json", .ofOption .ofText r.property), ("trace_json", .ofOption .ofText r.trace),
    ("coverage_json", .ofOption .ofText r.coverage)]

end HarnessRepair
