import HarnessRepair.Budget.Attempts
import HarnessRepair.Finding.Basic
import HarnessRepair.Patch.Basic

/-!
# The attempt ledger

What has been spent on a finding, round by round, and how it ended.

## Main definitions

* `FindingState`, `FailureCause` — how a finding and a round may end.
* `AttemptEntry`, `AttemptRecord` — the ledger of one finding.
* `AttemptRecord.charge` — one more round, never beyond the ceiling.

## Main results

* `AttemptRecord.history_charge` — charging appends one entry and changes none.
-/

namespace HarnessRepair

open Json

/-! ### States -/

/-- The life of a finding inside a session. -/
inductive FindingState where
  | pending
  | inProgress
  | resolved
  | exhausted
  | blocked
  deriving DecidableEq, Repr, Inhabited

namespace FindingState

/-- Whether nothing more happens to the finding. -/
def isTerminal : FindingState → Bool
  | .pending | .inProgress => false
  | .resolved | .exhausted | .blocked => true

/-- The name of a state. -/
def name : FindingState → String
  | .pending => "pending"
  | .inProgress => "in_progress"
  | .resolved => "resolved"
  | .exhausted => "exhausted"
  | .blocked => "blocked"

/-- The state with a name. -/
def ofName? (s : String) : Option FindingState :=
  [FindingState.pending, .inProgress, .resolved, .exhausted, .blocked].find? (·.name == s)

end FindingState

/-! ### Causes -/

/-- Why a round did not resolve its finding. -/
inductive FailureCause where
  /-- The oracle failed or had nothing usable to say. -/
  | oracleFailed (reason : String)
  /-- The proposal could not be inserted. -/
  | patchRejected (reason : String)
  /-- The patched harness did not build, or the verifier did not finish. -/
  | verifierFailed (reason : String)
  /-- New findings lie on the inserted statements. -/
  | preconditionIntroducedFindings (statements : List String)
  /-- The finding is gone because its line is no longer reached. -/
  | targetUnreachable
  /-- The verifier still reports the finding. -/
  | notResolved
  deriving DecidableEq, Repr

namespace FailureCause

/-- A verdict costs a full attempt, everything else half of one. -/
def cost : FailureCause → Attempts
  | .notResolved => .full
  | _ => .half

/-- The name of a cause. -/
def label : FailureCause → String
  | .oracleFailed _ => "oracle_failed"
  | .patchRejected _ => "patch_rejected"
  | .verifierFailed _ => "verifier_failed"
  | .preconditionIntroducedFindings _ => "precondition_introduced_findings"
  | .targetUnreachable => "target_unreachable"
  | .notResolved => "not_resolved"

/-- The cause as a JSON value: its name, and what it carries. -/
def toJson (c : FailureCause) : Value :=
  let detail : List (String × Value) :=
    match c with
    | .oracleFailed r | .patchRejected r | .verifierFailed r => [("detail", .ofText r)]
    | .preconditionIntroducedFindings ss => [("detail", .ofTexts ss)]
    | .targetUnreachable | .notResolved => []
  .ofObject (("cause", .ofText c.label) :: detail)

/-- The cause with a name, given what it carries. -/
def ofParts? (label : String) (detail : Option Value) : Option FailureCause :=
  let bare (c : FailureCause) : Option FailureCause :=
    match detail with
    | none | some .null => some c
    | some _ => none
  if label = "oracle_failed" then (detail.bind Value.text?).map .oracleFailed
  else if label = "patch_rejected" then (detail.bind Value.text?).map .patchRejected
  else if label = "verifier_failed" then (detail.bind Value.text?).map .verifierFailed
  else if label = "precondition_introduced_findings" then
    (detail.bind (Value.list? Value.text?)).map .preconditionIntroducedFindings
  else if label = "target_unreachable" then bare .targetUnreachable
  else if label = "not_resolved" then bare .notResolved
  else none

/-- The cause that a JSON value describes; an array has to say what it carries. -/
def ofJson? (v : Value) : Option FailureCause := do
  let r ← v.record? ["cause", "detail"]
  let label ← r.required "cause" Value.variant?
  let detail := r.find? "detail"
  if r.positional && detail.isNone then none else ofParts? label detail

end FailureCause

/-! ### The ledger -/

/-- One round. -/
structure AttemptEntry where
  number : Nat
  cost : Attempts
  /-- Empty when the round resolved the finding. -/
  cause : Option FailureCause
  statements : List String
  deriving DecidableEq, Repr

namespace AttemptEntry

/-- The entry as a JSON value. -/
def toJson (e : AttemptEntry) : Value :=
  .ofObject [("number", .ofNat e.number), ("cost", e.cost.toJson),
    ("cause", .ofOption FailureCause.toJson e.cause), ("statements", .ofTexts e.statements)]

/-- The entry that a JSON value describes. -/
def ofJson? (v : Value) : Option AttemptEntry := do
  let r ← v.record? ["number", "cost", "cause", "statements"]
  return ⟨← r.required "number" Value.halfWord?, ← r.required "cost" Attempts.ofJson?,
    ← r.optional "cause" FailureCause.ofJson?,
    ← r.required "statements" (Value.list? Value.text?)⟩

end AttemptEntry

/-- The ledger and the outcome of one finding. -/
structure AttemptRecord where
  findingId : FindingId
  attemptsSpent : Attempts := .zero
  state : FindingState := .pending
  /-- Verifier runs made for this finding. -/
  verifierRuns : UInt32 := 0
  /-- The finding whose patch made this one go away. -/
  resolvedBy : Option FindingId := none
  /-- Statements kept for this finding. -/
  keptStatements : List String := []
  history : List AttemptEntry := []
  usage : TokenUsage := {}
  deriving DecidableEq, Repr

namespace AttemptRecord

/-- The number of the round that comes after some others; it stays at the largest
32-bit number. -/
def nextNumber (done : Nat) : Nat := Nat.min (done + 1) 4294967295

/-- What a round is charged: the cost of its cause, a full attempt without one,
and no more than what is left below the ceiling. -/
def chargeFor (r : AttemptRecord) (cause : Option FailureCause) (ceiling : Attempts) : Attempts :=
  let wanted := (cause.map FailureCause.cost).getD .full
  wanted.min (ceiling.minus r.attemptsSpent)

/-- The record with one more round on it. -/
def charge (r : AttemptRecord) (cause : Option FailureCause) (statements : List String)
    (ceiling : Attempts) : AttemptRecord :=
  let charged := r.chargeFor cause ceiling
  { r with
    attemptsSpent := r.attemptsSpent + charged
    history := r.history ++ [⟨nextNumber r.history.length, charged, cause, statements⟩] }

/-- Whether anything is left below the ceiling. -/
def hasBudget (r : AttemptRecord) (ceiling : Attempts) : Bool := r.attemptsSpent.isLess ceiling

/-- Why the latest round failed, if it did. -/
def lastCause? (r : AttemptRecord) : Option FailureCause := r.history.getLast?.bind (·.cause)

theorem history_charge (r : AttemptRecord) (cause : Option FailureCause)
    (statements : List String) (ceiling : Attempts) :
    (r.charge cause statements ceiling).history =
      r.history ++ [⟨nextNumber r.history.length, r.chargeFor cause ceiling, cause, statements⟩] :=
  rfl

/-- The record as a JSON value. -/
def toJson (r : AttemptRecord) : Value :=
  .ofObject [("finding_id", .ofText r.findingId.text),
    ("attempts_spent", r.attemptsSpent.toJson), ("state", .ofText r.state.name),
    ("verifier_runs", .ofNat r.verifierRuns.toNat),
    ("resolved_by", .ofOption (fun id => .ofText id.text) r.resolvedBy),
    ("kept_statements", .ofTexts r.keptStatements),
    ("history", .array (r.history.map AttemptEntry.toJson)),
    ("input_tokens", .ofNat r.usage.input.toNat),
    ("output_tokens", .ofNat r.usage.output.toNat)]

end AttemptRecord

end HarnessRepair
