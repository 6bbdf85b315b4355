import HarnessRepair.Oracle.Context
import HarnessRepair.Verifier.Reading

/-!
# Judging a change

After a change the verifier runs again.  Its findings are brought back to lines
of the unpatched harness, and then decide whether the change is kept.

## Main definitions

* `rebase?`, `rebased`, `introduced` — findings in lines of the unpatched
  harness, and the inserted statements that others lie on.
* `Judgement`, `judge` — what becomes of a change.
-/

namespace HarnessRepair

/-! ### Rebasing -/

/-- A reported finding in lines of the unpatched harness; none if it lies on an
inserted statement. -/
def rebase? (harnessFile : String) (store : PatchStore) (f : Finding) : Option Finding :=
  if f.location.isIn harnessFile then
    match store.canonicalLine? f.location.line with
    | some line => some (if line = f.location.line then f else f.relocated line)
    | none => none
  else some f

/-- The findings that do not lie on inserted statements, rebased. -/
def rebased (harnessFile : String) (store : PatchStore) (findings : List Finding) :
    List Finding :=
  findings.filterMap (rebase? harnessFile store)

/-- Adds a text unless it is there already. -/
def addOnce (texts : List String) (s : String) : List String :=
  if texts.contains s then texts else texts ++ [s]

/-- The inserted statement that a finding lies on, if there is one. -/
def statementUnder? (harnessFile : String) (store : PatchStore) (f : Finding) : Option String :=
  if f.location.isIn harnessFile && (store.canonicalLine? f.location.line).isNone then
    some ((store.insertedStatementAt? f.location.line).getD "")
  else none

/-- The inserted statements that findings lie on, each once. -/
def introduced (harnessFile : String) (store : PatchStore) (findings : List Finding) :
    List String :=
  (findings.filterMap (statementUnder? harnessFile store)).foldl addOnce []

/-! ### Judging -/

/-- What becomes of a change made for a finding. -/
inductive Judgement where
  /-- Findings lie on the inserted statements. -/
  | harmful (statements : List String)
  /-- The finding is still there, and looks like this. -/
  | persists (still : Finding)
  /-- The finding is gone, and so is every way to its line. -/
  | unreached
  /-- The finding is gone; these others of its kind are reported. -/
  | resolved (others : List Finding)
  deriving DecidableEq, Repr

/-- Whether a report lists a location as not reached. -/
def isListedMissed (report : VerifierReport) (l : Location) : Bool :=
  report.coverage.bind (·.hit? l) == some false

/-- Judges the change in the store, made for a finding, by the report of the run
on it. -/
def judge (kind : FindingKind) (target : HarnessTarget) (store : PatchStore) (finding : Finding)
    (report : VerifierReport) : Except Overflow Judgement :=
  match introduced target.harnessFile store report.findings with
  | s :: ss => .ok (.harmful (s :: ss))
  | [] =>
    let relevant :=
      (rebased target.harnessFile store report.findings).filter fun f => f.kind = kind
    match relevant.find? fun f => f.id = finding.id with
    | some still => .ok (.persists still)
    | none => do
      let shown ← shownLocation target store finding.location
      return if isListedMissed report shown then .unreached else .resolved relevant

end HarnessRepair
