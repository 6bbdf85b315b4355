import HarnessRepair.Oracle.Request

/-!
# Scripted oracles

An oracle that hands out a list of answers, one per call, and repeats the last
one when the list is used up.  It is used for dry runs.

## Main definitions

* `ScriptAnswer`, `Script` — the answers still to come, and the requests so far.
* `Script.next` — one call.
* `Script.oracle` — the oracle of a script held in the outside world.
-/

namespace HarnessRepair

/-- One answer of a script: a proposal or a failure, or silence. -/
inductive ScriptAnswer where
  | proposal (p : Proposal)
  | failure (e : OracleFailure)
  | silence
  deriving DecidableEq, Repr

/-- Whether an answer is logged as one that is no failure. -/
def ScriptAnswer.isOk : ScriptAnswer → Bool
  | .failure _ => false
  | .proposal _ | .silence => true

/-- What comes of an answer. -/
def ScriptAnswer.result : ScriptAnswer → Option (Except OracleFailure Proposal)
  | .proposal p => some (.ok p)
  | .failure e => some (.error e)
  | .silence => none

/-- The state of a scripted oracle. -/
structure Script where
  pending : List ScriptAnswer := []
  /-- The answer given last. -/
  last : Option ScriptAnswer := none
  /-- The requests so far, oldest first. -/
  requests : List RepairRequest := []
  deriving DecidableEq, Repr

namespace Script

/-- The script that has given no answer yet. -/
def ofAnswers (answers : List ScriptAnswer) : Script := { pending := answers }

/-- A proposal of one patch, with a nominal number of tokens. -/
def single (function statement previousLine : String) : Proposal :=
  ⟨[⟨statement, { function := function, previousLine := previousLine }⟩], ⟨100, 20⟩⟩

/-- The script that always proposes one statement. -/
def always (function statement previousLine : String) : Script :=
  .ofAnswers [.proposal (single function statement previousLine)]

/-- The script that always fails. -/
def failing (e : OracleFailure) : Script := .ofAnswers [.failure e]

/-- The answer to one more request, and the script behind it. -/
def next (s : Script) (request : RepairRequest) : ScriptAnswer × Script :=
  match s.pending with
  | answer :: rest =>
    (answer, { pending := rest, last := some answer, requests := s.requests ++ [request] })
  | [] =>
    (s.last.getD (.failure .empty), { s with requests := s.requests ++ [request] })

variable {ε : Type}

/-- The oracle whose script is a part of the outside world. -/
def oracle (script : ε → Script) (replace : ε → Script → ε) : Oracle ε where
  name := "scripted"
  propose request := do
    let w ← get
    let (answer, rest) := (script w.outside).next request
    set { w with outside := replace w.outside rest }
    tell .debug .scriptedOracle "Scripted oracle answered"
      [("finding", .shown request.finding.id.short), ("attempt", .number request.attempt),
        ("ok", .flag answer.isOk)]
    return answer.result

end Script

end HarnessRepair
