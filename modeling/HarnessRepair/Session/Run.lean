import HarnessRepair.Session.Judgement
import HarnessRepair.Session.Ledger

/-!
# Sessions

A session repairs the findings of one harness, one after the other.  A finding
waits, is worked on, and ends resolved, exhausted or blocked.  Every round asks
the oracle for a proposal, applies it, runs the verifier again, and either keeps
the change or undoes it.  A line number that is no word stops the session where it is.

## Main definitions

* `Controller` — verifier, oracle and settings.
* `Session` — all that a session owns.
* `Session.prepare`, `Session.tryOut` — a change is made, and then judged.
* `Session.round` — one attempt at a finding.
* `Session.repair` — attempts until the finding is settled.
* `Session.run` — the whole session.
-/

namespace HarnessRepair

/-! ### Settings and outcomes -/

/-- Who takes part in a session, and how. -/
structure Controller (ε : Type) where
  verifier : Verifier ε
  oracle : Oracle ε
  mode : RepairMode
  /-- What may be spent on one finding. -/
  budget : Attempts
  /-- How long the oracle may take, in seconds. -/
  oracleTimeout : Nat

/-- How a session ended. -/
inductive SessionStatus where
  /-- Every finding is resolved. -/
  | clean
  /-- The session came to its end with findings left. -/
  | partialEnd
  /-- The session could not go on. -/
  | blocked
  deriving DecidableEq, Repr, Inhabited

namespace SessionStatus

/-- The name of a status. -/
def name : SessionStatus → String
  | .clean => "clean"
  | .partialEnd => "partial"
  | .blocked => "blocked"

/-- The status with a name. -/
def ofName? (s : String) : Option SessionStatus :=
  [SessionStatus.clean, .partialEnd, .blocked].find? (·.name == s)

end SessionStatus

/-- How a session ended, and why if it was blocked. -/
structure SessionOutcome where
  status : SessionStatus
  reason : Option String
  deriving DecidableEq, Repr

/-- The outcome of a session that could not go on. -/
def SessionOutcome.blocked (reason : String) : SessionOutcome := ⟨.blocked, some reason⟩

/-- All that a session owns. -/
structure Session where
  target : HarnessTarget
  store : PatchStore
  ledger : Ledger := []
  verifierRuns : UInt32 := 0
  usage : TokenUsage := {}
  /-- Statements stripped before the session started. -/
  removed : List String := []
  deriving DecidableEq, Repr

/-- How a round ended, if nothing went wrong with the session. -/
inductive RoundEnd where
  /-- The finding is still open. -/
  | unsettled
  /-- The finding is resolved. -/
  | settled
  deriving DecidableEq, Repr

namespace Session

variable {ε : Type}

/-! ### Logging -/

/-- The field that names the harness. -/
def harnessField (s : Session) : String × FieldValue := ("harness", .shown s.target.name)

/-- The field that names a finding. -/
def findingField (id : FindingId) : String × FieldValue := ("finding", .shown id.short)

/-! ### The ledger -/

/-- Charges one round to a finding. -/
def charge (c : Controller ε) (s : Session) (id : FindingId) (cause : Option FailureCause)
    (statements : List String) : Run ε Session := do
  let s := { s with
    ledger := s.ledger.updateRecord id fun r => r.charge cause statements c.budget }
  if let some e := s.ledger.find? id then
    let cost := (e.record.history.getLast?.map (·.cost)).getD .zero
    tell .info .session "Attempt charged"
      [s.harnessField, findingField id, ("attempt", .number e.record.history.length),
        ("cost", .shown cost.text), ("spent", .shown e.record.attemptsSpent.text),
        ("cause", .text ((cause.map FailureCause.label).getD "resolved"))]
  return s

/-- Logs the findings that a report has settled along with another. -/
def tellGone (s : Session) (resolver : FindingId) : List LedgerEntry → Run ε Unit
  | [] => return ()
  | e :: rest => do
    tell .info .session "Finding resolved indirectly"
      [s.harnessField, findingField e.record.findingId, ("resolved_by", .shown resolver.short)]
    s.tellGone resolver rest

/-- Takes a finding of an accepted report into the ledger: a new one is queued, one
that is not settled is noted as it looks now. -/
def takeIn (s : Session) (f : Finding) : Run ε Session := do
  match s.ledger.find? f.id with
  | some e =>
    if e.record.state.isTerminal then return s
    else return { s with ledger := s.ledger.observe f }
  | none =>
    tell .info .session "New finding queued"
      [s.harnessField, findingField f.id, ("location", .shown f.location.text)]
    return { s with ledger := s.ledger.track f }

/-- Takes the findings of an accepted report into the ledger. -/
def takeInAll (s : Session) : List Finding → Run ε Session
  | [] => return s
  | f :: rest => do (← s.takeIn f).takeInAll rest

/-- Folds the report that confirmed a resolution into the ledger: what went away
with it is resolved too, what is new is queued, the rest is noted. -/
def absorb (s : Session) (resolver : FindingId) (relevant : List Finding) : Run ε Session := do
  let present := relevant.map (·.id)
  s.tellGone resolver (s.ledger.filter (Ledger.isGone present))
  takeInAll { s with ledger := s.ledger.settle resolver present } relevant

/-! ### Verifying -/

/-- Runs the verifier and reads its report. -/
def verify (c : Controller ε) (s : Session) :
    Run ε (Except SessionFailure VerifierReport × Session) := do
  let s := { s with verifierRuns := s.verifierRuns + 1 }
  match ← c.verifier.run s.target with
  | .error e => return (.error (.infrastructure e), s)
  | .ok raw =>
    match ← parseReport s.target.harnessFile raw with
    | .error e => return (.error (.parse e), s)
    | .ok report => return (.ok report, s)

/-! ### One round -/

/-- What the oracle has to say to a request, a late answer counting as none. -/
def consult (c : Controller ε) (request : RepairRequest) :
    Run ε (Except OracleFailure Proposal) := do
  match ← c.oracle.propose request with
  | some (.ok proposal) =>
    if proposal.patches.isEmpty then return .error .empty else return .ok proposal
  | some (.error e) => return .error e
  | none => return .error (.timeout c.oracleTimeout)

/-- Counts the tokens of a proposal for the session and for the finding. -/
def addUsage (s : Session) (id : FindingId) (usage : TokenUsage) : Session :=
  { s with
    usage := s.usage + usage
    ledger := s.ledger.updateRecord id fun r => { r with usage := r.usage + usage } }

/-- Undoes the change in flight and then charges a failed round. -/
def reject (c : Controller ε) (s : Session) (id : FindingId) (handle : Nat)
    (cause : FailureCause) (statements : List String) :
    Run ε (Except SessionFailure RoundEnd × Session) := do
  match ← s.store.revert handle with
  | (.error e, store) => return (.error (.patch e), { s with store := store })
  | (.ok (), store) =>
    return (.ok .unsettled, ← charge c { s with store := store } id (some cause) statements)

/-- Keeps the change in flight and marks its finding as resolved. -/
def accept (c : Controller ε) (s : Session) (id : FindingId) (handle : Nat)
    (statements : List String) (others : List Finding) :
    Run ε (Except SessionFailure RoundEnd × Session) := do
  match s.store.commit handle with
  | (.error e, store) => return (.error (.patch e), { s with store := store })
  | (.ok (), store) =>
    let s ← charge c { s with store := store } id none statements
    let s := { s with
      ledger := s.ledger.updateRecord id fun r =>
        { r with state := .resolved, keptStatements := statements } }
    if let some e := s.ledger.find? id then
      tell .info .session "Finding resolved"
        [s.harnessField, findingField id, ("spent", .shown e.record.attemptsSpent.text)]
    return (.ok .settled, ← s.absorb id others)

/-- Verifies the change in flight, made for a finding, and keeps it or undoes it. -/
def tryOut (c : Controller ε) (s : Session) (finding : Finding) (handle : Nat)
    (statements : List String) : Run ε (Except SessionFailure RoundEnd × Session) := do
  let id := finding.id
  let s := { s with
    ledger := s.ledger.updateRecord id fun r => { r with verifierRuns := r.verifierRuns + 1 } }
  match ← verify c s with
  | (.error (.infrastructure e), s) =>
    reject c s id handle (.verifierFailed e.message) statements
  | (.error e, s) =>
    match ← s.store.revert handle with
    | (.error e', store) => return (.error (.patch e'), { s with store := store })
    | (.ok (), store) => return (.error e, { s with store := store })
  | (.ok report, s) =>
    match judge c.mode.targets s.target s.store finding report with
    | .error o => return (.error (.overflow o), s)
    | .ok (.harmful introduced) =>
      reject c s id handle (.preconditionIntroducedFindings introduced) statements
    | .ok (.persists still) =>
      match ← s.store.revert handle with
      | (.error e, store) => return (.error (.patch e), { s with store := store })
      | (.ok (), store) =>
        let s := { s with store := store, ledger := s.ledger.observe still }
        return (.ok .unsettled, ← charge c s id (some .notResolved) statements)
    | .ok .unreached => reject c s id handle .targetUnreachable statements
    | .ok (.resolved others) => accept c s id handle statements others

/-- The request for the next attempt at a finding, by what there is now. -/
def look (s : Session) (e : LedgerEntry) : Run ε (Except Overflow RepairRequest) := do
  return buildRequest (← get).files s.target e.finding s.store e.record

/-- Asks for a proposal and puts it into the harness: answers the number of the change
in flight and its statements, or what the round failed for and with which statements. -/
def prepare (c : Controller ε) (s : Session) (e : LedgerEntry) (request : RepairRequest) :
    Run ε (Except (FailureCause × List String) (Nat × List String) × Session) := do
  let id := e.record.findingId
  match ← consult c request with
  | .error failure => return (.error (.oracleFailed failure.message, []), s)
  | .ok proposal =>
    let s := s.addUsage id proposal.usage
    let statements := proposal.statements
    match ← s.store.applyAll proposal.patches with
    | (.error failure, store) =>
      return (.error (.patchRejected failure.message, statements), { s with store := store })
    | (.ok handle, store) =>
      tell .debug .session "Verifying proposal"
        [s.harnessField, findingField id, ("attempt", .number request.attempt),
          ("statements", .shown (Text.quoteList statements))]
      return (.ok (handle, statements), { s with store := store })

/-- One attempt at a finding. -/
def round (c : Controller ε) (s : Session) (e : LedgerEntry) :
    Run ε (Except SessionFailure RoundEnd × Session) := do
  match ← s.look e with
  | .error o => return (.error (.overflow o), s)
  | .ok request =>
    match ← prepare c s e request with
    | (.error (cause, statements), s) =>
      return (.ok .unsettled, ← charge c s e.record.findingId (some cause) statements)
    | (.ok (handle, statements), s) => tryOut c s e.finding handle statements

/-! ### One finding -/

/-- The state of a finding whose budget is spent. -/
def spentState (r : AttemptRecord) : FindingState :=
  match r.lastCause? with
  | some .notResolved => .exhausted
  | _ => .blocked

/-- Gives a finding up. -/
def giveUp (s : Session) (id : FindingId) : Run ε Session := do
  let s := { s with
    ledger := s.ledger.updateRecord id fun r => { r with state := spentState r } }
  if let some e := s.ledger.find? id then
    tell .warn .session "Budget spent without resolving finding"
      [s.harnessField, findingField id, ("state", .shown e.record.state.name),
        ("spent", .shown e.record.attemptsSpent.text)]
  return s

/-- Attempts at a finding, at most `rounds` of them, until it is settled or its
budget is spent. -/
def attempts (c : Controller ε) (id : FindingId) :
    Nat → Session → Run ε (Except SessionFailure Unit × Session)
  | 0, s => do return (.ok (), ← s.giveUp id)
  | rounds + 1, s => do
    match s.ledger.find? id with
    | none => return (.ok (), s)
    | some e =>
      if e.record.hasBudget c.budget then
        match ← round c s e with
        | (.error failure, s) => return (.error failure, s)
        | (.ok .settled, s) => return (.ok (), s)
        | (.ok .unsettled, s) => attempts c id rounds s
      else return (.ok (), ← s.giveUp id)

/-- Spends the budget of a finding until it is settled.  Every round costs at least
half an attempt, so there are no more rounds than halves in the budget. -/
def repair (c : Controller ε) (s : Session) (id : FindingId) :
    Run ε (Except SessionFailure Unit × Session) :=
  attempts c id c.budget.halves.toNat
    { s with ledger := s.ledger.updateRecord id fun r => { r with state := .inProgress } }

/-! ### The session -/

/-- Ends all that is not settled, for a reason. -/
def block (s : Session) (reason : String) : Except Overflow SessionOutcome × Session :=
  (.ok (.blocked reason), { s with ledger := s.ledger.blockRemaining })

/-- Ends a session that cannot go on with a finding: blocked, unless it has stopped the
program. -/
def giveIn (s : Session) (id : FindingId) :
    SessionFailure → Run ε (Except Overflow SessionOutcome × Session)
  | .overflow o => return (.error o, s)
  | e => do
    tell .error .session "Session blocked"
      [s.harnessField, findingField id, ("error", .shown e.message)]
    return s.block e.message

/-- The status of a session that has come to its end. -/
def finalStatus (s : Session) : SessionStatus :=
  if s.ledger.all fun e => e.record.state = .resolved then .clean else .partialEnd

/-- How many findings a session can take up: no more than there are identities. -/
def findingLimit : Nat := Nat.pow 2 128

/-- Repairs the waiting findings one after the other, at most `limit` of them. -/
def repairAll (c : Controller ε) :
    Nat → Session → Run ε (Except Overflow SessionOutcome × Session)
  | limit, s => do
    match s.ledger.nextPending? with
    | none =>
      let status := s.finalStatus
      tell .info .session "Repair session finished"
        [s.harnessField, ("status", .text status.name),
          ("verifier_runs", .number s.verifierRuns.toNat)]
      return (.ok ⟨status, none⟩, s)
    | some id =>
      match limit with
      | 0 => return s.block "more findings than a session takes up"
      | limit + 1 =>
        match ← repair c s id with
        | (.ok (), s) => repairAll c limit s
        | (.error e, s) => s.giveIn id e

/-- The first verification, whose findings of the wanted kind are queued. -/
def start (c : Controller ε) (s : Session) : Run ε (Except SessionFailure Unit × Session) := do
  tell .info .session "Starting repair session"
    [s.harnessField, ("mode", .text c.mode.name), ("verifier", .text c.verifier.name),
      ("oracle", .text c.oracle.name)]
  match ← verify c s with
  | (.error e, s) =>
    tell .error .session "Initial verification failed"
      [s.harnessField, ("error", .shown e.message)]
    return (.error e, s)
  | (.ok report, s) =>
    let wanted := report.findings.filter fun f => f.kind = c.mode.targets
    let s := { s with ledger := wanted.foldl Ledger.track s.ledger }
    tell .info .session "Initial findings"
      [s.harnessField, ("findings", .number s.ledger.length)]
    return (.ok (), s)

/-- Runs the session: the first verification, and then one finding after the other.
Whatever is fatal ends it blocked and is told in the outcome; only an overflow leaves no
outcome, and the session as it is then. -/
def run (c : Controller ε) (s : Session) : Run ε (Except Overflow SessionOutcome × Session) := do
  match ← start c s with
  | (.error e, s) => return s.block ("initial verification failed: " ++ e.message)
  | (.ok (), s) => repairAll c findingLimit s

end Session

end HarnessRepair
