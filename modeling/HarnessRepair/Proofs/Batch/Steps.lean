import HarnessRepair.Proofs.Patch.Operations
import HarnessRepair.Batch.Run

/-!
# Sessions step by step

Sessions that run side by side take turns: between two steps of one of them, any number
of steps of the others may come.  So a session is written once more, as the program of its
steps, of which each runs the verifier, asks the oracle, reads or writes one file, or tells
something.  Nothing is decided in another way than before: a program that is run by itself,
one step right after the other, is the session.

## Main definitions

* `Steps` — a program of steps.
* `Steps.alone` — a program that is run by itself.
* `Session.runSteps`, `jobSteps`, `jobsSteps` — the programs of a session, of a job, and of
  jobs one after the other.

## Main results

* `Session.alone_runSteps`, `alone_jobSteps`, `alone_jobsSteps` — **by themselves, they are what
  is run.**
-/

namespace HarnessRepair

variable {ε α β : Type}

/-! ### Programs -/

/-- A program of steps: each is a computation on the world, and its answer decides how the
program goes on. -/
inductive Steps (ε : Type) (α : Type) : Type 1 where
  | done (a : α)
  | act {β : Type} (m : Run ε β) (next : β → Steps ε α)

namespace Steps

/-- One program after another. -/
def andThen : Steps ε α → (α → Steps ε β) → Steps ε β
  | done a, f => f a
  | act m next, f => act m fun b => (next b).andThen f

instance : Monad (Steps ε) where
  pure := done
  bind := andThen

/-- A computation as one step. -/
def step (m : Run ε α) : Steps ε α := act m done

/-- A program whose steps are run right after each other. -/
def alone : Steps ε α → Run ε α
  | done a => pure a
  | act m next => m >>= fun b => (next b).alone

@[simp] theorem alone_pure (a : α) : (pure a : Steps ε α).alone = pure a := rfl

@[simp] theorem alone_step (m : Run ε α) : (step m).alone = m := bind_pure m

@[simp] theorem alone_bind (p : Steps ε α) (f : α → Steps ε β) :
    (p >>= f).alone = p.alone >>= fun a => (f a).alone := by
  induction p with
  | done a => exact (pure_bind a fun a => (f a).alone).symm
  | act m next ih =>
    change (m >>= fun b => (next b >>= f).alone) = _
    rw [alone, bind_assoc]
    exact bind_congr ih

end Steps

open Steps

/-! ### A store is closed -/

namespace PatchStore

/-- A text is written to the file of a store, and a failure told. -/
def writeSteps (s : PatchStore) (text complaint : String) : Steps ε Unit := do
  if let .error e ← step (writeText s.path text) then
    step (tell .error .patchStore complaint [s.harnessField, ("error", .shown e.message)])

/-- `PatchStore.close` in steps. -/
def closeSteps (s : PatchStore) : Steps ε Unit := do
  if let some change := s.inFlight then
    s.writeSteps change.prior.source "Failed to revert in-flight patch"
  if s.policy = .restoreText ∧ s.source ≠ s.pristine then
    s.writeSteps s.pristine "Failed to restore harness"

theorem alone_writeSteps (s : PatchStore) (text complaint : String) :
    (s.writeSteps text complaint : Steps ε Unit).alone = (do
      if let .error e ← writeText s.path text then
        tell .error .patchStore complaint [s.harnessField, ("error", .shown e.message)]) := by
  rw [writeSteps, alone_bind, alone_step]
  exact bind_congr fun r => by cases r <;> rfl

theorem alone_closeSteps (s : PatchStore) : (closeSteps s : Steps ε Unit).alone = s.close := by
  have hrestore : (do
      if s.policy = .restoreText ∧ s.source ≠ s.pristine then
        s.writeSteps s.pristine "Failed to restore harness" : Steps ε Unit).alone = (do
      if s.policy = .restoreText ∧ s.source ≠ s.pristine then
        if let .error e ← writeText s.path s.pristine then
          tell .error .patchStore "Failed to restore harness"
            [s.harnessField, ("error", .shown e.message)]) := by
    rw [apply_ite alone, alone_writeSteps, alone_pure]
  rw [closeSteps, close]
  cases s.inFlight with
  | none => exact hrestore
  | some change =>
    dsimp only
    rw [alone_bind, alone_writeSteps, hrestore, bind_assoc]
    exact bind_congr fun r => by cases r <;> rfl

end PatchStore

/-! ### A session -/

namespace Session

/-- `Session.verify` in steps. -/
def verifySteps (c : Controller ε) (s : Session) :
    Steps ε (Except SessionFailure VerifierReport × Session) := do
  let s := { s with verifierRuns := s.verifierRuns + 1 }
  match ← step (c.verifier.run s.target) with
  | .error e => return (.error (.infrastructure e), s)
  | .ok raw =>
    match ← step (parseReport s.target.harnessFile raw) with
    | .error e => return (.error (.parse e), s)
    | .ok report => return (.ok report, s)

/-- `Session.reject` in steps. -/
def rejectSteps (c : Controller ε) (s : Session) (id : FindingId) (handle : Nat)
    (cause : FailureCause) (statements : List String) :
    Steps ε (Except SessionFailure RoundEnd × Session) := do
  match ← step (s.store.revert handle) with
  | (.error e, store) => return (.error (.patch e), { s with store := store })
  | (.ok (), store) =>
    return (.ok .unsettled, ← step (charge c { s with store := store } id (some cause) statements))

/-- `Session.tryOut` in steps. -/
def tryOutSteps (c : Controller ε) (s : Session) (finding : Finding) (handle : Nat)
    (statements : List String) : Steps ε (Except SessionFailure RoundEnd × Session) := do
  let id := finding.id
  let s := { s with
    ledger := s.ledger.updateRecord id fun r => { r with verifierRuns := r.verifierRuns + 1 } }
  match ← verifySteps c s with
  | (.error (.infrastructure e), s) =>
    rejectSteps c s id handle (.verifierFailed e.message) statements
  | (.error e, s) =>
    match ← step (s.store.revert handle) with
    | (.error e', store) => return (.error (.patch e'), { s with store := store })
    | (.ok (), store) => return (.error e, { s with store := store })
  | (.ok report, s) =>
    match judge c.mode.targets s.target s.store finding report with
    | .error o => return (.error (.overflow o), s)
    | .ok (.harmful introduced) =>
      rejectSteps c s id handle (.preconditionIntroducedFindings introduced) statements
    | .ok (.persists still) =>
      match ← step (s.store.revert handle) with
      | (.error e, store) => return (.error (.patch e), { s with store := store })
      | (.ok (), store) =>
        let s := { s with store := store, ledger := s.ledger.observe still }
        return (.ok .unsettled, ← step (charge c s id (some .notResolved) statements))
    | .ok .unreached => rejectSteps c s id handle .targetUnreachable statements
    | .ok (.resolved others) => step (accept c s id handle statements others)

/-- `Session.prepare` in steps. -/
def prepareSteps (c : Controller ε) (s : Session) (e : LedgerEntry) (request : RepairRequest) :
    Steps ε (Except (FailureCause × List String) (Nat × List String) × Session) := do
  let id := e.record.findingId
  match ← step (consult c request) with
  | .error failure => return (.error (.oracleFailed failure.message, []), s)
  | .ok proposal =>
    let s := s.addUsage id proposal.usage
    let statements := proposal.statements
    match ← step (s.store.applyAll proposal.patches) with
    | (.error failure, store) =>
      return (.error (.patchRejected failure.message, statements), { s with store := store })
    | (.ok handle, store) =>
      step (tell .debug .session "Verifying proposal"
        [s.harnessField, findingField id, ("attempt", .number request.attempt),
          ("statements", .shown (Text.quoteList statements))])
      return (.ok (handle, statements), { s with store := store })

/-- `Session.round` in steps. -/
def roundSteps (c : Controller ε) (s : Session) (e : LedgerEntry) :
    Steps ε (Except SessionFailure RoundEnd × Session) := do
  match ← step (s.look e) with
  | .error o => return (.error (.overflow o), s)
  | .ok request =>
    match ← prepareSteps c s e request with
    | (.error (cause, statements), s) =>
      return (.ok .unsettled, ← step (charge c s e.record.findingId (some cause) statements))
    | (.ok (handle, statements), s) => tryOutSteps c s e.finding handle statements

/-- `Session.attempts` in steps. -/
def attemptsSteps (c : Controller ε) (id : FindingId) :
    Nat → Session → Steps ε (Except SessionFailure Unit × Session)
  | 0, s => do return (.ok (), ← step (s.giveUp id))
  | rounds + 1, s => do
    match s.ledger.find? id with
    | none => return (.ok (), s)
    | some e =>
      if e.record.hasBudget c.budget then
        match ← roundSteps c s e with
        | (.error failure, s) => return (.error failure, s)
        | (.ok .settled, s) => return (.ok (), s)
        | (.ok .unsettled, s) => attemptsSteps c id rounds s
      else return (.ok (), ← step (s.giveUp id))

/-- `Session.repair` in steps. -/
def repairSteps (c : Controller ε) (s : Session) (id : FindingId) :
    Steps ε (Except SessionFailure Unit × Session) :=
  attemptsSteps c id c.budget.halves.toNat
    { s with ledger := s.ledger.updateRecord id fun r => { r with state := .inProgress } }

/-- `Session.giveIn` in steps. -/
def giveInSteps (s : Session) (id : FindingId) :
    SessionFailure → Steps ε (Except Overflow SessionOutcome × Session)
  | .overflow o => return (.error o, s)
  | e => do
    step (tell .error .session "Session blocked"
      [s.harnessField, findingField id, ("error", .shown e.message)])
    return s.block e.message

/-- `Session.repairAll` in steps. -/
def repairAllSteps (c : Controller ε) :
    Nat → Session → Steps ε (Except Overflow SessionOutcome × Session)
  | limit, s => do
    match s.ledger.nextPending? with
    | none =>
      let status := s.finalStatus
      step (tell .info .session "Repair session finished"
        [s.harnessField, ("status", .text status.name),
          ("verifier_runs", .number s.verifierRuns.toNat)])
      return (.ok ⟨status, none⟩, s)
    | some id =>
      match limit with
      | 0 => return s.block "more findings than a session takes up"
      | limit + 1 =>
        match ← repairSteps c s id with
        | (.ok (), s) => repairAllSteps c limit s
        | (.error e, s) => giveInSteps s id e

/-- `Session.start` in steps. -/
def startSteps (c : Controller ε) (s : Session) :
    Steps ε (Except SessionFailure Unit × Session) := do
  step (tell .info .session "Starting repair session"
    [s.harnessField, ("mode", .text c.mode.name), ("verifier", .text c.verifier.name),
      ("oracle", .text c.oracle.name)])
  match ← verifySteps c s with
  | (.error e, s) =>
    step (tell .error .session "Initial verification failed"
      [s.harnessField, ("error", .shown e.message)])
    return (.error e, s)
  | (.ok report, s) =>
    let wanted := report.findings.filter fun f => f.kind = c.mode.targets
    let s := { s with ledger := wanted.foldl Ledger.track s.ledger }
    step (tell .info .session "Initial findings"
      [s.harnessField, ("findings", .number s.ledger.length)])
    return (.ok (), s)

/-- `Session.run` in steps. -/
def runSteps (c : Controller ε) (s : Session) :
    Steps ε (Except Overflow SessionOutcome × Session) := do
  match ← startSteps c s with
  | (.error e, s) => return s.block ("initial verification failed: " ++ e.message)
  | (.ok (), s) => repairAllSteps c findingLimit s

variable (c : Controller ε) (s : Session)

theorem alone_verifySteps : (verifySteps c s).alone = verify c s := by
  rw [verifySteps, verify, alone_bind, alone_step]
  refine bind_congr fun raw => ?_
  cases raw with
  | error e => rfl
  | ok raw =>
    dsimp only
    rw [alone_bind, alone_step]
    exact bind_congr fun report => by cases report <;> rfl

theorem alone_rejectSteps (id : FindingId) (handle : Nat) (cause : FailureCause)
    (statements : List String) :
    (rejectSteps c s id handle cause statements).alone = reject c s id handle cause statements := by
  rw [rejectSteps, reject, alone_bind, alone_step]
  refine bind_congr fun r => ?_
  obtain ⟨_ | _, store⟩ := r
  · rfl
  · exact bind_congr fun t => rfl

theorem alone_tryOutSteps (finding : Finding) (handle : Nat) (statements : List String) :
    (tryOutSteps c s finding handle statements).alone = tryOut c s finding handle statements := by
  rw [tryOutSteps, tryOut, alone_bind, alone_verifySteps]
  refine bind_congr fun r => ?_
  -- the steps are cut where the program is, so the cases are those of `tryOut`
  obtain ⟨e | report, t⟩ := r
  · cases e with
    | infrastructure e => exact alone_rejectSteps ..
    | parse e | patch e | overflow o =>
      dsimp only
      rw [alone_bind, alone_step]
      exact bind_congr fun r => by obtain ⟨_ | _, store⟩ := r <;> rfl
  · dsimp only
    rcases judge c.mode.targets t.target t.store finding report with
      o | (introduced | still | - | others)
    · rfl
    · exact alone_rejectSteps ..
    · dsimp only
      rw [alone_bind, alone_step]
      refine bind_congr fun r => ?_
      obtain ⟨_ | _, store⟩ := r
      · rfl
      · exact bind_congr fun t => rfl
    · exact alone_rejectSteps ..
    · exact alone_step _

theorem alone_prepareSteps (e : LedgerEntry) (request : RepairRequest) :
    (prepareSteps c s e request).alone = prepare c s e request := by
  rw [prepareSteps, prepare, alone_bind, alone_step]
  refine bind_congr fun answer => ?_
  cases answer with
  | error failure => rfl
  | ok proposal =>
    dsimp only
    rw [alone_bind, alone_step]
    refine bind_congr fun r => ?_
    obtain ⟨_ | handle, store⟩ := r <;> rfl

theorem alone_roundSteps (e : LedgerEntry) : (roundSteps c s e).alone = round c s e := by
  rw [roundSteps, Session.round, alone_bind, alone_step]
  refine bind_congr fun looked => ?_
  cases looked with
  | error o => rfl
  | ok request =>
    dsimp only
    rw [alone_bind, alone_prepareSteps]
    refine bind_congr fun r => ?_
    obtain ⟨⟨cause, statements⟩ | ⟨handle, statements⟩, t⟩ := r
    · exact bind_congr fun t => rfl
    · exact alone_tryOutSteps ..

theorem alone_attemptsSteps (id : FindingId) (rounds : Nat) :
    (attemptsSteps c id rounds s).alone = attempts c id rounds s := by
  induction rounds generalizing s with
  | zero => exact bind_congr fun t => rfl
  | succ rounds ih =>
    rw [attemptsSteps, attempts]
    cases s.ledger.find? id with
    | none => rfl
    | some e =>
      dsimp only
      by_cases hbudget : e.record.hasBudget c.budget = true
      · rw [if_pos hbudget, if_pos hbudget, alone_bind, alone_roundSteps]
        refine bind_congr fun r => ?_
        obtain ⟨failure | (_ | _), t⟩ := r
        · rfl
        · exact ih t
        · rfl
      · rw [if_neg hbudget, if_neg hbudget]
        exact bind_congr fun t => rfl

theorem alone_giveInSteps (id : FindingId) (failure : SessionFailure) :
    (giveInSteps s id failure : Steps ε (Except Overflow SessionOutcome × Session)).alone =
      s.giveIn id failure := by
  cases failure <;> rfl

theorem alone_repairAllSteps (limit : Nat) :
    (repairAllSteps c limit s).alone = repairAll c limit s := by
  induction limit generalizing s with
  | zero =>
    rw [repairAllSteps, repairAll]
    cases s.ledger.nextPending? <;> rfl
  | succ limit ih =>
    rw [repairAllSteps, repairAll]
    cases s.ledger.nextPending? with
    | none => rfl
    | some id =>
      dsimp only
      rw [alone_bind, repairSteps, alone_attemptsSteps]
      refine bind_congr fun r => ?_
      obtain ⟨e | ⟨⟩, t⟩ := r
      · exact alone_giveInSteps ..
      · exact ih t

theorem alone_startSteps : (startSteps c s).alone = start c s := by
  rw [startSteps, start, alone_bind, alone_step]
  refine bind_congr fun _ => ?_
  rw [alone_bind, alone_verifySteps]
  exact bind_congr fun r => by obtain ⟨e | report, t⟩ := r <;> rfl

/-- **A session that is run by itself is the session.** -/
theorem alone_runSteps : (runSteps c s).alone = s.run c := by
  rw [runSteps, run, alone_bind, alone_startSteps]
  refine bind_congr fun r => ?_
  obtain ⟨e | ⟨⟩, t⟩ := r
  · rfl
  · exact alone_repairAllSteps ..

end Session

/-! ### A job -/

/-- `preserve` in steps. -/
@[irreducible]
def preserveSteps (path text : String) : Steps ε (Except IoError Unit) := do
  match Path.parent? path with
  | none => step (writeText path text)
  | some dir =>
    match ← step (onFiles fun fs => fs.createDirAll dir) with
    | .error e => return .error e
    | .ok () => step (writeText path text)

/-- The second half of `finishTest` in steps: the harness gets its text back. -/
def restoreSteps (s : Session) (outcome : SessionOutcome) : Steps ε Session := do
  let (result, store) ← step s.store.restorePristine
  if let .error e := result then
    step (tell .error .batch "Failed to restore harness"
      [nameField s.target, ("error", .shown e.message)])
  step (tell .debug .batch "Harness restored"
    [nameField s.target, ("status", .text outcome.status.name)])
  return { s with store := store }

/-- `finishTest` in steps. -/
def finishSteps (b : BatchSettings) (s : Session) (outcome : SessionOutcome) :
    Steps ε Session := do
  if let .error e ← preserveSteps (b.copyPath s.target) s.store.source then
    step (tell .warn .batch "Failed to save final harness"
      [nameField s.target, ("error", .shown e.message)])
  restoreSteps s outcome

/-- The second half of `runSession` in steps: what comes behind the session itself. -/
def endSteps (b : BatchSettings) (mode : RepairMode) (s : Session) (outcome : SessionOutcome) :
    Steps ε (Except Overflow SessionReport) := do
  let report := s.report mode outcome
  let s ← if b.testMode then finishSteps b s outcome else pure s
  s.store.closeSteps
  return .ok report

/-- `runSession` in steps. -/
def sessionSteps (c : Controller ε) (b : BatchSettings) (s : Session) :
    Steps ε (Except Overflow SessionReport) := do
  match ← s.runSteps c with
  | (.error o, s) =>
    s.store.closeSteps
    return .error o
  | (.ok outcome, s) => endSteps b c.mode s outcome

/-- `runJob` in steps. -/
def jobSteps (c : Controller ε) (b : BatchSettings) (job : SessionJob) :
    Steps ε (Except Overflow SessionReport) := do
  let target := job.target
  match ← step (PatchStore.openFile target.harnessFile b.policy) with
  | .error e =>
    step (tell .error .batch "Cannot open harness" [nameField target, ("error", .shown e.message)])
    return .ok (.setupBlocked target.name target.harnessFile c.mode e.message)
  | .ok store =>
    match ← step (stripFor job store) with
    | (.error e, store) =>
      store.closeSteps
      return .ok (.setupBlocked target.name target.harnessFile c.mode e.message)
    | (.ok removed, store) =>
      sessionSteps c b { target := target, store := store, removed := removed }

/-- `runJobs` in steps. -/
def jobsSteps (c : Controller ε) (b : BatchSettings) :
    List SessionJob → Steps ε (Except Overflow (List SessionReport))
  | [] => return .ok []
  | job :: jobs => do
    match ← jobSteps c b job with
    | .error o => return .error o
    | .ok report => return (← jobsSteps c b jobs).map (report :: ·)

theorem alone_preserveSteps (path text : String) :
    (preserveSteps path text : Steps ε (Except IoError Unit)).alone = preserve path text := by
  rw [preserveSteps, preserve]
  cases Path.parent? path with
  | none => exact alone_step _
  | some dir =>
    dsimp only
    rw [alone_bind, alone_step]
    exact bind_congr fun r => by cases r <;> rfl

theorem alone_finishSteps (b : BatchSettings) (s : Session) (outcome : SessionOutcome) :
    (finishSteps b s outcome : Steps ε Session).alone = finishTest b s outcome := by
  have hrestore : (restoreSteps s outcome : Steps ε Session).alone = (do
      let (result, store) ← s.store.restorePristine
      if let .error e := result then
        tell .error .batch "Failed to restore harness"
          [nameField s.target, ("error", .shown e.message)]
      tell .debug .batch "Harness restored"
        [nameField s.target, ("status", .text outcome.status.name)]
      return { s with store := store }) := by
    rw [restoreSteps, alone_bind, alone_step]
    exact bind_congr fun r => by obtain ⟨_ | _, store⟩ := r <;> rfl
  rw [finishSteps, finishTest, alone_bind, alone_preserveSteps]
  refine bind_congr fun saved => ?_
  cases saved with
  | error e => exact bind_congr fun _ => hrestore
  | ok _ => exact hrestore

theorem alone_sessionSteps (c : Controller ε) (b : BatchSettings) (s : Session) :
    (sessionSteps c b s).alone = runSession c b s := by
  rw [sessionSteps, runSession, alone_bind, Session.alone_runSteps]
  refine bind_congr fun r => ?_
  -- whichever way a session ends, its store is closed last
  have hclose : ∀ (t : Session) (r : Except Overflow SessionReport), (do
      t.store.closeSteps
      return r : Steps ε (Except Overflow SessionReport)).alone = (do
      t.store.close
      return r) := by
    intro t r
    rw [alone_bind, PatchStore.alone_closeSteps]
    rfl
  obtain ⟨o | outcome, t⟩ := r
  · exact hclose t (.error o)
  · dsimp only
    rw [endSteps]
    by_cases htest : b.testMode = true
    · rw [if_pos htest, if_pos htest, alone_bind, alone_finishSteps]
      exact bind_congr fun t' => hclose t' _
    · rw [if_neg htest, if_neg htest]
      exact hclose t _

/-- **A job that is run by itself is the job.** -/
theorem alone_jobSteps (c : Controller ε) (b : BatchSettings) (job : SessionJob) :
    (jobSteps c b job).alone = runJob c b job := by
  rw [jobSteps, runJob, alone_bind, alone_step]
  refine bind_congr fun opened => ?_
  cases opened with
  | error e => rfl
  | ok store =>
    dsimp only
    rw [alone_bind, alone_step]
    refine bind_congr fun r => ?_
    obtain ⟨e | removed, store⟩ := r
    · dsimp only
      rw [alone_bind, PatchStore.alone_closeSteps]
      rfl
    · exact alone_sessionSteps ..

theorem alone_jobsSteps (c : Controller ε) (b : BatchSettings) (jobs : List SessionJob) :
    (jobsSteps c b jobs).alone = runJobs c b jobs := by
  induction jobs with
  | nil => rfl
  | cons job jobs ih =>
    rw [jobsSteps, runJobs, alone_bind, alone_jobSteps]
    refine bind_congr fun r => ?_
    cases r with
    | error o => rfl
    | ok report =>
      dsimp only
      rw [alone_bind, ih]
      rfl

end HarnessRepair
