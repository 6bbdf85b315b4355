import HarnessRepair.Proofs.Patch.Operations
import HarnessRepair.Session.Run

/-!
# What the parts of a session compute

A session is written as a computation on the world, but what it makes of its
ledger and its store depends on the world only through the answers of the oracle
and of the verifier.  Each part is here taken apart into a function of those
answers and events that are told.

## Main definitions

* `Session.charged`, `Session.absorbed`, `Session.givenUp` — the session after
  some bookkeeping.
* `heard`, `reading` — what a session makes of an answer of the oracle, and of
  the verifier.
* `Verdict`, `Session.conclude` — how a session goes on after a verification.
* `Session.Concluded` — a round that has gone on so, or could not for the file.

## Main results

* `Session.run_prepare_silent`, `_misfit`, `_fits` — how a change comes about.
* `Session.concluded_tryOut`, `run_tryOut` — **what becomes of it.**
-/

namespace HarnessRepair

variable {ε : Type}

/-! ### Bookkeeping -/

/-- Takes a reported finding into the ledger. -/
def Ledger.enter (l : Ledger) (f : Finding) : Ledger :=
  match l.find? f.id with
  | some e => if e.record.state.isTerminal then l else l.observe f
  | none => l.track f

namespace Session

/-- The session after a round has been charged to a finding. -/
def charged (c : Controller ε) (s : Session) (id : FindingId) (cause : Option FailureCause)
    (statements : List String) : Session :=
  { s with ledger := s.ledger.updateRecord id fun r => r.charge cause statements c.budget }

/-- The session after the report that confirmed a resolution. -/
def absorbed (s : Session) (resolver : FindingId) (relevant : List Finding) : Session :=
  { s with
    ledger := relevant.foldl Ledger.enter (s.ledger.settle resolver (relevant.map (·.id))) }

/-- How a session ends that cannot go on. -/
def ended (s : Session) : SessionFailure → Except Overflow SessionOutcome × Session
  | .overflow o => (.error o, s)
  | failure => s.block failure.message

/-- The ledger of a session that cannot go on is as it was, or all that is left is blocked. -/
theorem of_ledger_ended {P : Ledger → Prop} {s : Session} (failure : SessionFailure)
    (h : P s.ledger) (hblocked : P s.ledger.blockRemaining) : P (s.ended failure).2.ledger := by
  cases failure with
  | overflow o => exact h
  | infrastructure e | parse e | patch e => exact hblocked

/-- It ends without an outcome only if the program has been stopped. -/
theorem not_overflow_of_ended {s : Session} {failure : SessionFailure} {ending : SessionOutcome}
    (h : (s.ended failure).1 = .ok ending) (o : Overflow) : failure ≠ .overflow o := by
  rintro rfl
  cases h

/-- If it ends with an outcome, it is blocked. -/
theorem status_of_ended {s : Session} {failure : SessionFailure} {ending : SessionOutcome}
    (h : (s.ended failure).1 = .ok ending) : ending.status = .blocked := by
  cases failure with
  | overflow o => cases h
  | infrastructure e | parse e | patch e =>
    obtain rfl := Except.ok.inj h
    rfl

/-- The session after a finding has been given up. -/
def givenUp (s : Session) (id : FindingId) : Session :=
  { s with ledger := s.ledger.updateRecord id fun r => { r with state := spentState r } }

theorem told_tell (level : LogLevel) (source : LogSource) (message : String)
    (fields : List (String × FieldValue)) (w : World ε) :
    Told w ((tell level source message fields).run w).2 := ⟨rfl, rfl⟩

theorem run_charge (c : Controller ε) (s : Session) (id : FindingId)
    (cause : Option FailureCause) (statements : List String) (w : World ε) :
    ∃ w', (charge c s id cause statements).run w = (charged c s id cause statements, w') ∧
      Told w w' := by
  rw [charge]
  dsimp only
  split
  · exact ⟨_, rfl, told_tell ..⟩
  · exact ⟨w, rfl, Told.refl w⟩

theorem run_giveUp (s : Session) (id : FindingId) (w : World ε) :
    ∃ w', (giveUp s id).run w = (givenUp s id, w') ∧ Told w w' := by
  rw [giveUp]
  dsimp only
  split
  · exact ⟨_, rfl, told_tell ..⟩
  · exact ⟨w, rfl, Told.refl w⟩

theorem run_giveIn (s : Session) (id : FindingId) (failure : SessionFailure) (w : World ε) :
    ∃ w', (s.giveIn id failure).run w = (s.ended failure, w') ∧ Told w w' := by
  cases failure with
  | overflow o => exact ⟨w, rfl, Told.refl w⟩
  | infrastructure e | parse e | patch e => exact ⟨_, rfl, told_tell ..⟩

/-! ### Reports -/

theorem run_tellGone (s : Session) (resolver : FindingId) (gone : List LedgerEntry)
    (w : World ε) : ∃ w', (s.tellGone resolver gone).run w = ((), w') ∧ Told w w' := by
  induction gone generalizing w with
  | nil => exact ⟨w, rfl, Told.refl w⟩
  | cons e rest ih =>
    rw [tellGone, run_bind]
    obtain ⟨w', hrun, htold⟩ := ih _
    exact ⟨w', hrun, (told_tell ..).trans htold⟩

theorem run_takeIn (s : Session) (f : Finding) (w : World ε) :
    ∃ w', (s.takeIn f).run w = ({ s with ledger := s.ledger.enter f }, w') ∧ Told w w' := by
  rw [takeIn, Ledger.enter]
  cases s.ledger.find? f.id with
  | none => exact ⟨_, rfl, told_tell ..⟩
  | some e =>
    dsimp only
    by_cases h : e.record.state.isTerminal = true
    · rw [if_pos h, if_pos h]
      exact ⟨w, rfl, Told.refl w⟩
    · rw [if_neg h, if_neg h]
      exact ⟨w, rfl, Told.refl w⟩

theorem run_takeInAll (s : Session) (fs : List Finding) (w : World ε) :
    ∃ w', (s.takeInAll fs).run w = ({ s with ledger := fs.foldl Ledger.enter s.ledger }, w') ∧
      Told w w' := by
  induction fs generalizing s w with
  | nil => exact ⟨w, rfl, Told.refl w⟩
  | cons f fs ih =>
    obtain ⟨w₁, hrun₁, htold₁⟩ := run_takeIn s f w
    obtain ⟨w₂, hrun₂, htold₂⟩ := ih { s with ledger := s.ledger.enter f } w₁
    refine ⟨w₂, ?_, htold₁.trans htold₂⟩
    rw [takeInAll, run_bind, hrun₁]
    exact hrun₂

theorem run_absorb (s : Session) (resolver : FindingId) (relevant : List Finding) (w : World ε) :
    ∃ w', (s.absorb resolver relevant).run w = (s.absorbed resolver relevant, w') ∧
      Told w w' := by
  rw [absorb]
  obtain ⟨w₁, hrun₁, htold₁⟩ :=
    run_tellGone s resolver (s.ledger.filter (Ledger.isGone (relevant.map (·.id)))) w
  obtain ⟨w₂, hrun₂, htold₂⟩ := run_takeInAll
    { s with ledger := s.ledger.settle resolver (relevant.map (·.id)) } relevant w₁
  refine ⟨w₂, ?_, htold₁.trans htold₂⟩
  rw [run_bind, hrun₁]
  exact hrun₂

end Session

/-! ### Answers -/

/-- What a session hears from an oracle that has answered, or has not. -/
def heard (c : Controller ε) :
    Option (Except OracleFailure Proposal) → Except OracleFailure Proposal
  | some (.ok proposal) => if proposal.patches.isEmpty then .error .empty else .ok proposal
  | some (.error e) => .error e
  | none => .error (.timeout c.oracleTimeout)

/-- What a session reads from what a verifier leaves. -/
def reading (target : HarnessTarget) :
    Except InfrastructureFailure RawReport → Except SessionFailure VerifierReport
  | .error e => .error (.infrastructure e)
  | .ok raw =>
    match readReport target.harnessFile raw with
    | .error e => .error (.parse e)
    | .ok report => .ok report

/-- Reading stops nothing. -/
theorem reading_ne_overflow (target : HarnessTarget)
    (r : Except InfrastructureFailure RawReport) (o : Overflow) :
    reading target r ≠ .error (.overflow o) := by
  cases r with
  | error e => exact fun h => by cases h
  | ok raw =>
    rw [reading]
    cases readReport target.harnessFile raw <;> exact fun h => by cases h

namespace Session

theorem run_consult (c : Controller ε) (request : RepairRequest) (w : World ε) :
    (consult c request).run w =
      (heard c ((c.oracle.propose request).run w).1, ((c.oracle.propose request).run w).2) := by
  rw [consult, run_bind]
  rcases (c.oracle.propose request).run w with ⟨_ | (e | proposal), w'⟩
  · rfl
  · rfl
  · dsimp only [heard]
    by_cases h : proposal.patches.isEmpty = true
    · rw [if_pos h, if_pos h]
      rfl
    · rw [if_neg h, if_neg h]
      rfl

theorem run_verify (c : Controller ε) (s : Session) (w : World ε) :
    ∃ w', (verify c s).run w =
        ((reading s.target ((c.verifier.run s.target).run w).1,
          { s with verifierRuns := s.verifierRuns + 1 }), w') ∧
      Told ((c.verifier.run s.target).run w).2 w' := by
  rw [verify]
  dsimp only
  rw [run_bind]
  rcases (c.verifier.run s.target).run w with ⟨e | raw, v⟩
  · exact ⟨v, rfl, Told.refl v⟩
  · dsimp only [reading]
    rw [run_bind, parseReport]
    dsimp only
    cases readReport s.target.harnessFile raw with
    | error e => exact ⟨v, rfl, Told.refl v⟩
    | ok report => exact ⟨_, rfl, told_tell ..⟩

/-! ### A change is made -/

/-- The request for the next attempt at an entry, if its lines are words. -/
def request (s : Session) (e : LedgerEntry) (w : World ε) : Except Overflow RepairRequest :=
  buildRequest w.files s.target e.finding s.store e.record

/-- What the oracle says to a request, and the world after that. -/
def ask (c : Controller ε) (request : RepairRequest) (w : World ε) :
    Except OracleFailure Proposal × World ε := (consult c request).run w

variable {c : Controller ε} {s : Session} {e : LedgerEntry} {asked : RepairRequest}
  {w v : World ε}

theorem run_look (s : Session) (e : LedgerEntry) (w : World ε) :
    (s.look e).run w = (s.request e w, w) := rfl

theorem run_prepare (c : Controller ε) (s : Session) (e : LedgerEntry) (asked : RepairRequest)
    (w : World ε) :
    (prepare c s e asked).run w =
      (match (ask c asked w).1 with
        | .error failure => return (.error (.oracleFailed failure.message, []), s)
        | .ok proposal => do
          let id := e.record.findingId
          let s := s.addUsage id proposal.usage
          let statements := proposal.statements
          match ← s.store.applyAll proposal.patches with
          | (.error failure, store) =>
            return (.error (.patchRejected failure.message, statements), { s with store := store })
          | (.ok handle, store) =>
            tell .debug .session "Verifying proposal"
              [s.harnessField, findingField id, ("attempt", .number asked.attempt),
                ("statements", .shown (Text.quoteList statements))]
            return (.ok (handle, statements), { s with store := store }) :
        Run ε (Except (FailureCause × List String) (Nat × List String) × Session)).run
          (ask c asked w).2 := rfl

/-- Without a proposal nothing is changed. -/
theorem run_prepare_silent {failure : OracleFailure} (h : ask c asked w = (.error failure, v)) :
    (prepare c s e asked).run w = ((.error (.oracleFailed failure.message, []), s), v) := by
  rw [run_prepare, h]
  rfl

/-- Patches that do not fit are not applied. -/
theorem run_prepare_misfit {proposal : Proposal} (h : ask c asked w = (.ok proposal, v))
    (hfree : s.store.inFlight = none) {failure : PatchError}
    (hmisfit : s.store.current.extend proposal.patches = .error failure) :
    (prepare c s e asked).run w =
      ((.error (.patchRejected failure.message, proposal.statements),
        s.addUsage e.record.findingId proposal.usage), v) := by
  have hstore : (s.addUsage e.record.findingId proposal.usage).store = s.store := rfl
  rw [run_prepare, h]
  dsimp only
  rw [run_bind, hstore, PatchStore.run_applyAll_misfit hfree hmisfit]
  rfl

/-- Patches that fit are put into the file as one change. -/
theorem run_prepare_fits {proposal : Proposal} (h : ask c asked w = (.ok proposal, v))
    (hfree : s.store.inFlight = none) {next : Snapshot}
    (hfits : s.store.current.extend proposal.patches = .ok next) {old : String}
    (hholds : Holds s.store.path old v) :
    ∃ w', (prepare c s e asked).run w =
        ((.ok (s.store.nextId, proposal.statements),
          { s.addUsage e.record.findingId proposal.usage with store := s.store.changed next }),
          w') ∧
      Holds s.store.path next.source w' ∧ w'.outside = v.outside := by
  obtain ⟨w', hrun, hnext, hout⟩ := PatchStore.run_applyAll hfree hfits hholds
  have hstore : (s.addUsage e.record.findingId proposal.usage).store = s.store := rfl
  have htold := told_tell .debug .session "Verifying proposal"
    [s.harnessField, findingField e.record.findingId, ("attempt", .number asked.attempt),
      ("statements", .shown (Text.quoteList proposal.statements))] w'
  refine ⟨_, ?_, htold.holds hnext, hout⟩
  rw [run_prepare, h]
  dsimp only
  rw [run_bind, hstore, hrun]
  rfl

end Session

/-! ### A change is judged -/

/-- The store after a change has been made and undone. -/
def PatchStore.undone (s : PatchStore) : PatchStore :=
  { s with nextId := s.nextId + 1, inFlight := none }

/-- The store after a change has been made and kept. -/
def PatchStore.kept (s : PatchStore) (next : Snapshot) : PatchStore :=
  { s with current := next, nextId := s.nextId + 1, inFlight := none }

/-- What becomes of a change. -/
inductive Verdict where
  /-- It is undone, the round has failed, and the finding may have been seen again. -/
  | undone (cause : FailureCause) (seen : Option Finding)
  /-- It is undone, and the session cannot go on. -/
  | fatal (failure : SessionFailure)
  /-- It is kept; these findings are left. -/
  | kept (others : List Finding)
  /-- It is still in flight, for the program has stopped. -/
  | halted (o : Overflow)

/-- What becomes of a change after the verifier has been run on it. -/
def verdict (kind : FindingKind) (target : HarnessTarget) (store : PatchStore)
    (finding : Finding) : Except SessionFailure VerifierReport → Verdict
  | .error (.infrastructure e) => .undone (.verifierFailed e.message) none
  | .error e => .fatal e
  | .ok report =>
    match judge kind target store finding report with
    | .error o => .halted o
    | .ok (.harmful introduced) => .undone (.preconditionIntroducedFindings introduced) none
    | .ok (.persists still) => .undone .notResolved (some still)
    | .ok .unreached => .undone .targetUnreachable none
    | .ok (.resolved others) => .kept others

/-- Whether a change is taken back. -/
def Verdict.takesBack : Verdict → Bool
  | .undone _ _ | .fatal _ => true
  | .kept _ | .halted _ => false

/-- The text that a verdict leaves in the file, given the one that is in it. -/
def Verdict.leaves (st : PatchStore) (old : String) : Verdict → String
  | .kept _ | .halted _ => old
  | .undone _ _ | .fatal _ => st.source

theorem Verdict.leaves_of_takesBack {decided : Verdict} (h : decided.takesBack = true)
    (st : PatchStore) (old : String) : decided.leaves st old = st.source := by
  cases decided with
  | undone cause seen | fatal failure => rfl
  | kept others | halted o => cases h

namespace Session

/-- The session after the verifier has been run for a finding. -/
def verified (s : Session) (id : FindingId) : Session :=
  { s with
    ledger := s.ledger.updateRecord id fun r => { r with verifierRuns := r.verifierRuns + 1 }
    verifierRuns := s.verifierRuns + 1 }

/-- The session after a finding has been resolved by statements of its own. -/
def resolvedBy (s : Session) (id : FindingId) (statements : List String) : Session :=
  { s with
    ledger := s.ledger.updateRecord id fun r =>
      { r with state := .resolved, keptStatements := statements } }

/-- The session after a finding has been seen again, if it has. -/
def noted (s : Session) : Option Finding → Session
  | some still => { s with ledger := s.ledger.observe still }
  | none => s

theorem store_noted (s : Session) (seen : Option Finding) : (s.noted seen).store = s.store := by
  cases seen <;> rfl

theorem target_noted (s : Session) (seen : Option Finding) :
    (s.noted seen).target = s.target := by
  cases seen <;> rfl

/-- How a round ends by a verdict on the change that made `next` of the store `st`. -/
def conclude (c : Controller ε) (s : Session) (st : PatchStore) (next : Snapshot)
    (id : FindingId) (statements : List String) :
    Verdict → Except SessionFailure RoundEnd × Session
  | .undone cause seen =>
    (.ok .unsettled,
      charged c (noted { s with store := st.undone } seen) id (some cause) statements)
  | .fatal failure => (.error failure, { s with store := st.undone })
  | .kept others =>
    (.ok .settled,
      ((charged c { s with store := st.kept next } id none statements).resolvedBy id
        statements).absorbed id others)
  | .halted o => (.error (.overflow o), { s with store := st.changed next })

variable {c : Controller ε} {s : Session} {st : PatchStore} {next : Snapshot} {w : World ε}
  {id : FindingId} {statements : List String} {decided : Verdict}

/-- The session holds the text that the verdict leaves in the file. -/
theorem source_conclude :
    (conclude c s st next id statements decided).2.store.source =
      decided.leaves st next.source := by
  cases decided with
  | undone cause seen => cases seen <;> rfl
  | fatal failure => rfl
  | kept others => rfl
  | halted o => rfl

/-- How a round goes on after its verdict: it is concluded, and the file is as it has to be, or
the change cannot be undone because the file cannot be written. -/
inductive Concluded (c : Controller ε) (s : Session) (st : PatchStore) (next : Snapshot)
    (id : FindingId) (statements : List String) (decided : Verdict) (w : World ε) :
    (Except SessionFailure RoundEnd × Session) × World ε → Prop
  | done {u : World ε} (outside_eq : u.outside = w.outside)
      (holds : ∀ old, Holds st.path old w → Holds st.path (decided.leaves st old) u) :
    Concluded c s st next id statements decided w
      (conclude c s st next id statements decided, u)
  | stuck {e : IoError} {store : PatchStore} {u : World ε}
      (undoes : decided.takesBack = true) (lost : ∀ old, ¬ Holds st.path old w) :
    Concluded c s st next id statements decided w
      ((.error (.patch (.io e)), { s with store := store }), u)

/-- Events told before do not matter. -/
theorem Concluded.of_told {v : World ε}
    {x : (Except SessionFailure RoundEnd × Session) × World ε} (htold : Told w v)
    (h : Concluded c s st next id statements decided v x) :
    Concluded c s st next id statements decided w x := by
  have hsame : ∀ old, Holds st.path old w → Holds st.path old v := fun old => htold.holds
  cases h with
  | done houtside hholds =>
    exact .done (houtside.trans htold.outside_eq) fun old hold => hholds old (hsame old hold)
  | stuck hundoes hlost => exact .stuck hundoes fun old hold => hlost old (hsame old hold)

/-- Undoing the change in flight, if the file can be written. -/
theorem run_undo (hstore : s.store = st.changed next) (w : World ε) :
    (∃ u, (s.store.revert st.nextId).run w = ((.ok (), st.undone), u) ∧
      u.outside = w.outside ∧ ∀ old, Holds st.path old w → Holds st.path st.source u) ∨
    (∃ e t u, (s.store.revert st.nextId).run w = ((.error (.io e), t), u)) ∧
      ∀ old, ¬ Holds st.path old w := by
  have hchange : (st.changed next).inFlight = some ⟨st.nextId, st.current⟩ := rfl
  rw [hstore]
  by_cases hwritable : ∃ old, Holds st.path old w
  · obtain ⟨old, hold⟩ := hwritable
    obtain ⟨u, hrun, hholds, hout⟩ := PatchStore.run_revert hchange hold
    exact Or.inl ⟨u, hrun, hout, fun _ _ => hholds⟩
  · rcases PatchStore.run_revert_cases hchange w with
      ⟨u, hrun, hout, -⟩ | ⟨e, u, hrun, -⟩
    · exact Or.inl ⟨u, hrun, hout, fun old hold => absurd ⟨old, hold⟩ hwritable⟩
    · exact Or.inr ⟨⟨e, _, u, hrun⟩, fun old hold => hwritable ⟨old, hold⟩⟩

/-- A round whose change is undone goes on, or cannot. -/
theorem concluded_undo (hstore : s.store = st.changed next)
    (hundoes : decided.takesBack = true)
    {go : PatchStore → Run ε (Except SessionFailure RoundEnd × Session)}
    (hgo : ∀ u, ∃ v, (go st.undone).run u =
      (conclude c s st next id statements decided, v) ∧ Told u v) (w : World ε) :
    Concluded c s st next id statements decided w
      ((do
        match ← s.store.revert st.nextId with
        | (.error e, store) => return (.error (.patch e), { s with store := store })
        | (.ok (), store) => go store :
        Run ε (Except SessionFailure RoundEnd × Session)).run w) := by
  rw [run_bind]
  rcases run_undo hstore w with ⟨u, hrun, hout, hholds⟩ | ⟨⟨e, t, u, hrun⟩, hlost⟩
  · obtain ⟨v, hconclude, htold⟩ := hgo u
    rw [hrun]
    dsimp only
    rw [hconclude]
    refine .done (htold.outside_eq.trans hout) fun old hold => ?_
    rw [Verdict.leaves_of_takesBack hundoes]
    exact htold.holds (hholds old hold)
  · rw [hrun]
    exact .stuck hundoes hlost

theorem concluded_reject (hstore : s.store = st.changed next) (cause : FailureCause)
    (w : World ε) : Concluded c s st next id statements (.undone cause none) w
      ((reject c s id st.nextId cause statements).run w) := by
  rw [reject]
  refine concluded_undo hstore rfl (fun u => ?_) w
  obtain ⟨v, hrun, htold⟩ := run_charge c { s with store := st.undone } id (some cause) statements u
  refine ⟨v, ?_, htold⟩
  rw [run_bind, hrun]
  rfl

/-- A finding that is seen again is noted before the round is charged. -/
theorem concluded_persist (hstore : s.store = st.changed next) (still : Finding) (w : World ε) :
    Concluded c s st next id statements (.undone .notResolved (some still)) w
      ((do
        match ← s.store.revert st.nextId with
        | (.error e, store) => return (.error (.patch e), { s with store := store })
        | (.ok (), store) =>
          let s := { s with store := store, ledger := s.ledger.observe still }
          return (.ok .unsettled, ← charge c s id (some .notResolved) statements) :
        Run ε (Except SessionFailure RoundEnd × Session)).run w) := by
  refine concluded_undo hstore rfl (fun u => ?_) w
  obtain ⟨v, hrun, htold⟩ := run_charge c
    { s with store := st.undone, ledger := s.ledger.observe still } id (some .notResolved)
    statements u
  refine ⟨v, ?_, htold⟩
  dsimp only
  rw [run_bind, hrun]
  rfl

/-- A failure that ends the session undoes the change first. -/
theorem concluded_abandon (hstore : s.store = st.changed next) (failure : SessionFailure)
    (w : World ε) : Concluded c s st next id statements (.fatal failure) w
      ((do
        match ← s.store.revert st.nextId with
        | (.error e, store) => return (.error (.patch e), { s with store := store })
        | (.ok (), store) => return (.error failure, { s with store := store }) :
        Run ε (Except SessionFailure RoundEnd × Session)).run w) :=
  concluded_undo hstore rfl (fun u => ⟨u, rfl, Told.refl u⟩) w

/-- A change is kept without a word to the file. -/
theorem concluded_accept (hstore : s.store = st.changed next) (others : List Finding)
    (w : World ε) : Concluded c s st next id statements (.kept others) w
      ((accept c s id st.nextId statements others).run w) := by
  have hcommit : s.store.commit st.nextId = (.ok (), st.kept next) := by
    have hchange : (st.changed next).inFlight = some ⟨st.nextId, st.current⟩ := rfl
    rw [hstore]
    exact PatchStore.commit_eq hchange
  obtain ⟨w₁, hrun₁, htold₁⟩ := run_charge c { s with store := st.kept next } id none statements w
  have hsettle : ∀ v : World ε, Told w v →
      Concluded c s st next id statements (.kept others) w ((do
        return (.ok .settled, ← ((charged c { s with store := st.kept next } id none
          statements).resolvedBy id statements).absorb id others) :
        Run ε (Except SessionFailure RoundEnd × Session)).run v) := by
    intro v htold
    obtain ⟨w₂, hrun₂, htold₂⟩ := run_absorb ((charged c { s with store := st.kept next } id none
      statements).resolvedBy id statements) id others v
    rw [run_bind, hrun₂]
    exact .done (htold.trans htold₂).outside_eq fun old hold => htold₂.holds (htold.holds hold)
  rw [accept, hcommit]
  dsimp only
  rw [run_bind, hrun₁]
  dsimp only
  split
  · exact hsettle _ (htold₁.trans (told_tell ..))
  · exact hsettle w₁ htold₁

/-- Where the program stops, the change stays in flight. -/
theorem concluded_halt (hstore : s.store = st.changed next) (o : Overflow) (w : World ε) :
    Concluded c s st next id statements (.halted o) w ((.error (.overflow o), s), w) := by
  have hsame : conclude c s st next id statements (.halted o) = (.error (.overflow o), s) := by
    rw [conclude, ← hstore]
  rw [← hsame]
  exact .done rfl fun old hold => hold

/-- **Every round on a change is concluded by its verdict**, which depends on what the verifier
leaves, and on nothing else in the world, or else the file cannot be written. -/
theorem concluded_tryOut (finding : Finding) (statements : List String)
    (hstore : s.store = st.changed next) (w : World ε) :
    Concluded c (s.verified finding.id) st next finding.id statements
      (verdict c.mode.targets s.target s.store finding
        (reading s.target ((c.verifier.run s.target).run w).1))
      ((c.verifier.run s.target).run w).2
      ((tryOut c s finding st.nextId statements).run w) := by
  obtain ⟨w₁, hrun₁, htold₁⟩ := run_verify c { s with
    ledger := s.ledger.updateRecord finding.id fun r =>
      { r with verifierRuns := r.verifierRuns + 1 } } w
  have hverified : (s.verified finding.id).store = st.changed next := hstore
  refine .of_told htold₁ ?_
  rw [tryOut]
  dsimp only
  rw [run_bind, hrun₁]
  dsimp only
  cases reading s.target ((c.verifier.run s.target).run w).1 with
  | error failure =>
    cases failure with
    | infrastructure e => exact concluded_reject hverified (.verifierFailed e.message) w₁
    | parse e => exact concluded_abandon hverified (.parse e) w₁
    | patch e => exact concluded_abandon hverified (.patch e) w₁
    | overflow o => exact concluded_abandon hverified (.overflow o) w₁
  | ok report =>
    rw [verdict]
    dsimp only
    cases judge c.mode.targets s.target s.store finding report with
    | error o => exact concluded_halt hverified o w₁
    | ok judgement =>
      cases judgement with
      | harmful introduced =>
        exact concluded_reject hverified (.preconditionIntroducedFindings introduced) w₁
      | persists still => exact concluded_persist hverified still w₁
      | unreached => exact concluded_reject hverified .targetUnreachable w₁
      | resolved others => exact concluded_accept hverified others w₁

/-- **What becomes of a change** depends on what the verifier leaves, and on nothing else
in the world. -/
theorem run_tryOut (finding : Finding) (statements : List String)
    (hstore : s.store = st.changed next) (h : Holds st.path next.source w)
    (hspares : Spares st.path (c.verifier.run s.target)) :
    ∃ w', (tryOut c s finding st.nextId statements).run w =
        (conclude c (s.verified finding.id) st next finding.id statements
          (verdict c.mode.targets s.target s.store finding
            (reading s.target ((c.verifier.run s.target).run w).1)), w') ∧
      Holds st.path (conclude c (s.verified finding.id) st next finding.id statements
          (verdict c.mode.targets s.target s.store finding
            (reading s.target ((c.verifier.run s.target).run w).1))).2.store.source w' ∧
      w'.outside = ((c.verifier.run s.target).run w).2.outside := by
  have hheld : Holds st.path next.source ((c.verifier.run s.target).run w).2 := hspares w _ h
  have hconcluded := concluded_tryOut (c := c) finding statements hstore w
  revert hconcluded
  generalize (tryOut c s finding st.nextId statements).run w = x
  intro hconcluded
  cases hconcluded with
  | stuck hundoes hlost => exact absurd hheld (hlost _)
  | done houtside hholds =>
    refine ⟨_, rfl, ?_, houtside⟩
    rw [source_conclude]
    exact hholds _ hheld

end Session

end HarnessRepair
