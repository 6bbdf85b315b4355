import HarnessRepair.Proofs.Session.Ledger
import HarnessRepair.Proofs.Session.Step

/-!
# What the parts of a session do to its ledger

Charging a round, counting tokens and noting how a finding looks leave it at work.
It is done with only when it is resolved or given up, and only in the first case
statements come to those that have been kept.

## Main results

* `Session.working_charged`, `working_addUsage`, `working_verified`,
  `working_noted` — the finding stays at work.
* `Session.queued_resolvedBy`, `queued_givenUp`, `queued_absorbed` — **it is done with.**
* `Session.conclude_undone`, `conclude_kept` — what a verdict does to the ledger.
* `verdict_undone`, `verdict_seen` — what is seen again when a change is undone, and that it
  is the finding at work.
* `verdict_halted` — what stops the program.
-/

namespace HarnessRepair

variable {ε : Type}

namespace Session

open Ledger LedgerEntry

variable {c : Controller ε} {s : Session} {id : FindingId}

theorem working_charged (h : Working id s.ledger) (cause : Option FailureCause)
    (statements : List String) :
    Working id (charged c s id cause statements).ledger ∧
      (charged c s id cause statements).ledger.directStatements = s.ledger.directStatements :=
  h.updateRecord (fun r => r.charge cause statements c.budget) (fun _ => rfl) (fun _ => rfl)
    (fun _ => rfl) fun _ => rfl

theorem working_addUsage (h : Working id s.ledger) (usage : TokenUsage) :
    Working id (s.addUsage id usage).ledger ∧
      (s.addUsage id usage).ledger.directStatements = s.ledger.directStatements :=
  h.updateRecord (fun r => { r with usage := r.usage + usage }) (fun _ => rfl) (fun _ => rfl)
    (fun _ => rfl) fun _ => rfl

theorem working_verified (h : Working id s.ledger) :
    Working id (s.verified id).ledger ∧
      (s.verified id).ledger.directStatements = s.ledger.directStatements :=
  h.updateRecord (fun r => { r with verifierRuns := r.verifierRuns + 1 }) (fun _ => rfl)
    (fun _ => rfl) (fun _ => rfl) fun _ => rfl

theorem working_noted (h : Working id s.ledger) {seen : Option Finding}
    (hseen : ∀ f ∈ seen, f.id = id) :
    Working id (s.noted seen).ledger ∧
      (s.noted seen).ledger.directStatements = s.ledger.directStatements := by
  cases seen with
  | none => exact ⟨h, rfl⟩
  | some f =>
    have hid : f.id = id := hseen f rfl
    have hmild : Mild id fun e => { e with finding := f } :=
      ⟨fun _ => rfl, fun _ => rfl, fun _ => rfl, fun _ => rfl, fun _ _ => hid⟩
    have hobserve : (s.noted (some f)).ledger =
        s.ledger.update id fun e => { e with finding := f } := by
      rw [noted, ← hid]
      rfl
    rw [hobserve]
    exact h.update hmild

/-- A finding that is resolved brings its statements. -/
theorem queued_resolvedBy (h : Working id s.ledger) (statements : List String) :
    Queued (s.resolvedBy id statements).ledger ∧
      (s.resolvedBy id statements).ledger.directStatements =
        s.ledger.directStatements ++ statements := by
  obtain ⟨hqueued, e, -, hby, heq⟩ := h.finish
    (fun r => { r with state := .resolved, keptStatements := statements }) (fun _ => rfl)
    fun _ => rfl
  refine ⟨hqueued, heq.trans (congrArg _ ?_)⟩
  exact directStatements_direct (isDirect_eq_true_iff.2 ⟨rfl, hby⟩)

/-- Giving a finding up does not resolve it. -/
theorem spentState_ne_resolved (r : AttemptRecord) :
    spentState r ≠ .resolved ∧ (spentState r).isTerminal = true := by
  rw [spentState]
  split
  · exact ⟨FindingState.noConfusion, rfl⟩
  · exact ⟨FindingState.noConfusion, rfl⟩

/-- A finding that is given up brings nothing. -/
theorem queued_givenUp (h : Working id s.ledger) :
    Queued (s.givenUp id).ledger ∧
      (s.givenUp id).ledger.directStatements = s.ledger.directStatements := by
  obtain ⟨hqueued, e, -, -, heq⟩ := h.finish (fun r => { r with state := spentState r })
    (fun _ => rfl) fun r => (spentState_ne_resolved r).2
  refine ⟨hqueued, heq.trans ?_⟩
  have hnone := isDirect_eq_false (e := { e with record :=
    { e.record with state := spentState e.record } }) (spentState_ne_resolved e.record).1
  rw [directStatements_eq_nil (List.forall_mem_singleton.2 hnone), List.append_nil]

theorem queued_enter {l : Ledger} (h : Queued l) (f : Finding) :
    Queued (l.enter f) ∧ (l.enter f).directStatements = l.directStatements := by
  rw [enter]
  cases l.find? f.id with
  | none => exact h.track f
  | some e =>
    dsimp only
    by_cases ht : e.record.state.isTerminal = true
    · rw [if_pos ht]
      exact ⟨h, rfl⟩
    · rw [if_neg ht]
      exact h.observe f

theorem queued_absorbed (h : Queued s.ledger) (resolver : FindingId) (relevant : List Finding) :
    Queued (s.absorbed resolver relevant).ledger ∧
      (s.absorbed resolver relevant).ledger.directStatements = s.ledger.directStatements := by
  obtain ⟨hsettle, hsame⟩ := h.settle resolver (relevant.map (·.id))
  obtain ⟨hqueued, hqueuedSame⟩ :=
    Queued.foldl (fun _ hl f => queued_enter hl f) hsettle relevant
  exact ⟨hqueued, hqueuedSame.trans hsame⟩

end Session

/-! ### Verdicts -/

/-- A finding that persists is found in the report, in lines of the unpatched harness. -/
theorem find?_of_judge_persists {kind : FindingKind} {target : HarnessTarget} {store : PatchStore}
    {finding still : Finding} {report : VerifierReport}
    (h : judge kind target store finding report = .ok (.persists still)) :
    (((rebased target.harnessFile store report.findings).filter fun f => f.kind = kind).find?
      fun f => f.id = finding.id) = some still := by
  unfold judge at h
  dsimp only at h
  split at h
  · cases h
  · split at h
    · next found hfind =>
      obtain rfl := Judgement.persists.inj (Except.ok.inj h)
      exact hfind
    · -- whatever is looked up, the finding does not persist
      cases hshown : shownLocation target store finding.location with
      | error o =>
        rw [hshown] at h
        cases h
      | ok shown =>
        rw [hshown] at h
        have hnot := Except.ok.inj h
        split at hnot <;> cases hnot

/-- So it is the one that was looked for. -/
theorem judge_persists {kind : FindingKind} {target : HarnessTarget} {store : PatchStore}
    {finding still : Finding} {report : VerifierReport}
    (h : judge kind target store finding report = .ok (.persists still)) :
    still.id = finding.id := by
  have hid := List.find?_some (find?_of_judge_persists h)
  exact of_decide_eq_true hid

/-- A change is undone because its finding persists, which is then seen again, or for another
cause. -/
theorem verdict_undone {kind : FindingKind} {target : HarnessTarget} {store : PatchStore}
    {finding : Finding} {r : Except SessionFailure VerifierReport} {cause : FailureCause}
    {seen : Option Finding} (h : verdict kind target store finding r = .undone cause seen) :
    (cause ≠ .notResolved ∧ seen = none) ∨ ∃ report still, r = .ok report ∧
      judge kind target store finding report = .ok (.persists still) ∧
      cause = .notResolved ∧ seen = some still := by
  cases r with
  | error failure =>
    cases failure with
    | infrastructure e =>
      obtain ⟨rfl, rfl⟩ := Verdict.undone.inj h
      exact Or.inl ⟨FailureCause.noConfusion, rfl⟩
    | parse e => cases h
    | patch e => cases h
    | overflow o => cases h
  | ok report =>
    rw [verdict] at h
    cases hj : judge kind target store finding report with
    | error o =>
      rw [hj] at h
      cases h
    | ok judgement =>
      rw [hj] at h
      cases judgement with
      | harmful introduced =>
        obtain ⟨rfl, rfl⟩ := Verdict.undone.inj h
        exact Or.inl ⟨FailureCause.noConfusion, rfl⟩
      | persists still =>
        obtain ⟨rfl, rfl⟩ := Verdict.undone.inj h
        exact Or.inr ⟨report, still, rfl, hj, rfl, rfl⟩
      | unreached =>
        obtain ⟨rfl, rfl⟩ := Verdict.undone.inj h
        exact Or.inl ⟨FailureCause.noConfusion, rfl⟩
      | resolved others => cases h

/-- What cannot go on for the report could not be read. -/
theorem verdict_fatal {kind : FindingKind} {target : HarnessTarget} {store : PatchStore}
    {finding : Finding} {r : Except SessionFailure VerifierReport} {failure : SessionFailure}
    (h : verdict kind target store finding r = .fatal failure) : r = .error failure := by
  cases r with
  | error failure' =>
    cases failure' with
    | infrastructure e => cases h
    | parse e | patch e | overflow o => rw [Verdict.fatal.inj h]
  | ok report =>
    rw [verdict] at h
    cases hj : judge kind target store finding report with
    | error o =>
      rw [hj] at h
      cases h
    | ok judgement =>
      rw [hj] at h
      cases judgement <;> cases h

/-- What is stopped looks for a line that is no word. -/
theorem verdict_halted {kind : FindingKind} {target : HarnessTarget} {store : PatchStore}
    {finding : Finding} {r : Except SessionFailure VerifierReport} {o : Overflow}
    (h : verdict kind target store finding r = .halted o) :
    shownLocation target store finding.location = .error o := by
  cases r with
  | error failure => cases failure <;> cases h
  | ok report =>
    rw [verdict] at h
    cases hj : judge kind target store finding report with
    | ok judgement =>
      rw [hj] at h
      cases judgement <;> cases h
    | error o' =>
      rw [hj] at h
      obtain rfl := Verdict.halted.inj h
      unfold judge at hj
      dsimp only at hj
      split at hj
      · cases hj
      · split at hj
        · cases hj
        · cases hshown : shownLocation target store finding.location with
          | error o => rw [hshown] at hj
          | ok shown => rw [hshown] at hj; cases hj

/-- A finding that is seen again is the one the change was made for. -/
theorem verdict_seen {kind : FindingKind} {target : HarnessTarget} {store : PatchStore}
    {finding : Finding} {r : Except SessionFailure VerifierReport} {cause : FailureCause}
    {seen : Option Finding} (h : verdict kind target store finding r = .undone cause seen) :
    ∀ f ∈ seen, f.id = finding.id := by
  intro f hf
  rcases verdict_undone h with ⟨-, rfl⟩ | ⟨report, still, -, hpersists, -, rfl⟩
  · cases hf
  · obtain rfl := Option.some.inj hf
    exact judge_persists hpersists

namespace Session

open Ledger

variable {c : Controller ε} {s : Session} {id : FindingId} {st : PatchStore} {next : Snapshot}
  {statements : List String} {decided : Verdict}

/-- A change that is taken back leaves its finding at work. -/
theorem conclude_undone (hworking : Working id s.ledger)
    (hseen : ∀ cause seen, decided = .undone cause seen → ∀ f ∈ seen, f.id = id)
    (hundoes : decided.takesBack = true) {r : Except SessionFailure RoundEnd × Session}
    (hr : conclude c s st next id statements decided = r) :
    r.1 ≠ .ok .settled ∧ r.2.store = st.undone ∧ r.2.target = s.target ∧
      Working id r.2.ledger ∧ r.2.ledger.directStatements = s.ledger.directStatements := by
  subst hr
  cases decided with
  | undone cause seen =>
    have hopen : Working id { s with store := st.undone }.ledger := hworking
    obtain ⟨hnoted, hnotedSame⟩ := working_noted hopen (hseen cause seen rfl)
    obtain ⟨hcharged, hchargedSame⟩ := working_charged (c := c) hnoted (some cause) statements
    refine ⟨?_, store_noted _ seen, target_noted _ seen, hcharged,
      hchargedSame.trans hnotedSame⟩
    intro heq
    cases heq
  | fatal failure =>
    refine ⟨?_, rfl, rfl, hworking, rfl⟩
    intro heq
    cases heq
  | kept others => cases hundoes
  | halted o => cases hundoes

/-- If it is kept, its finding is done with, and its statements are written down. -/
theorem conclude_kept (hworking : Working id s.ledger) (others : List Finding)
    {r : Except SessionFailure RoundEnd × Session}
    (hr : conclude c s st next id statements (.kept others) = r) :
    r.1 = .ok .settled ∧ r.2.store = st.kept next ∧ r.2.target = s.target ∧
      Queued r.2.ledger ∧
      r.2.ledger.directStatements = s.ledger.directStatements ++ statements := by
  subst hr
  have hopen : Working id { s with store := st.kept next }.ledger := hworking
  obtain ⟨hcharged, hchargedSame⟩ := working_charged (c := c) hopen none statements
  obtain ⟨hresolved, hresolvedSame⟩ := queued_resolvedBy hcharged statements
  obtain ⟨habsorbed, habsorbedSame⟩ := queued_absorbed hresolved id others
  refine ⟨rfl, rfl, rfl, habsorbed, ?_⟩
  rw [conclude, habsorbedSame, hresolvedSame, hchargedSame]

end Session

end HarnessRepair
