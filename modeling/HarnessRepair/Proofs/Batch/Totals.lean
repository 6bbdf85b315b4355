import HarnessRepair.CommandLine.Program
import HarnessRepair.Proofs.Batch.Conduct
import HarnessRepair.Proofs.Batch.Interleaving
import HarnessRepair.Proofs.Session.Accounts

/-!
# From attempts to the status of the program

The totals of a batch are the sums over its sessions, and no finding and no session
falls out of them: as every finding that is reported has ended, what is resolved,
exhausted and blocked makes up all of them.  So nothing that ended blocked can hide
behind the status 0.

## Main definitions

* `SessionReport.Unopened` — the report of a session that never got past setup.
* `AggregateReport.Conserved` — a report over sessions whose totals are right.

## Main results

* `AggregateReport.conserved_ofSessions` — **totals over accounted sessions are right.**
* `runJob_accounted`, `run_runBatch` — and those of a batch are.
* `accounts_conserved` — **from the charges of rounds to the status of the program.**
-/

namespace HarnessRepair

open CommandLine

variable {ε : Type}

/-! ### Totals -/

namespace BatchTotals

/-- A total to which every session adds its own part. -/
theorem total_eq {α : Type} [AddMonoid α] (total : BatchTotals → α) (part : SessionReport → α)
    (hadd : ∀ t r, total (t.add r) = total t + part r) (hzero : total {} = 0)
    (sessions : List SessionReport) :
    total (ofSessions sessions) = (sessions.map part).sum := by
  have hfrom : ∀ t, total (sessions.foldl add t) = total t + (sessions.map part).sum := by
    induction sessions with
    | nil =>
      intro t
      rw [List.foldl_nil, List.map_nil, List.sum_nil, add_zero]
    | cons r sessions ih =>
      intro t
      rw [List.foldl_cons, ih, hadd, List.map_cons, List.sum_cons, add_assoc]
  rw [ofSessions, hfrom, hzero, zero_add]

/-- A total that counts sessions. -/
theorem total_eq_countP (total : BatchTotals → Nat) {p : SessionReport → Prop} [DecidablePred p]
    (hadd : ∀ t r, total (t.add r) = total t + if p r then 1 else 0) (hzero : total {} = 0)
    (sessions : List SessionReport) :
    total (ofSessions sessions) = sessions.countP (p ·) := by
  rw [total_eq total _ hadd hzero]
  induction sessions with
  | nil => rfl
  | cons r sessions ih =>
    rw [List.map_cons, List.sum_cons, ih, List.countP_cons, Nat.add_comm]
    exact congrArg _ (by by_cases h : p r <;> simp [h])

/-- What is counted in words. -/
def counts (t : BatchTotals) : Counts := (t.verifierRuns, t.usage.input, t.usage.output)

end BatchTotals

/-- What is counted in words for a session that is reported. -/
def SessionReport.counts (r : SessionReport) : Counts :=
  (r.verifierRuns, r.usage.input, r.usage.output)

/-- The words that are counted for a batch are the sums of those of its sessions. -/
theorem BatchTotals.counts_ofSessions (sessions : List SessionReport) :
    (ofSessions sessions).counts = (sessions.map (·.counts)).sum :=
  total_eq counts SessionReport.counts (fun _ _ => rfl) rfl sessions

/-! ### Sessions that have ended -/

namespace SessionReport

/-- The report of a session that never got past setup. -/
def Unopened (r : SessionReport) : Prop :=
  ∃ harness file mode reason, r = .setupBlocked harness file mode reason

/-- The findings that are resolved, exhausted or blocked are all there are. -/
def Closed (r : SessionReport) : Prop :=
  r.findings.length = r.count .resolved + r.count .exhausted + r.count .blocked

/-- Nothing ended blocked. -/
def Free (r : SessionReport) : Prop :=
  r.status ≠ .blocked ∧ ∀ f ∈ r.findings, f.state ≠ .blocked

theorem closed_of_settled {r : SessionReport}
    (h : ∀ f ∈ r.findings, f.state = .resolved ∨ f.state = .exhausted ∨ f.state = .blocked) :
    r.Closed := by
  rw [Closed, count, count, count]
  generalize r.findings = fs at h
  induction fs with
  | nil => rfl
  | cons f fs ih =>
    have hrest := ih fun g hg => h g (List.mem_cons_of_mem _ hg)
    rw [List.length_cons, hrest, List.filter_cons, List.filter_cons, List.filter_cons]
    rcases h f List.mem_cons_self with hf | hf | hf <;> simp [hf] <;> omega

/-- All findings of a session that is accounted, or was never opened, have ended. -/
theorem closed {r : SessionReport} (h : r.Accounted ∨ r.Unopened) : r.Closed := by
  rcases h with h | ⟨harness, file, mode, reason, rfl⟩
  · exact closed_of_settled h.settled
  · rfl

/-- How many findings ended blocked. -/
theorem count_blocked_eq_zero_iff {r : SessionReport} :
    r.count .blocked = 0 ↔ ∀ f ∈ r.findings, f.state ≠ .blocked := by
  rw [count, List.length_eq_zero_iff, List.filter_eq_nil_iff]
  simp

end SessionReport

/-! ### Reports over sessions -/

/-- A report over sessions whose totals are right; words are cut off at their limits. -/
structure AggregateReport.Conserved (r : AggregateReport) : Prop where
  sessions : r.totals.sessions = r.sessions.length
  clean : r.totals.clean = r.sessions.countP (·.status = .clean)
  partialEnd : r.totals.partialEnd = r.sessions.countP (·.status = .partialEnd)
  blocked : r.totals.blocked = r.sessions.countP (·.status = .blocked)
  /-- Every session has ended in one of three ways. -/
  ended : r.totals.sessions = r.totals.clean + r.totals.partialEnd + r.totals.blocked
  findings : r.totals.findings = (r.sessions.map (·.findings.length)).sum
  resolved : r.totals.resolved = (r.sessions.map (·.count .resolved)).sum
  exhausted : r.totals.exhausted = (r.sessions.map (·.count .exhausted)).sum
  blockedFindings : r.totals.blockedFindings = (r.sessions.map (·.count .blocked)).sum
  /-- Every finding has ended in one of three ways. -/
  closed : r.totals.findings = r.totals.resolved + r.totals.exhausted + r.totals.blockedFindings
  attempts : r.totals.attemptsSpent.halves.toNat =
    (r.sessions.map (·.attemptsSpent.halves.toNat)).sum % 2 ^ 32
  runs : r.totals.verifierRuns.toNat = (r.sessions.map (·.verifierRuns.toNat)).sum % 2 ^ 32
  input : r.totals.usage.input.toNat = (r.sessions.map (·.usage.input.toNat)).sum % 2 ^ 64
  output : r.totals.usage.output.toNat = (r.sessions.map (·.usage.output.toNat)).sum % 2 ^ 64
  /-- The program succeeds exactly if nothing ended blocked. -/
  success : ∀ written json, (endingOf json (.ok (batchOutcome r written))).status = 0 ↔
    ∀ s ∈ r.sessions, s.Free

/-- Every session is clean, partial or blocked. -/
theorem length_eq_countP_status (sessions : List SessionReport) :
    sessions.length = sessions.countP (·.status = .clean) +
      sessions.countP (·.status = .partialEnd) + sessions.countP (·.status = .blocked) := by
  induction sessions with
  | nil => rfl
  | cons r sessions ih =>
    rw [List.length_cons, List.countP_cons, List.countP_cons, List.countP_cons]
    cases r.status <;> simp <;> omega

namespace AggregateReport

/-- **Totals over accounted sessions are right.** -/
theorem conserved_ofSessions (startedAt finishedAt : Timestamp) {sessions : List SessionReport}
    (h : ∀ r ∈ sessions, r.Accounted ∨ r.Unopened) :
    (ofSessions startedAt finishedAt sessions).Conserved := by
  let totals := BatchTotals.ofSessions sessions
  have hsessions : totals.sessions = sessions.length :=
    (BatchTotals.total_eq (·.sessions) (fun _ => 1) (fun _ _ => rfl) rfl
      sessions).trans (by rw [List.map_const', List.sum_replicate, smul_eq_mul, Nat.mul_one])
  have hclean : totals.clean = sessions.countP (·.status = .clean) :=
    BatchTotals.total_eq_countP (·.clean) (fun _ _ => rfl) rfl sessions
  have hpartial : totals.partialEnd = sessions.countP (·.status = .partialEnd) :=
    BatchTotals.total_eq_countP (·.partialEnd) (fun _ _ => rfl) rfl sessions
  have hblocked : totals.blocked = sessions.countP (·.status = .blocked) :=
    BatchTotals.total_eq_countP (·.blocked) (fun _ _ => rfl) rfl sessions
  have hfindings : totals.findings = (sessions.map (·.findings.length)).sum :=
    BatchTotals.total_eq (·.findings) _ (fun _ _ => rfl) rfl sessions
  have hresolved : totals.resolved = (sessions.map (·.count .resolved)).sum :=
    BatchTotals.total_eq (·.resolved) _ (fun _ _ => rfl) rfl sessions
  have hexhausted : totals.exhausted = (sessions.map (·.count .exhausted)).sum :=
    BatchTotals.total_eq (·.exhausted) _ (fun _ _ => rfl) rfl sessions
  have hgiven : totals.blockedFindings = (sessions.map (·.count .blocked)).sum :=
    BatchTotals.total_eq (·.blockedFindings) _ (fun _ _ => rfl) rfl sessions
  have hattempts : totals.attemptsSpent.halves = (sessions.map (·.attemptsSpent.halves)).sum :=
    BatchTotals.total_eq (·.attemptsSpent.halves) _ (fun _ _ => rfl) rfl sessions
  have hcounts : totals.counts = (sessions.map (·.counts)).sum :=
    BatchTotals.counts_ofSessions sessions
  refine
    { sessions := hsessions
      clean := hclean
      partialEnd := hpartial
      blocked := hblocked
      ended := ?_
      findings := hfindings
      resolved := hresolved
      exhausted := hexhausted
      blockedFindings := hgiven
      closed := ?_
      attempts := ?_
      runs := ?_
      input := ?_
      output := ?_
      success := ?_ }
  · exact hsessions.trans (by
      rw [length_eq_countP_status, ← hclean, ← hpartial, ← hblocked]; rfl)
  · change totals.findings = totals.resolved + totals.exhausted + totals.blockedFindings
    rw [hfindings, hresolved, hexhausted, hgiven, ← List.sum_map_add, ← List.sum_map_add]
    exact congrArg List.sum (List.map_congr_left fun r hr => r.closed (h r hr))
  · have hsum := toNat_sum UInt32.toNat rfl UInt32.toNat_add
      (sessions.map (·.attemptsSpent.halves))
    rw [← hattempts, List.map_map] at hsum
    exact hsum
  · have hsum := toNat_runs_sum (sessions.map (·.counts))
    rw [← hcounts, List.map_map] at hsum
    exact hsum
  · have hsum := toNat_input_sum (sessions.map (·.counts))
    rw [← hcounts, List.map_map] at hsum
    exact hsum
  · have hsum := toNat_output_sum (sessions.map (·.counts))
    rw [← hcounts, List.map_map] at hsum
    exact hsum
  · intro written json
    have hnone : totals.blocked = 0 ∧ totals.blockedFindings = 0 ↔ ∀ s ∈ sessions, s.Free := by
      rw [hblocked, hgiven, List.countP_eq_zero, List.sum_eq_zero_iff, List.forall_mem_map,
        ← forall₂_and]
      refine forall₂_congr fun r hr => and_congr ?_ SessionReport.count_blocked_eq_zero_iff
      rw [decide_eq_true_eq]
    refine Iff.trans ?_ hnone
    rw [status_endingOf_eq_zero_iff]
    simp [batchOutcome, hasBlocked, ofSessions, totals, Nat.pos_iff_ne_zero]

end AggregateReport

/-! ### Batches -/

/-- The report of a session that was set up is accounted. -/
theorem runSession_accounted {c : Controller ε} {b : BatchSettings} {s : Session} {w : World ε}
    {report : SessionReport} (hempty : s.ledger = []) (hcounts : s.counts = 0)
    (h : ((runSession c b s).run w).1 = .ok report) : report.Accounted := by
  obtain ⟨r, t, u, hrun, hran⟩ := Session.ran_run (c := c) hempty w
  rw [fst_runSession b hrun] at h
  obtain o | outcome := r
  · cases h
  · obtain rfl := Except.ok.inj h
    exact hran.accounted hempty hcounts

/-- **The report of every job is accounted**, or the job was never set up. -/
theorem runJob_accounted {c : Controller ε} {b : BatchSettings} {job : SessionJob} {w : World ε}
    {report : SessionReport} (h : ((runJob c b job).run w).1 = .ok report) :
    report.Accounted ∨ report.Unopened := by
  rw [runJob, run_bind] at h
  rcases hopen : (PatchStore.openFile job.target.harnessFile b.policy).run w with ⟨e | store, v⟩ <;>
    rw [hopen] at h
  · obtain rfl := Except.ok.inj h
    exact Or.inr ⟨_, _, _, _, rfl⟩
  · dsimp only at h
    rw [run_bind] at h
    rcases hstrip : (stripFor job store).run v with ⟨⟨e | removed, t⟩, x⟩ <;> rw [hstrip] at h
    · obtain rfl := Except.ok.inj h
      exact Or.inr ⟨_, _, _, _, rfl⟩
    · exact Or.inl (runSession_accounted rfl rfl h)

/-- There is a report for every job. -/
theorem runJobs_accounted {c : Controller ε} {b : BatchSettings} {jobs : List SessionJob}
    {w u : World ε} {sessions : List SessionReport}
    (h : (runJobs c b jobs).run w = (.ok sessions, u)) :
    sessions.length = jobs.length ∧ ∀ r ∈ sessions, r.Accounted ∨ r.Unopened := by
  induction jobs generalizing w u sessions with
  | nil =>
    obtain rfl := Except.ok.inj (Prod.mk.inj h).1
    exact ⟨rfl, List.forall_mem_nil _⟩
  | cons job jobs ih =>
    rw [runJobs, run_bind] at h
    rcases hjob : (runJob c b job).run w with ⟨o | report, v⟩ <;> rw [hjob] at h
    · cases h
    · dsimp only at h
      rw [run_bind] at h
      rcases hjobs : (runJobs c b jobs).run v with ⟨o | later, x⟩ <;> rw [hjobs] at h
      · cases h
      · obtain rfl := Except.ok.inj (Prod.mk.inj h).1
        obtain ⟨hlength, hall⟩ := ih hjobs
        exact ⟨congrArg (· + 1) hlength, List.forall_mem_cons.2
          ⟨runJob_accounted (congrArg Prod.fst hjob), hall⟩⟩

/-- A batch whose harnesses are all different reports on every job, unless a sum that is too
large stops the program. -/
theorem run_runBatch (c : Controller ε) (b : BatchSettings) (startedAt finishedAt : Timestamp)
    {jobs : List SessionJob} {w : World ε} (hclaimed : claimAll w.files [] jobs = .ok ()) :
    (∃ o u, (runBatch c b startedAt finishedAt jobs).run w = (.error (.overflow o), u)) ∨
      ∃ sessions u, (runBatch c b startedAt finishedAt jobs).run w =
          (.ok (.ofSessions startedAt finishedAt sessions), u) ∧
        sessions.length = jobs.length ∧ ∀ r ∈ sessions, r.Accounted ∨ r.Unopened := by
  rw [run_runBatch_eq c b startedAt finishedAt hclaimed]
  rcases hjobs : (runJobs c b jobs).run (batchStart c b jobs w) with ⟨o | sessions, u⟩
  · exact Or.inl ⟨o, u, rfl⟩
  · exact Or.inr ⟨sessions, _, rfl, runJobs_accounted hjobs⟩

section Program

variable {around : Surroundings ε} {settings : Settings} {oracle : Oracle ε} {mode : RepairMode}
  {jobs : List SessionJob} {w u : World ε}

/-- A batch that ends in an error ends the program in it. -/
theorem run_runJobList_of_error {e : RunFailure}
    (h : (runBatch (settings.controller (makeVerifier around.processes settings.verifier) oracle
      mode) settings.batch around.now around.now jobs).run w = (.error e, u)) :
    (runJobList around settings oracle mode jobs).run w = (.error (.ofRun e), u) := by
  rw [runJobList, run_bind, h]
  rfl

/-- What the program tells of a batch is what the report on it says, wherever that was written. -/
theorem exists_written_of_runJobList {report : AggregateReport} {outcome : CommandReport}
    {v : World ε}
    (h : (runBatch (settings.controller (makeVerifier around.processes settings.verifier) oracle
      mode) settings.batch around.now around.now jobs).run w = (.ok report, u))
    (hjobs : (runJobList around settings oracle mode jobs).run w = (.ok outcome, v)) :
    ∃ written, outcome = batchOutcome report written := by
  rw [runJobList, run_bind, h] at hjobs
  dsimp only at hjobs
  rw [run_bind] at hjobs
  rcases hwritten : (writeAggregate settings report).run u with ⟨e | written, x⟩ <;>
    rw [hwritten] at hjobs
  · cases hjobs
  · exact ⟨written, (Except.ok.inj (Prod.mk.inj hjobs).1).symm⟩

end Program

/-- **From the charges of rounds to the status of the program.**  Whoever the parties are and
however a session ends, unless a sum that is too large stops the program: its report tells of the
findings of the ledger in order, each with its own record, and no record is without its finding;
all of them have ended; and what was spent, the runs of the verifier and the tokens are the sums
over them, the runs with one more for the first.  Over such sessions, and those that were never
opened, the totals are sums as well, and they leave nothing out.  And the command that runs a batch
succeeds exactly if nothing in it ended blocked; it does not if the program is stopped. -/
theorem accounts_conserved :
    (∀ (c : Controller ε) (s : Session) (w : World ε), s.ledger = [] → s.counts = 0 →
      (∃ o t u, (s.run c).run w = ((.error o, t), u)) ∨
      ∃ outcome t u, (s.run c).run w = ((.ok outcome, t), u) ∧
        let report := t.report c.mode outcome
        report.findings = t.ledger.map LedgerEntry.summary ∧
        t.ledger.holdings.entries = t.ledger ∧
        (report.findings.map (·.id)).Nodup ∧
        (∀ e ∈ t.ledger, e.finding.id = e.record.findingId) ∧
        report.Accounted) ∧
    (∀ (startedAt finishedAt : Timestamp) (sessions : List SessionReport),
      (∀ r ∈ sessions, r.Accounted ∨ r.Unopened) →
        (AggregateReport.ofSessions startedAt finishedAt sessions).Conserved) ∧
    ∀ (around : Surroundings ε) (settings : Settings) (oracle : Oracle ε) (mode : RepairMode)
      (jobs : List SessionJob) (w : World ε), claimAll w.files [] jobs = .ok () →
      let batch := runBatch (settings.controller (makeVerifier around.processes
        settings.verifier) oracle mode) settings.batch around.now around.now jobs
      (∃ o u, batch.run w = (.error (.overflow o), u) ∧ ∀ json,
        (endingOf json ((runJobList around settings oracle mode jobs).run w).1).status ≠ 0) ∨
      ∃ sessions u, batch.run w = (.ok (.ofSessions around.now around.now sessions), u) ∧
        sessions.length = jobs.length ∧ (∀ r ∈ sessions, r.Accounted ∨ r.Unopened) ∧
        (AggregateReport.ofSessions around.now around.now sessions).Conserved ∧
        ∀ outcome v, (runJobList around settings oracle mode jobs).run w = (.ok outcome, v) →
          ∀ json, (endingOf json (.ok outcome)).status = 0 ↔ ∀ r ∈ sessions, r.Free := by
  refine ⟨?_, fun _ _ _ h => AggregateReport.conserved_ofSessions _ _ h, ?_⟩
  · intro c s w hempty hcounts
    obtain ⟨o | outcome, t, u, hrun, hran⟩ := Session.ran_run (c := c) hempty w
    · exact Or.inl ⟨o, t, u, hrun⟩
    have horderly := (hran.passes hempty).orderly t (by simp)
    refine Or.inr ⟨outcome, t, u, hrun, rfl, Ledger.entries_holdings ⟨horderly.nodup,
      horderly.named⟩, ?_, horderly.named, hran.accounted hempty hcounts⟩
    have hids : (t.report c.mode outcome).findings.map (·.id) = Ledger.ids t.ledger := by
      rw [Session.report, List.map_map]
      rfl
    rw [hids]
    exact horderly.nodup
  · intro around settings oracle mode jobs w hclaimed batch
    rcases run_runBatch (settings.controller (makeVerifier around.processes settings.verifier)
      oracle mode) settings.batch around.now around.now hclaimed with
      ⟨o, u, hrun⟩ | ⟨sessions, u, hrun, hlength, hall⟩
    · refine Or.inl ⟨o, u, hrun, fun json => ?_⟩
      rw [run_runJobList_of_error hrun, Ne, status_endingOf_eq_zero_iff]
      rintro (⟨_, h, -⟩ | ⟨_, h, -⟩) <;> cases h
    · have hconserved := AggregateReport.conserved_ofSessions around.now around.now hall
      refine Or.inr ⟨sessions, u, hrun, hlength, hall, hconserved, ?_⟩
      intro outcome v hjobs json
      obtain ⟨written, rfl⟩ := exists_written_of_runJobList hrun hjobs
      exact hconserved.success written json

theorem accounts_conserved_smallSession :
    Session.smallSession.ledger = [] ∧ Session.smallSession.counts = 0 ∧
      ∃ t u, (Session.smallSession.run Session.hesitantController).run Session.smallStart =
          ((.ok ⟨.clean, none⟩, t), u) ∧
        let report := t.report Session.hesitantController.mode ⟨.clean, none⟩
        report.findings = t.ledger.map LedgerEntry.summary ∧ report.Accounted ∧
        (AggregateReport.ofSessions .epoch .epoch
          [report, .setupBlocked "other" "other.c" Session.hesitantController.mode
            "no such file"]).Conserved := by
  obtain ⟨p, v₁, v₂, t, u, h⟩ := Session.exists_hesitated Session.onSmall_smallSession
  obtain ⟨hsession, hbatch, -⟩ := accounts_conserved (ε := List Call)
  refine ⟨rfl, rfl, t, u, h.run_eq, ?_⟩
  rcases hsession Session.hesitantController Session.smallSession Session.smallStart rfl rfl with
    ⟨o, t', u', hrun⟩ | ⟨outcome, t', u', hrun, hfindings, -, -, -, haccounted⟩
  · cases hrun.symm.trans h.run_eq
  · cases hrun.symm.trans h.run_eq
    refine ⟨hfindings, haccounted, hbatch _ _ _ (List.forall_mem_cons.2 ⟨Or.inl haccounted,
      List.forall_mem_singleton.2 (Or.inr ?_)⟩)⟩
    exact ⟨_, _, _, _, rfl⟩

end HarnessRepair
