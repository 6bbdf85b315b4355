import HarnessRepair.Proofs.Batch.Pool
import HarnessRepair.Proofs.Files.Apart

/-!
# Batches whose sessions take turns

Before a batch runs, every harness is claimed for one job alone.  Then its sessions run side by
side, as many at a time as there are workers, and take turns in any way.  To run them one after
the other is one of these ways.

## Main definitions

* `BatchRuns`, `BatchRunsIn R` — how a batch can come to its end, whoever takes which turn, and
  through worlds of a kind.

## Main results

* `claimAll_eq_ok_iff` — **a batch runs if no two of its harnesses are one file.**
* `batchRuns_runBatch` — sessions one after the other are sessions that take turns, unless one
  of them stops the program.
-/

namespace HarnessRepair

variable {ε : Type}

/-! ### Claims -/

/-- What tells the harnesses of some jobs apart. -/
def harnessKeys (fs : FileSystem) (jobs : List SessionJob) : List FileKey :=
  jobs.map fun job => fileKey fs job.target.harnessFile

/-- If a batch is refused, then for one of its harnesses. -/
theorem claimAll_cases (fs : FileSystem) (claimed : List FileKey) (jobs : List SessionJob) :
    claimAll fs claimed jobs = .ok () ∨
      ∃ job ∈ jobs, claimAll fs claimed jobs =
        .error (.duplicateHarness job.target.harnessFile) := by
  induction jobs generalizing claimed with
  | nil => exact Or.inl rfl
  | cons job jobs ih =>
    rw [claimAll, claim]
    by_cases h : claimed.contains (fileKey fs job.target.harnessFile) = true
    · rw [if_pos h]
      exact Or.inr ⟨job, List.mem_cons_self, rfl⟩
    · rw [if_neg h]
      exact (ih _).imp id fun ⟨other, hmem, hrefused⟩ =>
        ⟨other, List.mem_cons_of_mem _ hmem, hrefused⟩

/-- **A batch runs if no two of its harnesses are one file**, and none is claimed. -/
theorem claimAll_eq_ok_iff {fs : FileSystem} {claimed : List FileKey} {jobs : List SessionJob} :
    claimAll fs claimed jobs = .ok () ↔
      (harnessKeys fs jobs).Nodup ∧ ∀ key ∈ harnessKeys fs jobs, key ∉ claimed := by
  induction jobs generalizing claimed with
  | nil => simp [claimAll, harnessKeys]
  | cons job jobs ih =>
    have hkeys : harnessKeys fs (job :: jobs) =
        fileKey fs job.target.harnessFile :: harnessKeys fs jobs := rfl
    rw [claimAll, claim, hkeys, List.nodup_cons, List.forall_mem_cons]
    by_cases h : claimed.contains (fileKey fs job.target.harnessFile) = true
    · rw [if_pos h]
      exact iff_of_false (fun he => by cases he)
        fun hall => hall.2.1 (List.contains_iff_mem.1 h)
    · rw [if_neg h]
      dsimp only
      rw [ih]
      have hnew : fileKey fs job.target.harnessFile ∉ claimed :=
        fun hmem => h (List.contains_iff_mem.2 hmem)
      simp only [List.mem_cons, not_or]
      constructor
      · rintro ⟨hnodup, hfree⟩
        exact ⟨⟨fun hmem => (hfree _ hmem).1 rfl, hnodup⟩, hnew, fun key hkey => (hfree key hkey).2⟩
      · rintro ⟨⟨hnot, hnodup⟩, -, hfree⟩
        exact ⟨hnodup, fun key hkey => ⟨fun heq => hnot (heq ▸ hkey), hfree key hkey⟩⟩

/-- The place of a path that leads to something is the one it leads to. -/
theorem FileSystem.leadsTo?_of_place? {fs : FileSystem} {path : String} {p : Place}
    (h : fs.place? path = some p) : fs.leadsTo? path = some p := by
  rw [place?] at h
  split at h
  · next q hq =>
    have hq' := leadsTo?_of_resolve hq
    split at h
    · exact hq'.trans h
    · split at h
      · cases h
      · exact hq'.trans h
    · cases h
  · cases h

/-- A path under which something is read has a place. -/
theorem FileSystem.exists_place?_of_read {fs : FileSystem} {path : String} {c : Content}
    (h : fs.read path = .ok c) : ∃ p, fs.place? path = some p := by
  obtain ⟨p, hp, hnode, hfile⟩ := read_eq_ok_iff.1 h
  exact ⟨p, by simp only [place?, hp, hnode, hfile, Bool.false_eq_true, if_false]⟩

/-- Two paths to different places are apart. -/
theorem apart_of_place_ne {fs : FileSystem} {a b : String} {p q : Place}
    (hp : fs.place? a = some p) (hq : fs.place? b = some q) (hne : p ≠ q) : fs.Apart a b := by
  intro place hplace hplace'
  obtain rfl := Option.some.inj ((FileSystem.leadsTo?_of_place? hp).symm.trans hplace)
  exact hne (Option.some.inj (hplace'.symm.trans (FileSystem.leadsTo?_of_place? hq)))

theorem getElem?_harnessKeys (fs : FileSystem) {jobs : List SessionJob} {i : Nat}
    {job : SessionJob} (hi : jobs[i]? = some job) :
    (harnessKeys fs jobs)[i]? = some (fileKey fs job.target.harnessFile) := by
  rw [harnessKeys, List.getElem?_map, hi]
  rfl

section

variable {fs : FileSystem} {jobs : List SessionJob} {i k : Nat} {job other : SessionJob}
  {p q : Place}

/-- No two harnesses of a batch are in one place. -/
theorem place_ne_of_claimAll (h : claimAll fs [] jobs = .ok ()) (hi : jobs[i]? = some job)
    (hk : jobs[k]? = some other) (hne : i ≠ k) (hp : fs.place? job.target.harnessFile = some p) :
    fs.place? other.target.harnessFile ≠ some p := by
  obtain ⟨hnodup, -⟩ := claimAll_eq_ok_iff.1 h
  intro hq
  have hkey := getElem?_harnessKeys fs hi
  refine hne ((List.getElem?_inj (List.getElem?_eq_some_iff.1 hkey).1 hnodup).1 ?_)
  rw [hkey, getElem?_harnessKeys fs hk, fileKey, fileKey, hp, hq]

/-- Two harnesses of a batch that are there are apart. -/
theorem apart_of_claimAll (h : claimAll fs [] jobs = .ok ()) (hi : jobs[i]? = some job)
    (hk : jobs[k]? = some other) (hne : i ≠ k) (hp : fs.place? job.target.harnessFile = some p)
    (hq : fs.place? other.target.harnessFile = some q) :
    fs.Apart job.target.harnessFile other.target.harnessFile :=
  apart_of_place_ne hp hq fun heq => place_ne_of_claimAll h hi hk hne hp (heq ▸ hq)

/-- **Two harnesses in one place are refused.** -/
theorem claimAll_of_place (hi : jobs[i]? = some job) (hk : jobs[k]? = some other) (hne : i ≠ k)
    (hp : fs.place? job.target.harnessFile = some p)
    (hq : fs.place? other.target.harnessFile = some p) :
    ∃ named ∈ jobs, claimAll fs [] jobs =
      .error (.duplicateHarness named.target.harnessFile) :=
  (claimAll_cases fs [] jobs).resolve_left fun h => place_ne_of_claimAll h hi hk hne hp hq

end

/-! ### Turns -/

/-- The world in which the sessions of a batch start. -/
def batchStart (c : Controller ε) (b : BatchSettings) (jobs : List SessionJob) (w : World ε) :
    World ε :=
  ((tell .info .batch "Starting batch"
    [("sessions", .number jobs.length), ("workers", .number b.workers),
      ("mode", .text c.mode.name), ("test_mode", .flag b.testMode)]).run w).2

theorem files_batchStart (c : Controller ε) (b : BatchSettings) (jobs : List SessionJob)
    (w : World ε) : (batchStart c b jobs w).files = w.files := rfl

/-- How a batch can come to its end through worlds as `R` says: some harness is refused, and
nothing has happened, or every session has come to its report, whoever has taken which turn. -/
inductive BatchRunsIn (R : World ε → Prop) (c : Controller ε) (b : BatchSettings)
    (startedAt finishedAt : Timestamp) (jobs : List SessionJob) (w : World ε) :
    Except RunFailure AggregateReport → World ε → Prop
  | refused {e : ConfigurationError} (h : claimAll w.files [] jobs = .error e) :
    BatchRunsIn R c b startedAt finishedAt jobs w (.error (.configuration e)) w
  | ran {pool : Pool ε (Except Overflow SessionReport)} {sessions : List SessionReport}
      {report : AggregateReport} {u : World ε}
      (hclaimed : claimAll w.files [] jobs = .ok ())
      (hfirst : R (batchStart c b jobs w))
      (hruns : Pool.Reaches (max 1 b.workers) R
        (.start (jobs.map (jobSteps c b)), batchStart c b jobs w) (pool, u))
      (hended : pool.Ended) (hresults : pool.results = sessions.map .ok)
      (hreport : report = .ofSessions startedAt finishedAt sessions) :
    BatchRunsIn R c b startedAt finishedAt jobs w (.ok report)
      ((tell .info .batch "Batch finished"
        [("clean", .number report.totals.clean), ("partial", .number report.totals.partialEnd),
          ("blocked", .number report.totals.blocked)]).run u).2

/-- How a batch can come to its end. -/
abbrev BatchRuns (c : Controller ε) (b : BatchSettings) (startedAt finishedAt : Timestamp)
    (jobs : List SessionJob) (w : World ε) : Except RunFailure AggregateReport → World ε → Prop :=
  BatchRunsIn Pool.Anywhere c b startedAt finishedAt jobs w

section

variable {c : Controller ε} {b : BatchSettings} {jobs : List SessionJob} {w u : World ε}

/-- **Jobs one after the other come to some reports** exactly if the programs of their steps do,
one after the other. -/
theorem run_runJobs_eq_ok_iff {sessions : List SessionReport} :
    (runJobs c b jobs).run w = (.ok sessions, u) ↔
      (Pool.inTurn (jobs.map (jobSteps c b))).run w = (sessions.map .ok, u) := by
  induction jobs generalizing w sessions with
  | nil =>
    have hjobs : (runJobs c b []).run w = (.ok [], w) := rfl
    have hprograms : (Pool.inTurn (List.map (jobSteps c b) [])).run w = ([], w) := rfl
    rw [hjobs, hprograms]
    cases sessions with
    | nil =>
      exact ⟨fun h => Prod.ext rfl (Prod.mk.inj h).2, fun h => Prod.ext rfl (Prod.mk.inj h).2⟩
    | cons first later => exact iff_of_false (fun h => by cases h) fun h => by cases h
  | cons job jobs ih =>
    have hprograms : (Pool.inTurn (List.map (jobSteps c b) (job :: jobs))).run w =
        (((runJob c b job).run w).1 ::
          ((Pool.inTurn (jobs.map (jobSteps c b))).run ((runJob c b job).run w).2).1,
          ((Pool.inTurn (jobs.map (jobSteps c b))).run ((runJob c b job).run w).2).2) := by
      rw [List.map_cons, Pool.inTurn, alone_jobSteps]
      rfl
    rw [hprograms, runJobs, run_bind]
    -- an overflow stops the jobs here; the programs go on, but have no report to give
    rcases (runJob c b job).run w with ⟨o | report, v⟩
    · refine iff_of_false (fun h => by cases h) fun h => ?_
      cases sessions <;> cases (Prod.mk.inj h).1
    · have hrest : (do return (← runJobs c b jobs).map (report :: ·) :
          Run ε (Except Overflow (List SessionReport))).run v =
          (((runJobs c b jobs).run v).1.map (report :: ·), ((runJobs c b jobs).run v).2) := rfl
      dsimp only
      rw [hrest]
      constructor
      · intro h
        obtain ⟨hreports, rfl⟩ := Prod.mk.inj h
        cases hjobs : ((runJobs c b jobs).run v).1 with
        | error o =>
          rw [hjobs] at hreports
          cases hreports
        | ok later =>
          rw [hjobs] at hreports
          obtain rfl := Except.ok.inj hreports
          rw [ih.1 (Prod.ext hjobs rfl)]
          rfl
      · intro h
        obtain ⟨hresults, rfl⟩ := Prod.mk.inj h
        cases sessions with
        | nil => cases hresults
        | cons first later =>
          obtain ⟨hfirst, hlater⟩ := List.cons.inj hresults
          obtain rfl := Except.ok.inj hfirst
          rw [ih.2 (Prod.ext hlater rfl)]
          rfl

/-- What stops jobs one after the other is the end of one of the programs. -/
theorem mem_inTurn_of_runJobs {o : Overflow} (h : (runJobs c b jobs).run w = (.error o, u)) :
    .error o ∈ ((Pool.inTurn (jobs.map (jobSteps c b))).run w).1 := by
  induction jobs generalizing w with
  | nil => cases h
  | cons job jobs ih =>
    have hprograms : ((Pool.inTurn (List.map (jobSteps c b) (job :: jobs))).run w).1 =
        ((runJob c b job).run w).1 ::
          ((Pool.inTurn (jobs.map (jobSteps c b))).run ((runJob c b job).run w).2).1 := by
      rw [List.map_cons, Pool.inTurn, alone_jobSteps]
      rfl
    rw [hprograms]
    rw [runJobs, run_bind] at h
    rcases hjob : (runJob c b job).run w with ⟨o' | report, v⟩ <;> rw [hjob] at h
    · obtain ⟨hstopped, -⟩ := Prod.mk.inj h
      rw [Except.error.inj hstopped]
      exact List.mem_cons_self
    · dsimp only at h
      rw [run_bind] at h
      rcases hjobs : (runJobs c b jobs).run v with ⟨o' | later, u'⟩ <;> rw [hjobs] at h
      · obtain ⟨hstopped, rfl⟩ := Prod.mk.inj h
        obtain rfl := Except.error.inj hstopped
        exact List.mem_cons_of_mem _ (ih hjobs)
      · cases h

/-- A batch that is refused has done nothing. -/
theorem run_runBatch_refused (c : Controller ε) (b : BatchSettings)
    (startedAt finishedAt : Timestamp) {e : ConfigurationError}
    (hrefused : claimAll w.files [] jobs = .error e) :
    (runBatch c b startedAt finishedAt jobs).run w = (.error (.configuration e), w) := by
  rw [runBatch, run_bind, run_get]
  dsimp only
  rw [hrefused]
  rfl

/-- Jobs one after the other, with what is told before and behind. -/
theorem run_runBatch_eq (c : Controller ε) (b : BatchSettings) (startedAt finishedAt : Timestamp)
    (hclaimed : claimAll w.files [] jobs = .ok ()) :
    (runBatch c b startedAt finishedAt jobs).run w =
      match (runJobs c b jobs).run (batchStart c b jobs w) with
      | (.error o, u) => (.error (.overflow o), u)
      | (.ok sessions, u) => (.ok (.ofSessions startedAt finishedAt sessions),
          ((tell .info .batch "Batch finished"
            [("clean", .number (AggregateReport.ofSessions startedAt finishedAt
                sessions).totals.clean),
              ("partial", .number (AggregateReport.ofSessions startedAt finishedAt
                sessions).totals.partialEnd),
              ("blocked", .number (AggregateReport.ofSessions startedAt finishedAt
                sessions).totals.blocked)]).run u).2) := by
  rw [runBatch, run_bind, run_get]
  dsimp only
  rw [hclaimed]
  dsimp only
  rw [run_bind, run_bind, batchStart]
  rcases (runJobs c b jobs).run _ with ⟨o | sessions, u⟩ <;> rfl

/-- So it is what stops a batch. -/
theorem mem_inTurn_of_overflow {startedAt finishedAt : Timestamp}
    (hclaimed : claimAll w.files [] jobs = .ok ()) {o : Overflow}
    (h : ((runBatch c b startedAt finishedAt jobs).run w).1 = .error (.overflow o)) :
    .error o ∈ ((Pool.inTurn (jobs.map (jobSteps c b))).run (batchStart c b jobs w)).1 := by
  rw [run_runBatch_eq c b startedAt finishedAt hclaimed] at h
  rcases hjobs : (runJobs c b jobs).run (batchStart c b jobs w) with ⟨o' | sessions, u⟩ <;>
    rw [hjobs] at h
  · obtain rfl := RunFailure.overflow.inj (Except.error.inj h)
    exact mem_inTurn_of_runJobs hjobs
  · cases h

/-- **Sessions one after the other are sessions that take turns**, unless one of them stops the
program. -/
theorem batchRuns_runBatch (c : Controller ε) (b : BatchSettings)
    (startedAt finishedAt : Timestamp) (jobs : List SessionJob) (w : World ε) :
    (∃ o, ((runBatch c b startedAt finishedAt jobs).run w).1 = .error (.overflow o)) ∨
      BatchRuns c b startedAt finishedAt jobs w
        ((runBatch c b startedAt finishedAt jobs).run w).1
        ((runBatch c b startedAt finishedAt jobs).run w).2 := by
  rcases claimAll_cases w.files [] jobs with hclaimed | ⟨job, -, hrefused⟩
  · rw [run_runBatch_eq c b startedAt finishedAt hclaimed]
    rcases hjobs : (runJobs c b jobs).run _ with ⟨o | sessions, u⟩
    · exact Or.inl ⟨o, rfl⟩
    · have hlimit := Nat.lt_of_lt_of_le Nat.zero_lt_one (Nat.le_max_left 1 b.workers)
      obtain ⟨pool, hreach, hended, hresults⟩ :=
        Pool.reaches_inTurn hlimit (jobs.map (jobSteps c b)) _
      rw [run_runJobs_eq_ok_iff.1 hjobs] at hreach hresults
      exact Or.inr (.ran hclaimed trivial hreach hended hresults rfl)
  · rw [run_runBatch_refused c b startedAt finishedAt hrefused]
    exact Or.inr (.refused hrefused)

/-- Two sessions that run into each other come to the end of their batch. -/
theorem exists_batchRuns_crossed {job other : SessionJob} (hworkers : 2 ≤ b.workers)
    (hclaimed : claimAll w.files [] [job, other] = .ok ()) (startedAt finishedAt : Timestamp)
    {m n : Nat} {first second : SessionReport}
    (hrun : (Pool.crossed m n (jobSteps c b job) (jobSteps c b other)).run
      (batchStart c b [job, other] w) = ((.ok first, .ok second), u)) :
    ∃ report v, BatchRuns c b startedAt finishedAt [job, other] w (.ok report) v ∧
      report.sessions = [first, second] ∧ v.files = u.files := by
  have hlimit : 2 ≤ max 1 b.workers := by omega
  obtain ⟨pool, hreach, hended, hresults⟩ :=
    Pool.reaches_crossed hlimit m n (jobSteps c b job)
      (jobSteps c b other) (batchStart c b [job, other] w)
  rw [hrun] at hreach hresults
  have hsessions : pool.results = [first, second].map .ok := hresults
  exact ⟨_, _, .ran hclaimed trivial hreach hended hsessions rfl,
    rfl, rfl⟩

end

end HarnessRepair
