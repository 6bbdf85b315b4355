import HarnessRepair.Proofs.Batch.Alike
import HarnessRepair.Proofs.Batch.Traceless
import HarnessRepair.Proofs.Session.Reports

/-!
# Sessions do not disturb each other

A session that takes turns with others ends as it does by itself, with the same report and the
same harness, however the others end.

## Main definitions

* `EndsAs` — a program that ends as it does by itself in a world of its own.
* `EachAlone` — sessions with their reports and harnesses as if each had run alone.

## Main results

* `jobSteps_alike` — **a job ends as it does by itself**, whatever turns the others take.
* `batch_isolates` — so do all sessions of a batch; and no batch shares a harness.
-/

namespace HarnessRepair

open Steps Session

variable {ε α β : Type}

/-! ### Programs -/

/-- A program ends as it does by itself in another world: with its answer, and with what it
leaves in a file. -/
def EndsAs (p : Steps ε α) (path : String) (v : World ε) (a : α) (u : World ε) : Prop :=
  a = (p.alone.run v).1 ∧ u.files.read path = (p.alone.run v).2.files.read path

namespace EndsAs

variable {path : String} {u v w : World ε}

/-- One step first, which answers the same. -/
theorem step_bind {rely guar : World ε → World ε → Prop} {m : Run ε β} {f : β → Steps ε α}
    (h : ∀ u, rely w u → guar u (m.run u).2 ∧ (m.run u).1 = (m.run v).1 ∧
      (f (m.run v).1).Ensures rely guar (EndsAs (f (m.run v).1) path (m.run v).2) (m.run u).2) :
    (step m >>= f).Ensures rely guar (EndsAs (step m >>= f) path v) w :=
  .step_bind fun u hu => by
    obtain ⟨hguar, heq, hrest⟩ := h u hu
    rw [heq]
    exact ⟨hguar, hrest⟩

/-- A program first, which has come to its answer. -/
theorem bind {p : Steps ε β} {f : β → Steps ε α} {x : β} {a : α} (hx : x = (p.alone.run v).1)
    (h : EndsAs (f x) path (p.alone.run v).2 a u) : EndsAs (p >>= f) path v a u := by
  rw [EndsAs, alone_bind, run_bind, ← hx]
  exact h

end EndsAs

/-! ### One job -/

section

variable {c : Controller ε} {b : BatchSettings} {jobs : List SessionJob} {i : Nat}
  {job : SessionJob} {fs start : FileSystem} {v w : World ε}

/-- One that is by itself takes care of its harness, and leaves the links alone. -/
theorem tends_alone (fs : FileSystem) (path : String) :
    Tends (fun w => Readable path w ∧ FileSystem.SameLinks fs w.files)
      (fun w w' : World ε => w = w') (fun _ _ => True) path where
  still _ _ _ := rfl
  readable _ := And.left
  stays _ _ heq hw := heq ▸ hw
  holds _ _ _ heq hw := heq ▸ hw
  tells _ _ hw := ⟨trivial, hw⟩
  writes _ text _ _ hw hwrite := ⟨trivial, ⟨text, FileSystem.readText_of_write hwrite⟩,
    hw.2.trans (FileSystem.builds_write hwrite).toSameLinks⟩

/-- In test mode a session ends the same in both worlds: what has been saved it does not see. -/
theorem endSteps_alike (hi : jobs[i]? = some job) (htest : b.testMode = true)
    (hsaves : ∀ other ∈ jobs, Unnoticed c.verifier fs other.target (b.copyPath job.target))
    {s : Session} (htarget : s.target = job.target) (hpath : s.store.path = job.target.harnessFile)
    (h : Alike c b jobs fs i job.target w v) (mode : RepairMode) (outcome : SessionOutcome) :
    (endSteps b mode s outcome).Ensures (Unseen c b jobs i) (UnseenByOthers c b jobs i)
      (EndsAs (endSteps b mode s outcome) job.target.harnessFile v) w := by
  rw [← htarget] at hsaves
  have hmine : Unnoticed c.verifier fs job.target (b.copyPath s.target) :=
    hsaves job (List.mem_of_getElem? hi)
  have hunseen : Tends (Owns c b jobs fs i job.target.harnessFile) (Unseen c b jobs i)
      (UnseenByOthers c b jobs i) s.store.path := by
    rw [hpath]
    exact tends_unseen hi
  have halone : Tends
      (fun w => Readable job.target.harnessFile w ∧ FileSystem.SameLinks fs w.files)
      (fun w w' : World ε => w = w') (fun _ _ => True) s.store.path := by
    rw [hpath]
    exact tends_alone fs _
  -- the text read at the start is what is left in both worlds
  have hshared := endSteps_restores htest hunseen .refl
    (fun dir hdir u files hu hmade => hu.of_hidden hi
      ⟨fun other hother => (hsaves other hother).makeDirs dir hdir _ _ (hu.links htest) hmade,
        fun _ => (FileSystem.furnishes_createDirAll hmade).builds.toSameLinks⟩)
    (fun u files hu hwrite => hu.of_hidden hi
      ⟨fun other hother => (hsaves other hother).write _ _ _ (hu.links htest) hwrite,
        fun _ => (FileSystem.builds_write hwrite).toSameLinks⟩) mode outcome h.owns
  have hown := endSteps_restores htest halone (fun _ => trivial)
    (fun dir hdir u files hu hmade =>
      ⟨trivial, (hmine.makeDirs dir hdir _ _ hu.2 hmade).readable hu.1,
        hu.2.trans (FileSystem.furnishes_createDirAll hmade).builds.toSameLinks⟩)
    (fun u files hu hwrite => ⟨trivial, (hmine.write _ _ _ hu.2 hwrite).readable hu.1,
      hu.2.trans (FileSystem.builds_write hwrite).toSameLinks⟩) mode outcome
    ⟨h.view.readable h.owns.readable, h.links htest⟩
  obtain ⟨⟨hreport, hholds⟩, -⟩ :=
    hown.alone (fun _ _ => rfl) (fun _ => trivial) fun _ _ _ _ _ => trivial
  refine hshared.imp fun r u hu => ⟨hu.1.trans hreport.symm, ?_⟩
  rw [← hpath]
  exact (FileSystem.readText_eq_ok_iff_read.1 hu.2).trans
    (FileSystem.readText_eq_ok_iff_read.1 hholds).symm

/-- A session whose store has just been set up ends the same in both worlds. -/
theorem sessionSteps_alike (hc : Independent c jobs start) (hd : Discreet c b jobs)
    (hi : jobs[i]? = some job)
    (hsaves : b.testMode = true →
      ∀ other ∈ jobs, Unnoticed c.verifier fs other.target (b.copyPath job.target))
    {s : Session} (htarget : s.target = job.target) (hpath : s.store.path = job.target.harnessFile)
    (hfree : s.store.inFlight = none) (hempty : s.ledger = [])
    (h : Alike c b jobs fs i job.target w v) :
    (sessionSteps c b s).Ensures (Unseen c b jobs i) (UnseenByOthers c b jobs i)
      (EndsAs (sessionSteps c b s) job.target.harnessFile v) w := by
  have hP : Permits (Indifferent c b jobs fs i job.target) c s.target :=
    htarget.symm ▸ permits_indifferent hc hd hi
  have hrun := ensures_of_within hi (Session.within_runSteps hP (hpath.trans (by rw [htarget]))
    hfree hempty) h
  rw [sessionSteps]
  refine hrun.bind (fun _ _ _ => .refl _) fun r u hu => ?_
  obtain ⟨hsound, hr, halike⟩ := hu
  obtain ⟨o | outcome, t⟩ := r
  · have hpath' : t.store.path = s.target.harnessFile :=
      hsound.develops.path_eq.trans (hpath.trans (by rw [htarget]))
    have hstops : (do t.store.closeSteps; return .error o :
        Steps ε (Except Overflow SessionReport)).Within (Indifferent c b jobs fs i job.target)
        fun _ => True :=
      (Session.within_closeSteps hP hpath').bind fun _ _ => .pure trivial
    refine (ensures_of_within hi hstops halike).imp fun a u' hend => .bind hr ?_
    exact ⟨hend.2.1, hend.2.2.view.harness.read.symm⟩
  · have hpath' : t.store.path = job.target.harnessFile := hsound.develops.path_eq.trans hpath
    by_cases htest : b.testMode = true
    · exact (endSteps_alike hi htest (hsaves htest) (hsound.target_eq.trans htarget) hpath' halike
        c.mode outcome).imp fun a u' hend => .bind hr hend
    · refine (ensures_of_within hi (Session.within_endSteps hP (by simpa using htest)
        (hpath'.trans (by rw [htarget])) outcome) halike).imp fun a u' hend => .bind hr ?_
      exact ⟨hend.2.1, hend.2.2.view.harness.read.symm⟩

/-- **A job ends as it does by itself**, whatever turns the others take: with its report, and
with what it leaves in its harness. -/
theorem jobSteps_alike (hc : Independent c jobs start) (hd : Discreet c b jobs)
    (hi : jobs[i]? = some job)
    (hsaves : b.testMode = true →
      ∀ other ∈ jobs, Unnoticed c.verifier fs other.target (b.copyPath job.target))
    (hview : SameView c.verifier job.target w.files v.files)
    (hlinks : b.testMode = true → FileSystem.SameLinks fs v.files)
    (howns : Readable job.target.harnessFile w → Owns c b jobs fs i job.target.harnessFile w) :
    (jobSteps c b job).Ensures (Unseen c b jobs i) (UnseenByOthers c b jobs i)
      (EndsAs (jobSteps c b job) job.target.harnessFile v) w := by
  have hmem := List.mem_of_getElem? hi
  have htold : ∀ (u : World ε) (told : List LogEvent),
      UnseenByOthers c b jobs i u { u with events := u.events ++ told } :=
    fun _ _ => .of_hidden (.of_files_eq rfl)
  rw [jobSteps]
  refine EndsAs.step_bind fun u hu => ?_
  have hview₁ : SameView c.verifier job.target u.files v.files := (hu.2 job hi).symm.trans hview
  rw [PatchStore.run_openFile, PatchStore.run_openFile, hview₁.harness.readText_eq]
  cases hopen : u.files.readText job.target.harnessFile with
  | error e =>
    refine ⟨.refl u, rfl, EndsAs.step_bind fun u₁ hu₁ =>
      ⟨htold u₁ _, rfl, .pure fun u₂ hu₂ => ⟨rfl, ?_⟩⟩⟩
    exact ((hu₂.2 job hi).harness.read.trans (hu₁.2 job hi).harness.read).trans
      hview₁.harness.read.symm
  | ok text =>
    have hread : Readable job.target.harnessFile u := ⟨text, hopen⟩
    have halike : Alike c b jobs fs i job.target u v :=
      ⟨hview₁, (howns (hu.1.appears job hmem hread)).of_calm hi hu.1 hread, hlinks⟩
    refine ⟨.refl u, rfl, EndsAs.step_bind fun u₁ hu₁ => ?_⟩
    obtain ⟨hguar, heq, halike'⟩ := (permits_indifferent hc hd hi).clerical (clerical_stripFor job
      (.ofText job.target.harnessFile text b.policy)) u₁ v (halike.unseen hi hu₁)
    refine ⟨hguar, heq, ?_⟩
    rcases stripFor_cases job job.target.harnessFile text b.policy v with
      ⟨removed, v₁, hrun⟩ | ⟨e, v₁, hrun, -⟩
    · rw [hrun] at halike' ⊢
      exact sessionSteps_alike hc hd hi hsaves rfl rfl rfl rfl halike'
    · rw [hrun] at halike' ⊢
      have hidle : (PatchStore.closeSteps (.ofText job.target.harnessFile text b.policy) :
          Steps ε Unit) = pure () := PatchStore.closeSteps_idle rfl rfl
      dsimp only
      rw [hidle]
      exact .pure fun u₂ hu₂ => ⟨rfl, (halike'.unseen hi hu₂).view.harness.read.symm⟩

end

/-! ### A batch -/

/-- Every session has the report, and every harness the content, that running the job alone
would have come to. -/
structure EachAlone (c : Controller ε) (b : BatchSettings) (jobs : List SessionJob) (w : World ε)
    (report : AggregateReport) (u : World ε) : Prop where
  sessions : report.sessions.map .ok = jobs.map fun job => ((runJob c b job).run w).1
  harnesses : ∀ job ∈ jobs, u.files.read job.target.harnessFile =
    ((runJob c b job).run w).2.files.read job.target.harnessFile

section

variable {c : Controller ε} {b : BatchSettings} {jobs : List SessionJob} {u v w : World ε}

/-- Sessions whose harnesses are claimed can write them without anybody seeing it. -/
theorem owns_of_claimAll (hclaimed : claimAll w.files [] jobs = .ok ())
    (hc : Independent c jobs w.files) {i : Nat} {job : SessionJob} (hi : jobs[i]? = some job)
    (hread : Readable job.target.harnessFile w) :
    Owns c b jobs w.files i job.target.harnessFile w := by
  obtain ⟨text, htext⟩ := hread
  obtain ⟨p, hp⟩ := FileSystem.exists_place?_of_read (FileSystem.readText_eq_ok_iff_read.1 htext)
  refine ⟨⟨text, htext⟩, fun k hk other hother hread' => ?_,
    fun k hk other hother file hfile source hsource => ?_, fun _ => .refl _⟩
  · obtain ⟨text', htext'⟩ := hread'
    obtain ⟨q, hq⟩ :=
      FileSystem.exists_place?_of_read (FileSystem.readText_eq_ok_iff_read.1 htext')
    exact apart_of_claimAll hclaimed hother hi hk hq hp
  · obtain ⟨-, x, hx⟩ := read_of_sourceOf? hsource
    obtain ⟨q, hq⟩ := FileSystem.exists_place?_of_read hx
    refine apart_of_place_ne hq hp fun heq => ?_
    exact hc.located k i other job hother hi hk file hfile source hsource (by rw [hp, hq, heq])

/-- Jobs that take turns end as each does alone. -/
theorem pool_alone (hclaimed : claimAll v.files [] jobs = .ok ())
    (hc : Independent c jobs v.files) (hd : Discreet c b jobs)
    (hsaves : b.testMode = true → ∀ job ∈ jobs, ∀ other ∈ jobs,
      Unnoticed c.verifier v.files other.target (b.copyPath job.target))
    (hfiles : w.files = v.files) {limit : Nat} {pool : Pool ε (Except Overflow SessionReport)}
    (hreach : Pool.Reaches limit Pool.Anywhere (.start (jobs.map (jobSteps c b)), w) (pool, u))
    (hended : pool.Ended) :
    (pool.results = jobs.map fun job => ((runJob c b job).run v).1) ∧
      ∀ job ∈ jobs, u.files.read job.target.harnessFile =
        ((runJob c b job).run v).2.files.read job.target.harnessFile := by
  have hall : ∀ (i : Nat) (job : SessionJob), jobs[i]? = some job →
      (jobSteps c b job).Ensures (Unseen c b jobs i) (UnseenByOthers c b jobs i)
        (EndsAs (jobSteps c b job) job.target.harnessFile v) w := by
    intro i job hi
    have hview : SameView c.verifier job.target w.files v.files := hfiles ▸ .refl _ _ _
    rw [← hfiles] at hclaimed hc hsaves
    exact jobSteps_alike hc hd hi (fun htest => hsaves htest job (List.mem_of_getElem? hi)) hview
      (fun _ => hfiles ▸ .refl _) (owns_of_claimAll hclaimed hc hi)
  have hends : List.Forall₂ (fun job r => u.files.read job.target.harnessFile =
      ((runJob c b job).run v).2.files.read job.target.harnessFile ∧
        ((runJob c b job).run v).1 = r) jobs pool.results := by
    refine (hreach.results_map (compatible_unseen c b jobs _) trivial hall hended).imp
      fun job r hr => ?_
    rw [EndsAs, alone_jobSteps] at hr
    exact ⟨hr.2, hr.1.symm⟩
  obtain ⟨hharnesses, hresults⟩ := (List.forall₂_and_left ..).1 hends
  have hsame : List.Forall₂ (· = ·) (jobs.map fun job => ((runJob c b job).run v).1)
      pool.results := List.forall₂_map_left_iff.2 hresults
  rw [List.forall₂_eq_eq_eq] at hsame
  exact ⟨hsame.symm, hharnesses⟩

/-- **Sessions do not disturb each other.**  A batch two of whose jobs name one file that is
there, under whatever spellings, is refused before anything is done.  In a batch that is not
refused every session comes to the report that running its job alone comes to, and every harness
to the content, in the order of the jobs, however many sessions run at a time and whoever takes
which turn: if verifier and oracle answer every session for itself and leave no traces where a
session looks, no finding of one is in the harness of another, and saving a copy, with the
directories that are made for it, changes nothing that a session sees.  Sessions one after the
other are stopped only if one of the jobs is when it is run alone. -/
theorem batch_isolates (c : Controller ε) (b : BatchSettings) (startedAt finishedAt : Timestamp)
    (jobs : List SessionJob) (w : World ε) :
    (∀ (i k : Nat) (job other : SessionJob) (p : Place), jobs[i]? = some job →
      jobs[k]? = some other → i ≠ k → w.files.place? job.target.harnessFile = some p →
      w.files.place? other.target.harnessFile = some p →
      ∃ named ∈ jobs,
        (runBatch c b startedAt finishedAt jobs).run w =
          (.error (.configuration (.duplicateHarness named.target.harnessFile)), w) ∧
        ∀ r u, BatchRuns c b startedAt finishedAt jobs w r u →
          r = .error (.configuration (.duplicateHarness named.target.harnessFile)) ∧ u = w) ∧
    (claimAll w.files [] jobs = .ok () → Independent c jobs w.files → Discreet c b jobs →
      (b.testMode = true → ∀ job ∈ jobs, ∀ other ∈ jobs,
        Unnoticed c.verifier w.files other.target (b.copyPath job.target)) →
      ((∃ report u, (runBatch c b startedAt finishedAt jobs).run w = (.ok report, u) ∧
          EachAlone c b jobs w report u) ∨
        ∃ o u, (runBatch c b startedAt finishedAt jobs).run w = (.error (.overflow o), u) ∧
          ∃ job ∈ jobs, ((runJob c b job).run w).1 = .error o) ∧
      ∀ r u, BatchRuns c b startedAt finishedAt jobs w r u →
        ∃ report, r = .ok report ∧ EachAlone c b jobs w report u) := by
  refine ⟨fun i k job other p hi hk hne hp hq => ?_, fun hclaimed hc hd hsaves => ?_⟩
  · obtain ⟨named, hnamed, hrefused⟩ := claimAll_of_place hi hk hne hp hq
    refine ⟨named, hnamed, run_runBatch_refused c b startedAt finishedAt hrefused,
      fun r u hruns => ?_⟩
    cases hruns with
    | refused h =>
      rw [Except.error.inj (h.symm.trans hrefused)]
      exact ⟨rfl, rfl⟩
    | ran hclaimed => cases hclaimed.symm.trans hrefused
  · have hall : ∀ r u, BatchRuns c b startedAt finishedAt jobs w r u →
        ∃ report, r = .ok report ∧ EachAlone c b jobs w report u := by
      intro r u hruns
      cases hruns with
      | refused h => cases hclaimed.symm.trans h
      | @ran pool sessions report u _ _ hreach hended hresults hreport =>
        subst hreport
        obtain ⟨halone, hharnesses⟩ := pool_alone hclaimed hc hd hsaves
          (files_batchStart c b jobs w) hreach hended
        exact ⟨_, rfl, hresults.symm.trans halone, hharnesses⟩
    refine ⟨?_, hall⟩
    rcases batchRuns_runBatch c b startedAt finishedAt jobs w with ⟨o, hstopped⟩ | hruns
    · refine Or.inr ⟨o, _, Prod.ext hstopped rfl, ?_⟩
      -- all jobs in turn, though one of them is stopped
      obtain ⟨pool, hreach, hended, hresults⟩ := Pool.reaches_inTurn Nat.zero_lt_one
        (jobs.map (jobSteps c b)) (batchStart c b jobs w)
      obtain ⟨halone, -⟩ := pool_alone hclaimed hc hd hsaves (files_batchStart c b jobs w) hreach
        hended
      have hmem := mem_inTurn_of_overflow hclaimed hstopped
      rw [← hresults, halone] at hmem
      exact List.mem_map.1 hmem
    · obtain ⟨report, hreport, halone⟩ := hall _ _ hruns
      exact Or.inl ⟨report, _, Prod.ext hreport rfl, halone⟩

end

/-! ### Twins -/

theorem run_hesitantVerifier_eq (target : HarnessTarget) (w : World (List Call)) :
    ((hesitantController.verifier.run target).run w).1 =
      .ok (if Text.contains ((w.files.readText target.harnessFile).toOption.getD "") "n != 3"
        then cleanReport else oneReport) := rfl

/-- It reports in one file only. -/
theorem eq_of_shows_hesitant {target : HarnessTarget} {file : String}
    (h : hesitantController.verifier.Shows target file) : file = "f" := by
  obtain ⟨⟨w, report, hread, f, hf, rfl⟩, -⟩ := h
  rw [run_hesitantVerifier_eq] at hread
  split at hread
  · rw [reading, readReport_nil (by decide +kernel) rfl] at hread
    obtain rfl := Except.ok.inj hread
    cases hf
  · rw [reading_oneReport] at hread
    obtain rfl := Except.ok.inj hread
    rw [List.mem_singleton.1 hf]
    rfl

/-- The hesitant controller is independent, where the file of its finding is no harness. -/
theorem independent_hesitant {jobs : List SessionJob} {fs : FileSystem}
    (h : ∀ job ∈ jobs, ∀ other ∈ jobs, ∀ source, sourceOf? fs job.target "f" = some source →
      fs.place? source ≠ fs.place? other.target.harnessFile) :
    Independent hesitantController jobs fs where
  verifies job _ v w hread := by
    rw [run_hesitantVerifier_eq, run_hesitantVerifier_eq, FileSystem.readText_congr hread]
  proposes _ _ _ := rfl
  located i k job other hi hk _ file hfile source hsource := by
    obtain rfl := eq_of_shows_hesitant hfile
    exact h job (List.mem_of_getElem? hi) other (List.mem_of_getElem? hk) source hsource

/-- It changes no file. -/
theorem discreet_hesitant (b : BatchSettings) (jobs : List SessionJob) :
    Discreet hesitantController b jobs where
  verifier _ _ _ := .of_files_eq rfl
  oracle _ _ := .of_files_eq rfl

/-- Two jobs on harnesses of one name. -/
def twins : List SessionJob :=
  [{ target := ⟨"a", "a/harness.c", "parse", ".", none⟩ },
    { target := ⟨"b", "b/harness.c", "parse", ".", none⟩ }]

/-- The first of them again, under another spelling. -/
def shadow : SessionJob := { target := ⟨"c", "/work/b/../a/./harness.c", "parse", ".", none⟩ }

/-- Both hold the small harness, and the file of the finding is there. -/
def twinStart : World (List Call) where
  files := [(["work"], Node.dir), (["work", "a"], .dir),
    (["work", "a", "harness.c"], .file (.text smallHarness)), (["work", "b"], .dir),
    (["work", "b", "harness.c"], .file (.text smallHarness)),
    (["work", "f"], .file (.text "x"))].foldl (fun fs (place, n) => fs.put place n)
      { workingDir := ["work"] }
  events := []
  outside := []

/-- A job on the small harness is repaired. -/
theorem run_runJob_hesitant (b : BatchSettings) {job : SessionJob} {w : World (List Call)}
    (hlines : job.linesToRemove = [])
    (helsewhere : oneFinding.location.isIn job.target.harnessFile = false)
    (h : Holds job.target.harnessFile smallHarness w) :
    ∃ report, ((runJob hesitantController b job).run w).1 = .ok report ∧
      report.preconditionsAdded = ["assume(n != 3);"] := by
  have hopen : w.files.readText job.target.harnessFile = .ok smallHarness := h
  have hstrip : (stripFor job (.ofText job.target.harnessFile smallHarness b.policy)).run w =
      ((.ok [], .ofText job.target.harnessFile smallHarness b.policy), w) := by
    rw [stripFor, hlines]
    rfl
  obtain ⟨p, v₁, v₂, t, u, hhesitated⟩ := Session.exists_hesitated
    (s := { target := job.target
            store := .ofText job.target.harnessFile smallHarness b.policy })
    (w := w) ⟨rfl, helsewhere, rfl, rfl, rfl, h⟩
  refine ⟨t.report hesitantController.mode ⟨.clean, none⟩, ?_, ?_⟩
  · rw [runJob, run_bind, PatchStore.run_openFile, hopen]
    dsimp only
    rw [run_bind, hstrip]
    exact fst_runSession b hhesitated.run_eq
  · have hadded : (t.report hesitantController.mode ⟨.clean, none⟩).preconditionsAdded =
        (t.store.current.log.map (·.patch)).map fun p => Text.trim p.statement := by
      rw [List.map_map]
      rfl
    rw [hadded, hhesitated.kept]
    decide +kernel

theorem batch_isolates_twins :
    (∃ named ∈ shadow :: twins,
      (runBatch hesitantController smallSettings .epoch .epoch (shadow :: twins)).run twinStart =
        (.error (.configuration (.duplicateHarness named.target.harnessFile)), twinStart)) ∧
    ∃ report u, (runBatch hesitantController smallSettings .epoch .epoch twins).run twinStart =
      (.ok report, u) ∧ EachAlone hesitantController smallSettings twins twinStart report u ∧
      report.sessions.map (·.preconditionsAdded) = [["assume(n != 3);"], ["assume(n != 3);"]] := by
  have hlinkless : twinStart.files.Linkless := FileSystem.linkless_of_entries (by decide +kernel)
  have hsaves : ∀ job ∈ twins, ∀ other ∈ twins, ∀ p ∈ other.target.harnessFile ::
      seenPaths other.target "f", Aside p (smallSettings.copyPath job.target) ∧
        ∀ dir ∈ Path.parent? (smallSettings.copyPath job.target), ∀ a ∈ Path.ancestors dir,
          a.isEmpty = true ∨ Aside p a := by
    decide +kernel
  have hlocated : ∀ job ∈ twins, ∀ other ∈ twins,
      ∀ source ∈ sourceOf? twinStart.files job.target "f",
        twinStart.files.place? source ≠ twinStart.files.place? other.target.harnessFile := by
    decide +kernel
  have hrepaired : ∀ job ∈ twins, ∃ report,
      ((runJob hesitantController smallSettings job).run twinStart).1 = .ok report ∧
        report.preconditionsAdded = ["assume(n != 3);"] := by
    have hthere : ∀ job ∈ twins, job.linesToRemove = [] ∧
        oneFinding.location.isIn job.target.harnessFile = false ∧
        Holds job.target.harnessFile smallHarness twinStart := by
      decide +kernel
    intro job hjob
    obtain ⟨hlines, helsewhere, hholds⟩ := hthere job hjob
    exact run_runJob_hesitant smallSettings hlines helsewhere hholds
  constructor
  · obtain ⟨named, hnamed, hrun, -⟩ := (batch_isolates hesitantController smallSettings
      .epoch .epoch (shadow :: twins) twinStart).1 0 1 _ _ ["work", "a", "harness.c"] rfl rfl
      (by decide) (by decide +kernel) (by decide +kernel)
    exact ⟨named, hnamed, hrun⟩
  · obtain ⟨⟨report, u, hrun, halone⟩ | ⟨o, u, hrun, job, hjob, hstopped⟩, -⟩ :=
      (batch_isolates hesitantController smallSettings .epoch .epoch twins twinStart).2
      (by decide +kernel) (independent_hesitant hlocated) (discreet_hesitant _ _)
      fun _ job hjob other hother => unnoticed_of_aside hlinkless fun p hp => by
        refine hsaves job hjob other hother p (List.mem_cons.2 (hp.imp id ?_))
        rintro ⟨file, hfile, hseen⟩
        exact eq_of_shows_hesitant hfile ▸ hseen
    · refine ⟨report, u, hrun, halone, ?_⟩
      obtain ⟨first, hfirst, hadded⟩ := hrepaired _ List.mem_cons_self
      obtain ⟨second, hsecond, hadded'⟩ :=
        hrepaired _ (List.mem_cons_of_mem _ List.mem_cons_self)
      have hreports : (report.sessions.map .ok : List (Except Overflow SessionReport)) =
          [first, second].map .ok := by
        rw [halone.sessions]
        exact congrArg₂ (fun r r' => [r, r']) hfirst hsecond
      rw [List.map_injective_iff.2 (fun _ _ => Except.ok.inj) hreports, List.map_cons,
        List.map_cons, List.map_nil, hadded, hadded']
    · obtain ⟨report, hreport, -⟩ := hrepaired job hjob
      cases hstopped.symm.trans hreport

/-! ### Less is not enough -/

/-- A meddler reports nothing. -/
theorem not_shows_meddler {paths : List String}
    {op : HarnessTarget → FileSystem → Except IoError FileSystem} {target : HarnessTarget}
    {file : String} : ¬ (meddler paths op).verifier.Shows target file := by
  rintro ⟨⟨w, report, hread, f, hf, -⟩, -⟩
  rw [run_meddler, reading, readReport_nil (by decide +kernel) rfl] at hread
  obtain rfl := Except.ok.inj hread
  cases hf

/-- It answers every session for itself. -/
theorem independent_meddler (paths : List String)
    (op : HarnessTarget → FileSystem → Except IoError FileSystem) (jobs : List SessionJob)
    (fs : FileSystem) : Independent (meddler paths op) jobs fs where
  verifies _ _ _ _ _ := rfl
  proposes _ _ _ := rfl
  located _ _ _ _ _ _ _ _ hfile := absurd hfile not_shows_meddler

/-- What it shows of the files are the harnesses. -/
theorem sameView_meddler {paths : List String}
    {op : HarnessTarget → FileSystem → Except IoError FileSystem} {target : HarnessTarget}
    {fs fs' : FileSystem} (h : SameFile target.harnessFile fs fs') :
    SameView (meddler paths op).verifier target fs fs' :=
  ⟨h, fun _ hfile => absurd hfile not_shows_meddler, fun _ hfile => absurd hfile not_shows_meddler⟩

/-- Its session notices nothing that is saved aside of its harness. -/
theorem unnoticed_meddler {paths : List String}
    {op : HarnessTarget → FileSystem → Except IoError FileSystem} {target : HarnessTarget}
    {fs : FileSystem} {path : String} (hno : fs.Linkless) (haside : Aside target.harnessFile path)
    (hdirs : ∀ dir ∈ Path.parent? path, ∀ a ∈ Path.ancestors dir,
      a.isEmpty = true ∨ Aside target.harnessFile a) :
    Unnoticed (meddler paths op).verifier fs target path := by
  refine unnoticed_of_aside hno fun p hp => ?_
  obtain rfl | ⟨file, hfile, -⟩ := hp
  · exact ⟨haside, hdirs⟩
  · exact absurd hfile not_shows_meddler

theorem discreet_idleController (b : BatchSettings) (jobs : List SessionJob) :
    Discreet idleController b jobs where
  verifier _ _ _ := .of_files_eq rfl
  oracle _ _ := .of_files_eq rfl

/-- A verifier that writes over the harness of the second job, whatever it is run on. -/
def overwritingController : Controller Unit :=
  meddler [] fun _ fs => fs.write "b/harness.c" "x"

/-- Two jobs, the second with a way to its harness that leads through a directory for copies. -/
def openingJobs : List SessionJob :=
  [{ target := ⟨"x", "a.c", "parse", ".", none⟩ },
    { target := ⟨"y", "results/x/../../h.c", "parse", ".", none⟩ }]

/-- Their harnesses, and no copies yet. -/
def openingStart : World Unit where
  files := (FileSystem.put {} ["a.c"] (.file (.text "x"))).put ["h.c"] (.file (.text "x"))
  events := []
  outside := ()

/-- The copy of the first harness opens the way to the second, which by itself would not have
been found. -/
theorem not_eachAlone_opening {report : AggregateReport} {u : World Unit}
    (hrun : (runBatch idleController smallSettings .epoch .epoch openingJobs).run openingStart =
      (.ok report, u)) :
    ¬ EachAlone idleController smallSettings openingJobs openingStart report u := by
  intro halone
  -- the verifier is run in both sessions of the batch, and in one of the jobs alone
  have hruns : ((runBatch idleController smallSettings .epoch .epoch openingJobs).run
      openingStart).1.map (fun report => report.sessions.map (·.verifierRuns)) = .ok [1, 1] := by
    decide +kernel
  have hruns' : (openingJobs.map fun job =>
      ((runJob idleController smallSettings job).run openingStart).1.map (·.verifierRuns)) =
        [.ok 1, .ok 0] := by
    decide +kernel
  rw [hrun] at hruns
  have hsame := congrArg (List.map fun r : Except Overflow SessionReport =>
    r.map (·.verifierRuns)) halone.sessions
  rw [List.map_map, List.map_map] at hsame
  have hmap : (report.sessions.map (·.verifierRuns)).map (fun n => (.ok n : Except Overflow _)) =
      [.ok 1, .ok 0] := by
    rw [List.map_map]
    exact hsame.trans hruns'
  have hruns₁ : report.sessions.map (·.verifierRuns) = [1, 1] := Except.ok.inj hruns
  rw [hruns₁] at hmap
  exact absurd hmap (by decide)

/-- A harness that ends otherwise than by itself. -/
theorem not_eachAlone_of_holds {c : Controller ε} {b : BatchSettings} {jobs : List SessionJob}
    {w u : World ε} {report : AggregateReport} {job : SessionJob} {text text' : String}
    (hjob : job ∈ jobs) (h : Holds job.target.harnessFile text u)
    (h' : Holds job.target.harnessFile text' ((runJob c b job).run w).2) (hne : text ≠ text') :
    ¬ EachAlone c b jobs w report u := by
  intro halone
  have hsame := FileSystem.readText_congr (halone.harnesses job hjob)
  exact hne (Except.ok.inj (h.symm.trans (hsame.trans h')))

/-- **Less is not enough.**  Copies that are put nowhere where a harness is do not keep sessions
apart: the directories that are made for one can open the way to a harness.  It is not enough
that a verifier answers every session for itself, if it writes where another looks; nor, in test
mode, that no session sees what it does, if it makes links. -/
theorem not_isolated_of_less :
    (¬∀ (c : Controller Unit) (b : BatchSettings) (startedAt finishedAt : Timestamp)
      (jobs : List SessionJob) (w : World Unit),
      claimAll w.files [] jobs = .ok () → Independent c jobs w.files → Discreet c b jobs →
      (∀ job ∈ jobs, ∀ other ∈ jobs,
        w.files.Apart other.target.harnessFile (b.copyPath job.target)) →
      ∀ report u, (runBatch c b startedAt finishedAt jobs).run w = (.ok report, u) →
        EachAlone c b jobs w report u) ∧
    (¬∀ (c : Controller Unit) (b : BatchSettings) (startedAt finishedAt : Timestamp)
      (jobs : List SessionJob) (w : World Unit),
      claimAll w.files [] jobs = .ok () → Independent c jobs w.files →
      (∀ job ∈ jobs, ∀ other ∈ jobs,
        Unnoticed c.verifier w.files other.target (b.copyPath job.target)) →
      ∀ report u, (runBatch c b startedAt finishedAt jobs).run w = (.ok report, u) →
        EachAlone c b jobs w report u) ∧
    ¬∀ (c : Controller Unit) (b : BatchSettings) (startedAt finishedAt : Timestamp)
      (jobs : List SessionJob) (w : World Unit),
      claimAll w.files [] jobs = .ok () → Independent c jobs w.files →
      (∀ job ∈ jobs, ∀ v : World Unit, ∀ other ∈ jobs,
        SameView c.verifier other.target v.files ((c.verifier.run job.target).run v).2.files) →
      (∀ (request : RepairRequest) (v : World Unit), ∀ job ∈ jobs,
        SameView c.verifier job.target v.files ((c.oracle.propose request).run v).2.files) →
      (∀ job ∈ jobs, ∀ other ∈ jobs,
        Unnoticed c.verifier w.files other.target (b.copyPath job.target)) →
      ∀ report u, (runBatch c b startedAt finishedAt jobs).run w = (.ok report, u) →
        EachAlone c b jobs w report u := by
  have hlinkless : twoStart.files.Linkless := FileSystem.linkless_of_entries (by decide +kernel)
  have haside : ∀ jobs ∈ [twoJobs, crossJobs], ∀ job ∈ jobs, ∀ other ∈ jobs,
      Aside other.target.harnessFile (smallSettings.copyPath job.target) ∧
        ∀ dir ∈ Path.parent? (smallSettings.copyPath job.target), ∀ a ∈ Path.ancestors dir,
          a.isEmpty = true ∨ Aside other.target.harnessFile a := by
    decide +kernel
  refine ⟨fun h => ?_, fun h => ?_, fun h => ?_⟩
  · have hdone : ((runBatch idleController smallSettings .epoch .epoch openingJobs).run
        openingStart).1.isOk = true := by decide +kernel
    obtain ⟨report, u, hrun⟩ := exists_of_isOk hdone
    exact not_eachAlone_opening hrun (h idleController smallSettings .epoch .epoch openingJobs
      openingStart (by decide +kernel) (independent_meddler ..) (discreet_idleController ..)
      (by decide +kernel) report u hrun)
  · have hdone : ((runBatch overwritingController smallSettings .epoch .epoch twoJobs).run
        twoStart).1.isOk = true := by decide +kernel
    have hbatch : Holds "b/harness.c" "x" ((runBatch overwritingController smallSettings .epoch
        .epoch twoJobs).run twoStart).2 := by decide +kernel
    obtain ⟨report, u, hrun⟩ := exists_of_isOk hdone
    rw [hrun] at hbatch
    have hmem : twoJobs[1] ∈ twoJobs := List.getElem_mem _
    have halone : Holds "b/harness.c" "z"
        ((runJob overwritingController smallSettings twoJobs[1]).run twoStart).2 := by
      decide +kernel
    refine not_eachAlone_of_holds hmem hbatch halone (by decide) (h overwritingController
      smallSettings .epoch .epoch twoJobs twoStart (by decide +kernel) (independent_meddler ..)
      (fun job hjob other hother => ?_) report u hrun)
    obtain ⟨hharness, hdirs⟩ := haside _ List.mem_cons_self job hjob other hother
    exact unnoticed_meddler hlinkless hharness hdirs
  · have hdone : ((runBatch linkingController smallSettings .epoch .epoch crossJobs).run
        twoStart).1.isOk = true := by decide +kernel
    have hbatch : Holds "b/harness.c" "x\ny" ((runBatch linkingController smallSettings .epoch
        .epoch crossJobs).run twoStart).2 := by decide +kernel
    obtain ⟨report, u, hrun⟩ := exists_of_isOk hdone
    rw [hrun] at hbatch
    have hmem : crossJobs[1] ∈ crossJobs := List.getElem_mem _
    have halone : Holds "b/harness.c" "z"
        ((runJob linkingController smallSettings crossJobs[1]).run twoStart).2 := by
      decide +kernel
    refine not_eachAlone_of_holds hmem hbatch halone (by decide) (h linkingController
      smallSettings .epoch .epoch crossJobs twoStart (by decide +kernel) (independent_meddler ..)
      (fun job _ v other hother => ?_) (fun _ _ _ _ => .refl _ _ _)
      (fun job hjob other hother => ?_) report u hrun)
    · refine sameView_meddler ?_
      rw [linkingController, run_meddler]
      rcases run_sparing_cases (harnessPaths crossJobs) _ v with heq | ⟨files, -, hsame, heq⟩
      · rw [heq]
        exact .refl _ _
      · rw [heq]
        have hspared := hsame _ (List.mem_map.2 ⟨other, hother, rfl⟩)
        exact ⟨hspared.1, hspared.2⟩
    · obtain ⟨hharness, hdirs⟩ :=
        haside _ (List.mem_cons_of_mem _ List.mem_cons_self) job hjob other hother
      exact unnoticed_meddler hlinkless hharness hdirs

end HarnessRepair
