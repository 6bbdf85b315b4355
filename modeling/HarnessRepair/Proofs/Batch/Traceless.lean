import HarnessRepair.Proofs.Batch.Interleaving
import HarnessRepair.Proofs.Batch.Restoration
import HarnessRepair.Proofs.Session.Course
import HarnessRepair.Proofs.Verifier.Clean

/-!
# Test mode leaves no trace

In test mode every harness gets its text back, however its session ends, and what the session
made of it is saved as a copy.  A session does to the files that others care for no more than to
put a copy where none of them is, and to write its own harness over; and the last that it writes
there is the text that it has read.

## Main definitions

* `Watch`, `Watch.Stays` — what is watched of the files, and that it stays as it is.
* `Saved` — the copy of a harness is what the report on its session says.
* `Beside` — what a job does to files that are watched.
* `Traceless` — what a batch in test mode leaves.

## Main results

* `jobSteps_traceless` — **what a job in test mode leaves**, whatever the others do.
* `testMode_traceless` — so does a batch, with its sessions in turn or side by side.
* `not_traceless_of_less` — and what it takes for that.
-/

namespace HarnessRepair

open Steps

variable {ε : Type}

/-! ### What is left alone -/

/-- What is watched of the files. -/
structure Watch where
  /-- Files that stay as they are. -/
  files : List String
  /-- Paths that lead where they led. -/
  ways : List String
  /-- Files for which the directory stays. -/
  rooms : List String

/-- What is watched stays as it is. -/
structure Watch.Stays (W : Watch) (w w' : World ε) : Prop where
  keeps : ∀ q ∈ W.files, Keeps q w w'
  leads : ∀ q ∈ W.ways, w'.files.leadsTo? q = w.files.leadsTo? q
  houses : ∀ q ∈ W.rooms, Houses q w w'

theorem Watch.Stays.of_files_eq {W : Watch} {w w' : World ε} (h : w.files = w'.files) :
    W.Stays w w' where
  keeps _ _ := .of_files_eq h
  leads _ _ := by rw [h]
  houses _ _ := fun _ _ hd => by rwa [← h]

/-- Verifier and oracle leave alone what is watched. -/
structure Controller.Leaves (c : Controller ε) (W : Watch) : Prop where
  verifier : ∀ target w, W.Stays w ((c.verifier.run target).run w).2
  oracle : ∀ request w, W.Stays w ((c.oracle.propose request).run w).2

/-- The harness files of some jobs. -/
def harnessPaths (jobs : List SessionJob) : List String := jobs.map (·.target.harnessFile)

/-- The copies that are saved of them. -/
def copyPaths (b : BatchSettings) (jobs : List SessionJob) : List String :=
  jobs.map fun job => b.copyPath job.target

/-- All harnesses, and the paths to them and to the copies. -/
def harnessWatch (b : BatchSettings) (jobs : List SessionJob) : Watch :=
  ⟨harnessPaths jobs, harnessPaths jobs ++ copyPaths b jobs, []⟩

/-- All copies, and the directories for them. -/
def copyWatch (b : BatchSettings) (jobs : List SessionJob) : Watch :=
  ⟨copyPaths b jobs, [], copyPaths b jobs⟩

/-- What two watch, together. -/
def Watch.and (W W' : Watch) : Watch :=
  ⟨W.files ++ W'.files, W.ways ++ W'.ways, W.rooms ++ W'.rooms⟩

theorem Controller.Leaves.and {c : Controller ε} {W W' : Watch} (h : c.Leaves W)
    (h' : c.Leaves W') : c.Leaves (W.and W') := by
  have hstays : ∀ {w w' : World ε}, W.Stays w w' → W'.Stays w w' → (W.and W').Stays w w' :=
    fun hs hs' => ⟨List.forall_mem_append.2 ⟨hs.keeps, hs'.keeps⟩,
      List.forall_mem_append.2 ⟨hs.leads, hs'.leads⟩,
      List.forall_mem_append.2 ⟨hs.houses, hs'.houses⟩⟩
  exact ⟨fun target w => hstays (h.verifier target w) (h'.verifier target w),
    fun request w => hstays (h.oracle request w) (h'.oracle request w)⟩

/-- What is left of a session in test mode that started in the world `w`: nothing, if it never
got past setup, since the harness held no text or has no line of some number to strip; or else a
copy that holds the text read at the start, less the stripped lines, with the changes whose
statements are reported. -/
inductive Saved (b : BatchSettings) (mode : RepairMode) (job : SessionJob) (w : World ε)
    (r : SessionReport) (u : World ε) : Prop
  | unopened {reason : String}
      (report_eq : r = .setupBlocked job.target.name job.target.harnessFile mode reason)
      (why : (∀ text, ¬ Holds job.target.harnessFile text w) ∨
        ∃ text, (∀ c, w.files.read job.target.harnessFile = .ok c → c = .text text) ∧
          ∃ n ∈ job.linesToRemove, OutOfRange (Text.terminated text.toList) n)
  | opened {text : String} {changes : List (List Patch)} {final : Snapshot}
      (read : ∀ c, w.files.read job.target.harnessFile = .ok c → c = .text text)
      (grown : Grown { source := withoutLines text job.linesToRemove } changes final)
      (added : r.preconditionsAdded = changes.flatten.map fun p => Text.trim p.statement)
      (copied : Holds (b.copyPath job.target) final.source u)

namespace Saved

variable {b : BatchSettings} {mode : RepairMode} {job : SessionJob} {w w' u v : World ε}
  {r : SessionReport}

theorem mono (h : Saved b mode job w r u) (hkeeps : Keeps (b.copyPath job.target) u v) :
    Saved b mode job w r v := by
  cases h with
  | unopened report_eq why => exact .unopened report_eq why
  | opened read grown added copied => exact .opened read grown added (hkeeps.holds copied)

/-- A session that starts later, where the harness has been left alone, starts the same. -/
theorem of_keeps (h : Saved b mode job w' r u) (hkeeps : Keeps job.target.harnessFile w w') :
    Saved b mode job w r u := by
  cases h with
  | unopened report_eq why =>
    refine .unopened report_eq (why.imp (fun hnone text hw => hnone text (hkeeps.holds hw)) ?_)
    exact fun ⟨text, hread, hout⟩ => ⟨text, fun c hc => hread c (hkeeps c hc), hout⟩
  | opened read grown added copied =>
    exact .opened (fun c hc => read c (hkeeps c hc)) grown added copied

end Saved

/-! ### One job -/

section

variable {R : World ε → Prop} {W : Watch} {fs : FileSystem} {h k : String} {u v w w' : World ε}

/-- What a job with the harness `h` and the copy `k` does to what is watched: paths lead where
they led, and directories stay; files elsewhere stay as they are, and those at the harness stay
files.  Which are elsewhere is told by the file system `fs`. -/
structure Beside (W : Watch) (fs : FileSystem) (h k : String) (w w' : World ε) : Prop where
  leads : ∀ q ∈ W.ways, w'.files.leadsTo? q = w.files.leadsTo? q
  houses : ∀ q ∈ W.rooms, Houses q w w'
  keeps : ∀ q ∈ W.files, fs.Apart q h → fs.Apart q k → Keeps q w w'
  reads : ∀ q ∈ W.files, fs.Apart q k → (∃ c, w.files.read q = .ok c) →
    ∃ c, w'.files.read q = .ok c

/-- What a job relies on: the harness and the copy, where they are watched, stay as they are,
paths lead where they led, and directories stay; and all worlds are as `R` says. -/
structure Respects (R : World ε → Prop) (W : Watch) (h k : String) (w w' : World ε) : Prop where
  leads : ∀ q ∈ W.ways, w'.files.leadsTo? q = w.files.leadsTo? q
  houses : ∀ q ∈ W.rooms, Houses q w w'
  keeps : ∀ q ∈ W.files, q = h ∨ q = k → Keeps q w w'
  kind : R w'

/-- The harness is there, and the paths that are watched lead where they lead in the file system
`fs`. -/
structure InPlace (W : Watch) (fs : FileSystem) (h : String) (w : World ε) : Prop where
  readable : Readable h w
  leads : ∀ q ∈ W.ways, w.files.leadsTo? q = fs.leadsTo? q

theorem Respects.refl (hw : R w) : Respects R W h k w w where
  leads _ _ := rfl
  houses q _ := .refl q w
  keeps q _ _ := .refl q w
  kind := hw

theorem Respects.trans (h₁ : Respects R W h k u v) (h₂ : Respects R W h k v w) :
    Respects R W h k u w where
  leads q hq := (h₂.leads q hq).trans (h₁.leads q hq)
  houses q hq := (h₁.houses q hq).trans (h₂.houses q hq)
  keeps q hq hqk := (h₁.keeps q hq hqk).trans (h₂.keeps q hq hqk)
  kind := h₂.kind

namespace Beside

theorem of_stays (hs : W.Stays v w) : Beside W fs h k v w where
  leads := hs.leads
  houses := hs.houses
  keeps q hq _ _ := hs.keeps q hq
  reads q hq _ := fun ⟨c, hc⟩ => ⟨c, hs.keeps q hq c hc⟩

theorem of_files_eq (heq : v.files = w.files) : Beside W fs h k v w := of_stays (.of_files_eq heq)

theorem refl (w : World ε) : Beside W fs h k w w := of_files_eq rfl

theorem trans (h₁ : Beside W fs h k u v) (h₂ : Beside W fs h k v w) : Beside W fs h k u w where
  leads q hq := (h₂.leads q hq).trans (h₁.leads q hq)
  houses q hq := (h₁.houses q hq).trans (h₂.houses q hq)
  keeps q hq hqh hqk := (h₁.keeps q hq hqh hqk).trans (h₂.keeps q hq hqh hqk)
  reads q hq hqk hread := h₂.reads q hq hqk (h₁.reads q hq hqk hread)

end Beside

/-- What is in place stays so beside a job that leaves a harness there. -/
theorem InPlace.of_beside (hin : InPlace W fs h w) (hb : Beside W fs h k w w')
    (hread : Readable h w') : InPlace W fs h w' :=
  ⟨hread, fun q hq => (hb.leads q hq).trans (hin.leads q hq)⟩

/-- Paths that are apart in `fs` are apart. -/
theorem InPlace.apart (hin : InPlace W fs h w) {q q' : String} (hapart : fs.Apart q q')
    (hq : q ∈ W.ways) (hq' : q' ∈ W.ways) : w.files.Apart q q' :=
  hapart.congr (hin.leads q hq) (hin.leads q' hq')

/-- A job takes care of its harness, and of no other file that is watched. -/
theorem tends_beside (hways : W.files ⊆ W.ways) (hh : h ∈ W.files) :
    Tends (InPlace W fs h) (Respects R W h k)
      (Beside W fs h k : World ε → World ε → Prop) h where
  still _ _ hr := .refl hr.kind
  readable _ := InPlace.readable
  stays _ _ hr hin := ⟨(hr.keeps h hh (Or.inl rfl)).readable hin.readable,
    fun q hq => (hr.leads q hq).trans (hin.leads q hq)⟩
  holds _ _ _ hr hw := (hr.keeps h hh (Or.inl rfl)).holds hw
  tells w told hin := by
    have hb : Beside W fs h k w { w with events := w.events ++ told } := .of_files_eq rfl
    exact ⟨hb, hin.of_beside hb hin.readable⟩
  writes w text files told hin hwrite := by
    obtain ⟨old, hold⟩ := hin.readable
    have hb := FileSystem.builds_write hwrite
    have hover := FileSystem.read_write_over hold hwrite
    have hbeside : Beside W fs h k w { w with files := files, events := w.events ++ told } := by
      refine ⟨fun q _ => hb.leadsTo?_eq q, fun _ _ => .of_builds hb,
        fun q hq hqh _ c hc => ?_, fun q _ _ hread => ?_⟩
      · rcases hover q with ⟨hread, hplace, -⟩ | hsame
        · exact absurd (hin.apart hqh (hways hq) (hways hh))
            (FileSystem.not_apart_of_read hread hplace)
        · exact hsame.trans hc
      · rcases hover q with ⟨-, -, hread'⟩ | hsame
        · exact ⟨_, hread'⟩
        · obtain ⟨c, hc⟩ := hread
          exact ⟨c, hsame.trans hc⟩
    exact ⟨hbeside, hin.of_beside hbeside ⟨text, FileSystem.readText_of_write hwrite⟩⟩

/-- Saving a copy leaves the harness where it is; and the copy is there, if the others let it be
saved and leave it alone. -/
theorem preserveSteps_beside (hways : W.files ⊆ W.ways) (hapart : fs.Apart h k)
    (hh : h ∈ W.files) (hk : k ∈ W.ways) (text : String) (hin : InPlace W fs h w) :
    (preserveSteps k text).Ensures (Respects R W h k) (Beside W fs h k)
      (fun _ u => InPlace W fs h u ∧
        (LetsSave (Respects R W h k) k → k ∈ W.files → Holds k text u)) w := by
  have hsaves : ∀ {v : World ε} {files : FileSystem}, InPlace W fs h v →
      FileSystem.Builds v.files files →
      (∀ q, v.files.Apart q k → ∀ c, v.files.read q = .ok c → files.read q = .ok c) →
      Beside W fs h k v { v with files := files } ∧ InPlace W fs h { v with files := files } := by
    intro v files hv hb hread
    have hbeside : Beside W fs h k v { v with files := files } :=
      ⟨fun q _ => hb.leadsTo?_eq q, fun _ _ => .of_builds hb,
        fun q hq _ hqk => hread q (hv.apart hqk (hways hq) hk),
        fun q hq hqk ⟨c, hc⟩ => ⟨c, hread q (hv.apart hqk (hways hq) hk) c hc⟩⟩
    have hkeeps : Keeps h v { v with files := files } := hread h (hv.apart hapart (hways hh) hk)
    exact ⟨hbeside, hv.of_beside hbeside (hkeeps.readable hv.readable)⟩
  refine preserveSteps_ensures (tends_beside hways hh).stays
    (fun v v' hr hv hmem => (hr.keeps k hmem (Or.inr rfl)).holds (hv hmem)) .refl
    (fun dir _ v files hv hmade => hsaves hv (FileSystem.furnishes_createDirAll hmade).builds
      fun q _ _ hc => FileSystem.read_createDirAll hmade hc)
    (fun v files hv hwrite => hsaves hv (FileSystem.builds_write hwrite)
      fun q hqk _ hc => FileSystem.read_write_apart hwrite hqk.symm hc)
    (fun v files hwrite _ => FileSystem.readText_of_write hwrite) hin

/-- Every step of a session takes care of its harness. -/
theorem permits_beside {c : Controller ε} {target : HarnessTarget} (hc : c.Leaves W)
    (hways : W.files ⊆ W.ways) (hh : target.harnessFile ∈ W.files) :
    Permits (fun _ m => ∀ w, InPlace W fs target.harnessFile w →
      Beside W fs target.harnessFile k w (m.run w).2 ∧
        InPlace W fs target.harnessFile (m.run w).2) c target := by
  have ht : Tends (InPlace W fs target.harnessFile) (Respects Pool.Anywhere W target.harnessFile k)
      (Beside W fs target.harnessFile k : World ε → World ε → Prop) target.harnessFile :=
    tends_beside hways hh
  have hstays : ∀ {w w' : World ε}, W.Stays w w' → InPlace W fs target.harnessFile w →
      Beside W fs target.harnessFile k w w' ∧ InPlace W fs target.harnessFile w' :=
    fun hs hin => ⟨.of_stays hs,
      hin.of_beside (.of_stays (k := k) hs) ((hs.keeps _ hh).readable hin.readable)⟩
  refine ⟨fun _ m hm w => ht.inert hm, fun _ m hm w => ht.pens hm,
    fun w hin => hstays (hc.verifier target w) hin, fun request w hin => ?_, ?_⟩
  · rw [Session.run_consult]
    exact hstays (hc.oracle request w) hin
  · rintro m ⟨s, e, -, -, rfl⟩ w hin
    exact ⟨.refl w, hin⟩

end

/-- The report on a session tells the statements of the changes that its store has made. -/
theorem added_report {c : Controller ε} {start s : Session} (h : Session.Sound c start s)
    {base : String} (hbase : start.store.current = { source := base }) (mode : RepairMode)
    (outcome : SessionOutcome) :
    ∃ changes, Grown { source := base } changes s.store.current ∧
      (s.report mode outcome).preconditionsAdded =
        changes.flatten.map fun p => Text.trim p.statement := by
  obtain ⟨changes, hgrown⟩ := h.develops.grown
  rw [hbase] at hgrown
  refine ⟨changes, hgrown, ?_⟩
  have hpatches := hgrown.patches
  rw [List.map_nil, List.nil_append] at hpatches
  change s.store.current.log.map (fun a => Text.trim a.patch.statement) = _
  rw [← hpatches, List.map_map]
  rfl

section

variable {c : Controller ε} {b : BatchSettings} {job : SessionJob} {R : World ε → Prop}
  {W : Watch} {fs : FileSystem} {start w : World ε}

/-- What a session in test mode leaves, whose store has just been set up. -/
theorem sessionSteps_traceless (htest : b.testMode = true) (hc : c.Leaves W)
    (hways : W.files ⊆ W.ways) (hh : job.target.harnessFile ∈ W.files)
    (hk : b.copyPath job.target ∈ W.ways)
    (hapart : fs.Apart job.target.harnessFile (b.copyPath job.target)) {text : String}
    (hstart : ∀ c, start.files.read job.target.harnessFile = .ok c → c = .text text)
    (removed : List String) (hin : InPlace W fs job.target.harnessFile w) :
    (sessionSteps c b
        { target := job.target
          store := { PatchStore.ofText job.target.harnessFile text b.policy with
            current := { source := withoutLines text job.linesToRemove } }
          removed := removed }).Ensures
      (Respects R W job.target.harnessFile (b.copyPath job.target))
      (Beside W fs job.target.harnessFile (b.copyPath job.target))
      (fun r u => ∀ report, r = .ok report → Holds job.target.harnessFile text u ∧
        (LetsSave (Respects R W job.target.harnessFile (b.copyPath job.target))
            (b.copyPath job.target) → b.copyPath job.target ∈ W.files →
          Saved b c.mode job start report u)) w := by
  let s : Session :=
    { target := job.target
      store := { PatchStore.ofText job.target.harnessFile text b.policy with
        current := { source := withoutLines text job.linesToRemove } }
      removed := removed }
  let k := b.copyPath job.target
  have ht : Tends (InPlace W fs job.target.harnessFile) (Respects R W job.target.harnessFile k)
      (Beside W fs job.target.harnessFile k : World ε → World ε → Prop)
      job.target.harnessFile := tends_beside hways hh
  have hpermits : Permits (fun _ m => ∀ w, InPlace W fs job.target.harnessFile w →
      Beside W fs job.target.harnessFile k w (m.run w).2 ∧
        InPlace W fs job.target.harnessFile (m.run w).2) c s.target := permits_beside hc hways hh
  have hrun : (s.runSteps c).Ensures (Respects R W job.target.harnessFile k)
      (Beside W fs job.target.harnessFile k)
      (fun r u => Session.Sound c s r.2 ∧ InPlace W fs job.target.harnessFile u) w :=
    (Session.within_runSteps hpermits rfl rfl rfl).ensures ht.stays
      (fun _ _ _ hm hv => hm _ hv) hin
  rw [sessionSteps]
  refine hrun.bind ht.still fun r u hu => ?_
  obtain ⟨r, t⟩ := r
  obtain ⟨hsound, hin'⟩ := hu
  have htarget : t.target = job.target := hsound.target_eq
  have hpath : t.store.path = s.target.harnessFile := hsound.develops.path_eq
  cases r with
  | error o =>
    -- the session has stopped the program, and nothing is promised
    have hclose := (Session.within_closeSteps hpermits hpath).ensures ht.stays
      (fun _ _ _ hm hv => hm _ hv) hin'
    exact hclose.bind ht.still fun _ v _ => .pure fun _ _ report hr => by cases hr
  | ok outcome =>
    have hpristine : t.store.pristine = text := hsound.develops.pristine_eq
    obtain ⟨changes, hgrown, hadded⟩ := added_report hsound rfl c.mode outcome
    -- what saving the copy leaves
    let C : World ε → Prop := fun u => LetsSave (Respects R W job.target.harnessFile k) k →
      k ∈ W.files → Holds k t.store.source u
    have hstay : ∀ u v, Respects R W job.target.harnessFile k u v → C u → C v :=
      fun u v hr hCu hsave hmem => (hr.keeps k hmem (Or.inr rfl)).holds (hCu hsave hmem)
    have hC : Tends (InPlace W fs job.target.harnessFile)
        (Respects R W job.target.harnessFile k) (fun u v => C u → C v)
        job.target.harnessFile := by
      refine { ht with tells := fun u told hu => ⟨fun hCu => hCu, (ht.tells u told hu).2⟩
                       writes := fun u new files told hu hwrite =>
                         ⟨fun hCu hsave hmem => ?_, (ht.writes u new files told hu hwrite).2⟩ }
      exact FileSystem.readText_eq_ok_iff_read.2 (FileSystem.read_write_apart hwrite
        (hu.apart hapart (hways hh) hk) (FileSystem.readText_eq_ok_iff_read.1 (hCu hsave hmem)))
    have hsave : (preserveSteps (b.copyPath t.target) t.store.source).Ensures
        (Respects R W job.target.harnessFile k) (Beside W fs job.target.harnessFile k)
        (fun _ v => InPlace W fs job.target.harnessFile v ∧ C v) u := by
      rw [htarget]
      exact preserveSteps_beside hways hapart hh hk t.store.source hin'
    refine (endSteps_ensures htest (hpath ▸ ht) (hpath ▸ hC) hstay c.mode outcome hsave).imp
      fun r v hv report hr => ?_
    obtain ⟨rfl, hholds, hCv⟩ := hv
    obtain rfl := Except.ok.inj hr
    rw [hpath, hpristine] at hholds
    exact ⟨hholds, fun hsaves hmem => .opened hstart hgrown hadded (hCv hsaves hmem)⟩

/-- **What a job in test mode leaves**, whatever the others do to files that it does not watch:
its harness as it was, and a copy of what it has been in between. -/
theorem jobSteps_traceless (htest : b.testMode = true) (hc : c.Leaves W)
    (hways : W.files ⊆ W.ways) (hh : job.target.harnessFile ∈ W.files)
    (hk : b.copyPath job.target ∈ W.ways)
    (hapart : fs.Apart job.target.harnessFile (b.copyPath job.target))
    (hkept : Keeps job.target.harnessFile start w)
    (hleads : ∀ q ∈ W.ways, w.files.leadsTo? q = fs.leadsTo? q) :
    (jobSteps c b job).Ensures
      (Respects R W job.target.harnessFile (b.copyPath job.target))
      (Beside W fs job.target.harnessFile (b.copyPath job.target))
      (fun r u => ∀ report, r = .ok report → Keeps job.target.harnessFile start u ∧
        (LetsSave (Respects R W job.target.harnessFile (b.copyPath job.target))
            (b.copyPath job.target) → b.copyPath job.target ∈ W.files →
          Saved b c.mode job start report u)) w := by
  have ht : Tends (InPlace W fs job.target.harnessFile)
      (Respects R W job.target.harnessFile (b.copyPath job.target))
      (Beside W fs job.target.harnessFile (b.copyPath job.target) : World ε → World ε → Prop)
      job.target.harnessFile := tends_beside hways hh
  have hrely : ∀ {u v : World ε},
      Respects R W job.target.harnessFile (b.copyPath job.target) u v →
        Keeps job.target.harnessFile u v := fun hr => hr.keeps _ hh (Or.inl rfl)
  rw [jobSteps]
  refine .step_bind fun u hu => ?_
  have hkept₁ := hkept.trans (hrely hu)
  rw [PatchStore.run_openFile]
  cases hopen : u.files.readText job.target.harnessFile with
  | error e =>
    refine ⟨.refl u, .step_bind fun v hv => ⟨.of_files_eq rfl, .pure fun v' hv' report hr => ?_⟩⟩
    obtain rfl := Except.ok.inj hr
    refine ⟨((hkept₁.trans (hrely hv)).trans (.of_files_eq ?_)).trans (hrely hv'),
      fun _ _ => .unopened rfl (Or.inl fun text htext => ?_)⟩
    · rfl
    · cases hopen.symm.trans (hkept₁.holds htext)
  | ok text =>
    have hstart : ∀ c, start.files.read job.target.harnessFile = .ok c → c = .text text :=
      fun c hc => Except.ok.inj ((hkept₁ c hc).symm.trans
        (FileSystem.readText_eq_ok_iff_read.1 hopen))
    have hend : ∀ {v : World ε}, Holds job.target.harnessFile text v →
        Keeps job.target.harnessFile start v := by
      intro v hv c hc
      rw [hstart c hc]
      exact FileSystem.readText_eq_ok_iff_read.1 hv
    refine ⟨.refl u, ?_⟩
    dsimp only
    refine .step_bind fun v hv => ?_
    have hholds : Holds job.target.harnessFile text v := ht.holds _ _ _ hv hopen
    have hin : InPlace W fs job.target.harnessFile v :=
      ⟨⟨text, hholds⟩, fun q hq =>
        ((hv.leads q hq).trans (hu.leads q hq)).trans (hleads q hq)⟩
    obtain ⟨hguar, hin'⟩ := ht.clerical (clerical_stripFor job
      (.ofText job.target.harnessFile text b.policy)) hin
    rcases stripFor_cases job job.target.harnessFile text b.policy v with
      ⟨removed, v₁, hrun⟩ | ⟨e, v₁, hrun, hfiles, hwhy⟩
    · rw [hrun] at hguar hin' ⊢
      refine ⟨hguar, (sessionSteps_traceless htest hc hways hh hk hapart hstart removed hin').imp
        fun r v' hv' report hr => ?_⟩
      exact (hv' report hr).imp hend id
    · rw [hrun] at hguar ⊢
      have hidle : (PatchStore.closeSteps (.ofText job.target.harnessFile text b.policy) :
          Steps ε Unit) = pure () := PatchStore.closeSteps_idle rfl rfl
      have hout := hwhy.resolve_right fun hnone => hnone text hholds
      refine ⟨hguar, ?_⟩
      dsimp only
      rw [hidle]
      refine .pure fun v' hv' report hr => ?_
      obtain rfl := Except.ok.inj hr
      refine ⟨hend (ht.holds _ _ _ hv' ?_), fun _ _ => .unopened rfl (Or.inr ⟨text, hstart, hout⟩)⟩
      rw [Holds, hfiles]
      exact hholds

/-- A job that is run by itself leaves all files that are watched as they were, but for its copy:
those at the place of its harness too, under whatever path. -/
theorem runJob_traceless (htest : b.testMode = true) (hc : c.Leaves W)
    (hways : W.files ⊆ W.ways) (hh : job.target.harnessFile ∈ W.files)
    (hk : b.copyPath job.target ∈ W.ways)
    (hapart : fs.Apart job.target.harnessFile (b.copyPath job.target))
    (hleads : ∀ q ∈ W.ways, w.files.leadsTo? q = fs.leadsTo? q)
    (hR : ∀ v ∈ (jobSteps c b job).passed w, R v) {report : SessionReport} {u : World ε}
    (hrun : (runJob c b job).run w = (.ok report, u)) :
    (∀ q ∈ W.files, fs.Apart q (b.copyPath job.target) → Keeps q w u) ∧
      (∀ q ∈ W.ways, u.files.leadsTo? q = fs.leadsTo? q) ∧
      (LetsSave (Respects R W job.target.harnessFile (b.copyPath job.target))
          (b.copyPath job.target) → b.copyPath job.target ∈ W.files →
        Saved b c.mode job w report u) := by
  have halone := (jobSteps_traceless htest hc hways hh hk hapart (Keeps.refl _ w) hleads).alone
    (fun v hv => Respects.refl (hR v hv)) Beside.refl fun _ _ _ => Beside.trans
  rw [alone_jobSteps, hrun] at halone
  obtain ⟨hpost, hbeside⟩ := halone
  obtain ⟨hkept, hsaved⟩ := hpost report rfl
  refine ⟨fun q hq hqk => ?_, fun q hq => (hbeside.leads q hq).trans (hleads q hq), hsaved⟩
  by_cases hqh : fs.Apart q job.target.harnessFile
  · exact hbeside.keeps q hq hqh hqk
  · have hplace : w.files.leadsTo? q = w.files.leadsTo? job.target.harnessFile := by
      rw [hleads q (hways hq), hleads _ (hways hh)]
      exact (not_or.1 (mt FileSystem.apart_iff.2 hqh)).2 |> not_not.1
    have hplace' : u.files.leadsTo? q = u.files.leadsTo? job.target.harnessFile := by
      rw [hbeside.leads q (hways hq), hbeside.leads _ (hways hh), hplace]
    cases hopen : w.files.readText job.target.harnessFile with
    | error e =>
      -- nothing is written
      refine .of_files_eq ?_
      have hu : u = ((runJob c b job).run w).2 := by rw [hrun]
      rw [hu, runJob, run_bind, PatchStore.run_openFile, hopen]
      rfl
    | ok text =>
      intro x hx
      have hread := FileSystem.readText_eq_ok_iff_read.1 hopen
      obtain ⟨y, hy⟩ := hbeside.reads q hq hqk ⟨x, hx⟩
      rw [hy, FileSystem.read_inj hplace hx hread,
        FileSystem.read_inj hplace' hy (hkept _ hread)]

end

/-! ### Many jobs -/

section

variable {c : Controller ε} {b : BatchSettings} {jobs : List SessionJob} {R : World ε → Prop}
  {W : Watch} {fs : FileSystem} {start u w : World ε}

/-- Where the copy of some job can be saved. -/
def CanSave (b : BatchSettings) (job : SessionJob) (w : World ε) : Prop :=
  w.files.canSave (b.copyPath job.target) = true

instance (b : BatchSettings) (job : SessionJob) (w : World ε) : Decidable (CanSave b job w) :=
  inferInstanceAs (Decidable (_ = _))

/-- What jobs one after the other leave, if they come to their reports. -/
theorem runJobs_traceless (htest : b.testMode = true) (hc : c.Leaves W)
    (hways : W.files ⊆ W.ways)
    (hwatched : ∀ job ∈ jobs, job.target.harnessFile ∈ W.files ∧ b.copyPath job.target ∈ W.ways)
    (hapart : ∀ job ∈ jobs, ∀ other ∈ jobs,
      fs.Apart job.target.harnessFile (b.copyPath other.target))
    (hcopies : jobs.Pairwise fun job other => b.copyPath job.target ∈ W.files →
      fs.Apart (b.copyPath job.target) (b.copyPath other.target))
    (hkept : ∀ job ∈ jobs, Keeps job.target.harnessFile start w)
    (hleads : ∀ q ∈ W.ways, w.files.leadsTo? q = fs.leadsTo? q)
    (hR : ∀ v ∈ (jobsSteps c b jobs).passed w, R v) {sessions : List SessionReport}
    (hrun : (runJobs c b jobs).run w = (.ok sessions, u)) :
    (∀ q ∈ W.files, (∀ job ∈ jobs, fs.Apart q (b.copyPath job.target)) → Keeps q w u) ∧
      ((∀ job ∈ jobs, ∀ v, R v → CanSave b job v) →
        (∀ job ∈ jobs, b.copyPath job.target ∈ W.files ∧ b.copyPath job.target ∈ W.rooms) →
        List.Forall₂ (fun job r => Saved b c.mode job start r u) jobs sessions) := by
  induction jobs generalizing w sessions with
  | nil =>
    obtain ⟨hsessions, rfl⟩ := Prod.mk.inj hrun
    obtain rfl := Except.ok.inj hsessions
    exact ⟨fun q _ _ => .refl q w, fun _ _ => .nil⟩
  | cons job jobs ih =>
    obtain ⟨⟨hh, hk⟩, hwatched⟩ := List.forall_mem_cons.1 hwatched
    obtain ⟨hfirst, hrest⟩ := List.pairwise_cons.1 hcopies
    rw [runJobs, run_bind] at hrun
    rcases hjob : (runJob c b job).run w with ⟨o | report, v⟩
    · rw [hjob] at hrun
      cases hrun
    · have hR₁ : ∀ v' ∈ (jobSteps c b job).passed w, R v' := fun v' hv' =>
        hR v' (mem_passed_bind.2 (Or.inl hv'))
      have hR₂ : ∀ v' ∈ (jobsSteps c b jobs).passed v, R v' := by
        intro v' hv'
        refine hR v' (mem_passed_bind.2 (Or.inr ?_))
        rw [alone_jobSteps, hjob]
        exact mem_passed_bind.2 (Or.inl hv')
      obtain ⟨later, hlater, rfl⟩ : ∃ later, (runJobs c b jobs).run v = (.ok later, u) ∧
          sessions = report :: later := by
        rw [hjob] at hrun
        dsimp only at hrun
        rw [run_bind] at hrun
        rcases hjobs : (runJobs c b jobs).run v with ⟨o | later, u'⟩
        · rw [hjobs] at hrun
          cases hrun
        · rw [hjobs] at hrun
          obtain ⟨hsessions, rfl⟩ := Prod.mk.inj hrun
          exact ⟨later, rfl, (Except.ok.inj hsessions).symm⟩
      obtain ⟨hkeeps, hleads', hsaved⟩ := runJob_traceless htest hc hways hh hk
        (hapart job List.mem_cons_self job List.mem_cons_self) hleads hR₁ hjob
      obtain ⟨hkeeps', hsaved'⟩ := ih hwatched
        (fun other ho another ha =>
          hapart other (List.mem_cons_of_mem _ ho) another (List.mem_cons_of_mem _ ha))
        hrest
        (fun other ho => (hkept other (List.mem_cons_of_mem _ ho)).trans
          (hkeeps _ (hwatched other ho).1
            (hapart other (List.mem_cons_of_mem _ ho) job List.mem_cons_self)))
        hleads' hR₂ hlater
      refine ⟨fun q hq hqk => ?_, fun hcan hall => ?_⟩
      · obtain ⟨hqk, hqks⟩ := List.forall_mem_cons.1 hqk
        exact (hkeeps q hq hqk).trans (hkeeps' q hq hqks)
      · obtain ⟨⟨hmem, hroom⟩, hall⟩ := List.forall_mem_cons.1 hall
        obtain ⟨hcanJob, hcan⟩ := List.forall_mem_cons.1 hcan
        have hsave : LetsSave (Respects R W job.target.harnessFile (b.copyPath job.target))
            (b.copyPath job.target) :=
          ⟨fun _ v' hr => hcanJob v' hr.kind, fun _ _ hr => hr.houses _ hroom⟩
        refine .cons (((hsaved hsave hmem).of_keeps (hkept job List.mem_cons_self)).mono ?_)
          (hsaved' hcan hall)
        exact hkeeps' _ hmem fun other ho => hfirst other ho hmem

/-- What jobs that take turns leave, whose harnesses are apart. -/
theorem pool_traceless (htest : b.testMode = true) (hc : c.Leaves W)
    (hways : W.files ⊆ W.ways)
    (hwatched : ∀ job ∈ jobs, job.target.harnessFile ∈ W.files ∧ b.copyPath job.target ∈ W.ways)
    (hapart : ∀ job ∈ jobs, ∀ other ∈ jobs,
      fs.Apart job.target.harnessFile (b.copyPath other.target))
    (hharnesses : ∀ (i k : Nat) (job other : SessionJob), jobs[i]? = some job →
      jobs[k]? = some other → i ≠ k → fs.Apart job.target.harnessFile other.target.harnessFile)
    (hcopies : ∀ (i k : Nat) (job other : SessionJob), jobs[i]? = some job →
      jobs[k]? = some other → i ≠ k → b.copyPath job.target ∈ W.files →
        fs.Apart (b.copyPath job.target) (b.copyPath other.target))
    (hleads : ∀ q ∈ W.ways, w.files.leadsTo? q = fs.leadsTo? q) (hw : R w) {limit : Nat}
    {pool : Pool ε (Except Overflow SessionReport)} {sessions : List SessionReport}
    (hreach : Pool.Reaches limit R (.start (jobs.map (jobSteps c b)), w) (pool, u))
    (hended : pool.Ended) (hresults : pool.results = sessions.map .ok) :
    (∀ job ∈ jobs, Keeps job.target.harnessFile w u) ∧
      ((∀ job ∈ jobs, ∀ v, R v → CanSave b job v) →
        (∀ job ∈ jobs, b.copyPath job.target ∈ W.files ∧ b.copyPath job.target ∈ W.rooms) →
        List.Forall₂ (fun job r => Saved b c.mode job w r u) jobs sessions) := by
  let harness : Nat → String := fun i => ((harnessPaths jobs)[i]?).getD ""
  let copy : Nat → String := fun i => ((copyPaths b jobs)[i]?).getD ""
  have hharness : ∀ {i : Nat} {job : SessionJob}, jobs[i]? = some job →
      harness i = job.target.harnessFile := fun hi => by simp [harness, harnessPaths, hi]
  have hcopy : ∀ {i : Nat} {job : SessionJob}, jobs[i]? = some job →
      copy i = b.copyPath job.target := fun hi => by simp [copy, copyPaths, hi]
  have hcompatible : Pool.Compatible jobs.length R
      (fun i => Respects R W (harness i) (copy i) : Nat → World ε → World ε → Prop)
      (fun i => Beside W fs (harness i) (copy i)) := by
    refine ⟨fun i _ => .refl, fun i _ _ _ => .trans, fun i k hi hk hne v v' hv' hbeside => ?_⟩
    have hi := List.getElem?_eq_getElem hi
    have hk := List.getElem?_eq_getElem hk
    have hmem := List.mem_of_getElem? hi
    have hmem' := List.mem_of_getElem? hk
    rw [hharness hi, hcopy hi] at hbeside
    refine ⟨hbeside.leads, hbeside.houses, fun q hq hqk => ?_, hv'⟩
    rw [hharness hk, hcopy hk] at hqk
    rcases hqk with rfl | rfl
    · exact hbeside.keeps _ hq (hharnesses k i _ _ hk hi hne) (hapart _ hmem' _ hmem)
    · exact hbeside.keeps _ hq (hapart _ hmem _ hmem').symm (hcopies k i _ _ hk hi hne hq)
  have hall : ∀ (i : Nat) (job : SessionJob), jobs[i]? = some job →
      (jobSteps c b job).Ensures (Respects R W (harness i) (copy i))
        (Beside W fs (harness i) (copy i))
        (fun r v => ∀ report, r = .ok report → Keeps job.target.harnessFile w v ∧
          (LetsSave (Respects R W job.target.harnessFile (b.copyPath job.target))
              (b.copyPath job.target) → b.copyPath job.target ∈ W.files →
            Saved b c.mode job w report v)) w := by
    intro i job hi
    have hmem := List.mem_of_getElem? hi
    rw [hharness hi, hcopy hi]
    exact jobSteps_traceless htest hc hways (hwatched job hmem).1 (hwatched job hmem).2
      (hapart job hmem job hmem) (.refl _ w) hleads
  have hends := hreach.results_map hcompatible hw hall hended
  rw [hresults, List.forall₂_map_right_iff] at hends
  obtain ⟨hkeeps, hsaved⟩ := (List.forall₂_and_left ..).1
    (hends.imp fun job r h => h r rfl)
  refine ⟨hkeeps, fun hcan hmem => ?_⟩
  have hboth := (List.forall₂_and_left jobs sessions).2
    ⟨fun job hjob => (⟨hcan job hjob, hmem job hjob⟩ : _ ∧ _), hsaved⟩
  refine hboth.imp fun job r h => ?_
  obtain ⟨⟨hcanJob, hfile, hroom⟩, hjob⟩ := h
  exact hjob ⟨fun _ v hr => hcanJob v hr.kind, fun _ _ hr => hr.houses _ hroom⟩ hfile

end

/-! ### Batches -/

/-- What a batch in test mode leaves that has gone through worlds as `R` says: every harness as
it was; and of every session that got past setup a copy of what it has made of its harness, if
all copies are put in places of their own, verifier and oracle leave them alone, and all through
the run every one of them can be saved. -/
structure Traceless (c : Controller ε) (b : BatchSettings) (jobs : List SessionJob)
    (R : World ε → Prop) (w : World ε) (report : AggregateReport) (u : World ε) : Prop where
  restored : ∀ job ∈ jobs, Keeps job.target.harnessFile w u
  saved : c.Leaves (copyWatch b jobs) →
    (jobs.Pairwise fun job other =>
      w.files.Apart (b.copyPath job.target) (b.copyPath other.target)) →
    (∀ job ∈ jobs, ∀ v, R v → CanSave b job v) →
    List.Forall₂ (fun job r => Saved b c.mode job w r u) jobs report.sessions

section

variable {c : Controller ε} {b : BatchSettings} {jobs : List SessionJob} {R : World ε → Prop}
  {w u v : World ε}

/-- Nothing but events lies between the jobs and the batch. -/
theorem Traceless.of_told {startedAt finishedAt : Timestamp} {sessions : List SessionReport}
    (hw : v.files = w.files)
    (hrestored : ∀ job ∈ jobs, Keeps job.target.harnessFile v u)
    (hsaved : c.Leaves (copyWatch b jobs) →
      (jobs.Pairwise fun job other =>
        w.files.Apart (b.copyPath job.target) (b.copyPath other.target)) →
      (∀ job ∈ jobs, ∀ v, R v → CanSave b job v) →
      List.Forall₂ (fun job r => Saved b c.mode job v r u) jobs sessions)
    (told : List LogEvent) :
    Traceless c b jobs R w (.ofSessions startedAt finishedAt sessions)
      { u with events := u.events ++ told } where
  restored job hjob := (Keeps.trans (.of_files_eq hw.symm) (hrestored job hjob)).trans
    (.of_files_eq rfl)
  saved hleaves hapart hcan := (hsaved hleaves hapart hcan).imp fun _ _ hr =>
    (hr.of_keeps (.of_files_eq hw.symm)).mono (.of_files_eq rfl)

theorem mem_harnessPaths {job : SessionJob} (h : job ∈ jobs) :
    job.target.harnessFile ∈ harnessPaths jobs := List.mem_map_of_mem h

theorem mem_copyPaths {job : SessionJob} (h : job ∈ jobs) :
    b.copyPath job.target ∈ copyPaths b jobs := List.mem_map_of_mem h

/-- Which of the harnesses and copies are watched. -/
theorem mem_harnessWatch {job : SessionJob} (h : job ∈ jobs) :
    job.target.harnessFile ∈ (harnessWatch b jobs).files ∧
      b.copyPath job.target ∈ (harnessWatch b jobs).ways :=
  ⟨mem_harnessPaths h, List.mem_append_right _ (mem_copyPaths h)⟩

/-- All of them are, where the copies are watched besides. -/
def traceWatch (b : BatchSettings) (jobs : List SessionJob) : Watch :=
  (harnessWatch b jobs).and (copyWatch b jobs)

theorem mem_traceWatch {job : SessionJob} (h : job ∈ jobs) :
    (job.target.harnessFile ∈ (traceWatch b jobs).files ∧
      b.copyPath job.target ∈ (traceWatch b jobs).ways) ∧
      b.copyPath job.target ∈ (traceWatch b jobs).files ∧
        b.copyPath job.target ∈ (traceWatch b jobs).rooms :=
  ⟨⟨List.mem_append_left _ (mem_harnessPaths h),
    List.mem_append_left _ (mem_harnessWatch h).2⟩,
    List.mem_append_right _ (mem_copyPaths h), List.mem_append_right _ (mem_copyPaths h)⟩

theorem files_harnessWatch_subset (b : BatchSettings) (jobs : List SessionJob) :
    (harnessWatch b jobs).files ⊆ (harnessWatch b jobs).ways := List.subset_append_left _ _

theorem files_traceWatch_subset (b : BatchSettings) (jobs : List SessionJob) :
    (traceWatch b jobs).files ⊆ (traceWatch b jobs).ways := by
  have hways : (traceWatch b jobs).ways = (traceWatch b jobs).files := List.append_nil _
  rw [hways]
  exact List.Subset.refl _

/-- A copy that is watched for the sake of a harness is where no copy is. -/
theorem apart_of_mem_harnessPaths
    (hcopies : ∀ job ∈ jobs, ∀ other ∈ jobs,
      w.files.Apart job.target.harnessFile (b.copyPath other.target)) {job other : SessionJob}
    (hmem : b.copyPath job.target ∈ harnessPaths jobs) (hother : other ∈ jobs) :
    w.files.Apart (b.copyPath job.target) (b.copyPath other.target) := by
  obtain ⟨another, hanother, heq⟩ := List.mem_map.1 hmem
  rw [← heq]
  exact hcopies another hanother other hother

/-- The harnesses of a batch are apart, if those are that are not there. -/
theorem apart_of_claimed (hclaimed : claimAll w.files [] jobs = .ok ())
    (hapart : ∀ (i k : Nat) (job other : SessionJob), jobs[i]? = some job → jobs[k]? = some other →
      i ≠ k → w.files.place? job.target.harnessFile = none →
        w.files.Apart job.target.harnessFile other.target.harnessFile)
    {i k : Nat} {job other : SessionJob} (hi : jobs[i]? = some job) (hk : jobs[k]? = some other)
    (hne : i ≠ k) : w.files.Apart job.target.harnessFile other.target.harnessFile := by
  cases hp : w.files.place? job.target.harnessFile with
  | none => exact hapart i k job other hi hk hne hp
  | some p =>
    cases hq : w.files.place? other.target.harnessFile with
    | none => exact (hapart k i other job hk hi (Ne.symm hne) hq).symm
    | some q => exact apart_of_claimAll hclaimed hi hk hne hp hq

/-- **Test mode leaves no trace.**  Whatever the verifier and the oracle answer, and however the
sessions end, a batch in test mode that comes to its report gives every harness file its content
back, byte for byte: if the verifier and the oracle do not write harness files and let all paths
lead where they lead, and no copy is put where a harness is.  Of every session that got past
setup it leaves a copy with the text that the session started from and the changes whose
statements its report lists: if moreover the copies are put in different places, verifier and
oracle leave them alone, and they can be saved all through the run.  So it is when one session is
run after the other, and when they run side by side: then two harnesses must not come to be one
file because a directory on the way to one of them is made meanwhile. -/
theorem testMode_traceless (htest : b.testMode = true)
    (hclaimed : claimAll w.files [] jobs = .ok ()) (hparties : c.Leaves (harnessWatch b jobs))
    (hcopies : ∀ job ∈ jobs, ∀ other ∈ jobs,
      w.files.Apart job.target.harnessFile (b.copyPath other.target))
    (startedAt finishedAt : Timestamp) :
    ((∃ o u, (runBatch c b startedAt finishedAt jobs).run w = (.error (.overflow o), u)) ∨
      ∃ report u, (runBatch c b startedAt finishedAt jobs).run w = (.ok report, u) ∧
        Traceless c b jobs (· ∈ (jobsSteps c b jobs).passed (batchStart c b jobs w)) w report u) ∧
    ∀ (R : World ε → Prop) (r : Except RunFailure AggregateReport) (u : World ε),
      BatchRunsIn R c b startedAt finishedAt jobs w r u →
      (∀ (i k : Nat) (job other : SessionJob), jobs[i]? = some job → jobs[k]? = some other →
        i ≠ k → w.files.place? job.target.harnessFile = none →
          w.files.Apart job.target.harnessFile other.target.harnessFile) →
      ∃ report, r = .ok report ∧ Traceless c b jobs R w report u := by
  have hleads : ∀ {W : Watch}, ∀ q ∈ W.ways,
      (batchStart c b jobs w).files.leadsTo? q = w.files.leadsTo? q := fun _ _ => rfl
  refine ⟨?_, fun R r u hruns hapart => ?_⟩
  · rw [run_runBatch_eq c b startedAt finishedAt hclaimed]
    rcases hjobs : (runJobs c b jobs).run (batchStart c b jobs w) with ⟨o | sessions, u⟩
    · exact Or.inl ⟨o, u, rfl⟩
    · refine Or.inr ⟨_, _, rfl, .of_told (files_batchStart c b jobs w) (fun job hjob => ?_)
        (fun hleaves hpairs hcan => ?_) _⟩
      · obtain ⟨hkeeps, -⟩ := runJobs_traceless htest hparties (files_harnessWatch_subset b jobs)
          (fun _ => mem_harnessWatch) hcopies
          (List.pairwise_iff_forall_sublist.2 fun hsub hmem =>
            apart_of_mem_harnessPaths hcopies hmem (hsub.subset (by simp)))
          (fun job _ => .refl _ _) hleads (fun _ hv => hv) hjobs
        exact hkeeps _ (mem_harnessPaths hjob) (hcopies job hjob)
      · have hwatched : jobs.Pairwise fun job other =>
            b.copyPath job.target ∈ (traceWatch b jobs).files →
              w.files.Apart (b.copyPath job.target) (b.copyPath other.target) := by
          refine hpairs.imp ?_
          exact fun h _ => h
        exact (runJobs_traceless htest (hparties.and hleaves) (files_traceWatch_subset b jobs)
          (fun _ hjob => (mem_traceWatch hjob).1) hcopies
          hwatched (fun job _ => .refl _ _) hleads (fun _ hv => hv) hjobs).2 hcan
          fun _ hjob => (mem_traceWatch hjob).2
  · cases hruns with
    | refused hrefused =>
      rw [hclaimed] at hrefused
      cases hrefused
    | @ran pool sessions report u _ hfirst hreach hended hresults hreport =>
      subst hreport
      refine ⟨_, rfl, .of_told (files_batchStart c b jobs w) (fun job hjob => ?_)
        (fun hleaves hpairs hcan => ?_) _⟩
      · exact (pool_traceless htest hparties (files_harnessWatch_subset b jobs)
          (fun _ => mem_harnessWatch) hcopies (fun _ _ _ _ => apart_of_claimed hclaimed hapart)
          (fun i k job other _ hk _ hmem =>
            apart_of_mem_harnessPaths hcopies hmem (List.mem_of_getElem? hk))
          hleads hfirst hreach hended hresults).1 job hjob
      · have hall : ∀ (i k : Nat) (job other : SessionJob), jobs[i]? = some job →
            jobs[k]? = some other → i < k →
            w.files.Apart (b.copyPath job.target) (b.copyPath other.target) := by
          intro i k job other hi hk hlt
          obtain ⟨hi', rfl⟩ := List.getElem?_eq_some_iff.1 hi
          obtain ⟨hk', rfl⟩ := List.getElem?_eq_some_iff.1 hk
          exact List.pairwise_iff_getElem.1 hpairs i k hi' hk' hlt
        refine (pool_traceless htest (hparties.and hleaves) (files_traceWatch_subset b jobs)
          (fun _ hjob => (mem_traceWatch hjob).1) hcopies
          (fun _ _ _ _ => apart_of_claimed hclaimed hapart)
          (fun i k job other hi hk hne _ => ?_) hleads hfirst hreach hended hresults).2 hcan
          fun _ hjob => (mem_traceWatch hjob).2
        rcases Nat.lt_or_gt_of_ne hne with hlt | hgt
        · exact hall i k job other hi hk hlt
        · exact (hall k i other job hk hi hgt).symm

end

/-! ### Two jobs -/

instance (path text : String) (w : World ε) : Decidable (Holds path text w) :=
  inferInstanceAs (Decidable (_ = _))

/-- A run that answers something answers it. -/
theorem exists_of_isOk {η α : Type} {m : Run ε (Except η α)} {w : World ε}
    (h : (m.run w).1.isOk = true) : ∃ a u, m.run w = (.ok a, u) := by
  rcases hrun : m.run w with ⟨e | a, u⟩ <;> rw [hrun] at h
  · cases h
  · exact ⟨a, u, rfl⟩

/-- The same of two results. -/
theorem exists_of_isOk_both {η α β : Type} {m : Run ε (Except η α × Except η β)} {w : World ε}
    (h : (m.run w).1.1.isOk = true ∧ (m.run w).1.2.isOk = true) :
    ∃ a b u, m.run w = ((.ok a, .ok b), u) := by
  rcases hrun : m.run w with ⟨⟨e | a, e' | b⟩, u⟩ <;> rw [hrun] at h
  · cases h.1
  · cases h.1
  · cases h.2
  · exact ⟨a, b, u, rfl⟩

/-- An operation on the files, unless it changes one of some files or where the path to it
leads. -/
def sparing (paths : List String) (op : FileSystem → Except IoError FileSystem) :
    Run Unit Unit := do
  let w ← get
  match op w.files with
  | .ok files =>
    if ∀ q ∈ paths, files.read q = w.files.read q ∧ files.leadsTo? q = w.files.leadsTo? q then
      set { w with files := files }
  | .error _ => return ()

/-- A verifier that does something to the files whenever it is run, unless it changes one of
some files or the way to it, and has nothing to report; and an oracle that is never asked. -/
def meddler (paths : List String)
    (op : HarnessTarget → FileSystem → Except IoError FileSystem) : Controller Unit where
  verifier :=
    { name := "meddler"
      run := fun target => do
        sparing paths (op target)
        return .ok cleanReport }
  oracle :=
    { name := "silent"
      propose := fun _ => return none }
  mode := .errors
  budget := .whole 1
  oracleTimeout := 60

/-- What a meddler does. -/
theorem run_sparing_cases (paths : List String) (op : FileSystem → Except IoError FileSystem)
    (w : World Unit) :
    ((sparing paths op).run w).2 = w ∨ ∃ files, op w.files = .ok files ∧
      (∀ q ∈ paths, files.read q = w.files.read q ∧ files.leadsTo? q = w.files.leadsTo? q) ∧
      ((sparing paths op).run w).2 = { w with files := files } := by
  rw [sparing, run_bind, run_get]
  dsimp only
  cases hop : op w.files with
  | error e => exact Or.inl rfl
  | ok files =>
    dsimp only
    split
    · next hsame => exact Or.inr ⟨files, rfl, hsame, rfl⟩
    · exact Or.inl rfl

theorem run_meddler (paths : List String)
    (op : HarnessTarget → FileSystem → Except IoError FileSystem) (target : HarnessTarget)
    (w : World Unit) :
    ((meddler paths op).verifier.run target).run w =
      (.ok cleanReport, ((sparing paths (op target)).run w).2) := rfl

/-- It leaves alone what it spares, and the ways if none is moved. -/
theorem leaves_meddler {W : Watch} {op : HarnessTarget → FileSystem → Except IoError FileSystem}
    (hleads : ∀ target fs files, op target fs = .ok files → ∀ q ∈ W.ways,
      q ∈ W.files ∨ files.leadsTo? q = fs.leadsTo? q) (hrooms : W.rooms = []) :
    (meddler W.files op).Leaves W where
  oracle request w := .of_files_eq rfl
  verifier target w := by
    rw [run_meddler]
    rcases run_sparing_cases W.files (op target) w with heq | ⟨files, hop, hsame, heq⟩
    · rw [heq]
      exact .of_files_eq rfl
    · rw [heq]
      refine ⟨fun q hq c hc => (hsame q hq).1.trans hc, fun q hq => ?_, ?_⟩
      · exact (hleads target _ _ hop q hq).elim (fun hfile => (hsame q hfile).2) id
      · rw [hrooms]
        exact List.forall_mem_nil _

/-- Test mode with two workers. -/
def smallSettings : BatchSettings := { workers := 2, testMode := true, resultsDir := "results" }

/-- Two jobs, for the first of which a line is stripped. -/
def twoJobs : List SessionJob :=
  [{ target := ⟨"a", "a/harness.c", "parse", ".", none⟩, linesToRemove := [1] },
    { target := ⟨"b", "b/harness.c", "parse", ".", none⟩ }]

/-- Their harnesses. -/
def twoStart : World Unit where
  files := [(["a"], Node.dir), (["a", "harness.c"], .file (.text "x\ny")), (["b"], .dir),
    (["b", "harness.c"], .file (.text "z"))].foldl (fun fs (place, n) => fs.put place n) {}
  events := []
  outside := ()

/-- A verifier that does nothing. -/
def idleController : Controller Unit := meddler [] fun _ fs => .ok fs

theorem leaves_idleController (W : Watch) : idleController.Leaves W :=
  ⟨fun _ _ => .of_files_eq rfl, fun _ _ => .of_files_eq rfl⟩

/-- One session after some steps of the other. -/
def twoRun : Run Unit (Except Overflow SessionReport × Except Overflow SessionReport) :=
  Pool.crossed 3 3 (jobSteps idleController smallSettings twoJobs[0])
    (jobSteps idleController smallSettings twoJobs[1])

theorem testMode_traceless_twoJobs :
    smallSettings.testMode = true ∧ claimAll twoStart.files [] twoJobs = .ok () ∧
    idleController.Leaves (harnessWatch smallSettings twoJobs) ∧
    (∀ job ∈ twoJobs, ∀ other ∈ twoJobs, twoStart.files.Apart job.target.harnessFile
      (smallSettings.copyPath other.target)) ∧
    (∃ report u, (runBatch idleController smallSettings .epoch .epoch twoJobs).run twoStart =
        (.ok report, u) ∧
      Holds "a/harness.c" "x\ny" u ∧ Holds "b/harness.c" "z" u ∧
      List.Forall₂ (fun job r => Saved smallSettings .errors job twoStart r u) twoJobs
        report.sessions ∧
      Holds "results/a/harness.c" "y" u ∧ Holds "results/b/harness.c" "z" u) ∧
    ∃ report u,
      BatchRuns idleController smallSettings .epoch .epoch twoJobs twoStart (.ok report) u ∧
      Holds "a/harness.c" "x\ny" u ∧ Holds "b/harness.c" "z" u := by
  have hclaimed : claimAll twoStart.files [] twoJobs = .ok () := by decide +kernel
  have hcopies : ∀ job ∈ twoJobs, ∀ other ∈ twoJobs, twoStart.files.Apart job.target.harnessFile
      (smallSettings.copyPath other.target) := by decide +kernel
  have hfirst : Holds "a/harness.c" "x\ny" twoStart := by decide +kernel
  have hsecond : Holds "b/harness.c" "z" twoStart := by decide +kernel
  obtain ⟨hinTurn, hbeside⟩ := testMode_traceless rfl hclaimed
    (leaves_idleController (harnessWatch smallSettings twoJobs)) hcopies .epoch .epoch
  refine ⟨rfl, hclaimed, leaves_idleController _, hcopies, ?_, ?_⟩
  · have hend : let u := ((runBatch idleController smallSettings .epoch .epoch twoJobs).run
        twoStart).2
        Holds "results/a/harness.c" "y" u ∧ Holds "results/b/harness.c" "z" u := by
      decide +kernel
    rcases hinTurn with ⟨o, u, hrun⟩ | ⟨report, u, hrun, htraceless⟩
    · have hdone : ((runBatch idleController smallSettings .epoch .epoch twoJobs).run
          twoStart).1.isOk = true := by decide +kernel
      rw [hrun] at hdone
      cases hdone
    · rw [hrun] at hend
      exact ⟨report, u, hrun, (htraceless.restored _ List.mem_cons_self).holds hfirst,
        (htraceless.restored _ (List.mem_cons_of_mem _ List.mem_cons_self)).holds hsecond,
        htraceless.saved (leaves_idleController _) (by decide +kernel) (by decide +kernel), hend⟩
  · have hends : (twoRun.run (batchStart idleController smallSettings twoJobs twoStart)).1.1.isOk ∧
        (twoRun.run (batchStart idleController smallSettings twoJobs twoStart)).1.2.isOk := by
      decide +kernel
    obtain ⟨first, second, u, hrun⟩ := exists_of_isOk_both hends
    obtain ⟨report, v, hruns, -⟩ :=
      exists_batchRuns_crossed (by decide) hclaimed .epoch .epoch hrun
    have hplaces : ∀ job ∈ twoJobs, twoStart.files.place? job.target.harnessFile ≠ none := by
      decide +kernel
    obtain ⟨_, hreport, htraceless⟩ := hbeside _ _ v hruns fun i _ job _ hi _ _ hnone =>
      absurd hnone (hplaces job (List.mem_of_getElem? hi))
    exact ⟨report, v, hruns, (htraceless.restored _ List.mem_cons_self).holds hfirst,
      (htraceless.restored _ (List.mem_cons_of_mem _ List.mem_cons_self)).holds hsecond⟩

/-! ### Less is not enough -/

/-- The same jobs, each under the name of the directory of the other. -/
def crossJobs : List SessionJob :=
  [{ target := ⟨"b", "a/harness.c", "parse", ".", none⟩ },
    { target := ⟨"a", "b/harness.c", "parse", ".", none⟩ }]

/-- Two jobs, the second with a way to the harness of the first that leads through a directory
for copies. -/
def passingJobs : List SessionJob :=
  [{ target := ⟨"x", "h.c", "parse", ".", none⟩, linesToRemove := [1] },
    { target := ⟨"y", "results/x/../../h.c", "parse", ".", none⟩ }]

/-- The harness of the first. -/
def passingStart : World Unit :=
  ⟨FileSystem.put {} ["h.c"] (.file (.text "x\ny")), [], ()⟩

/-- A verifier that, on the second job, empties the copy of the first. -/
def emptyingController : Controller Unit :=
  meddler (harnessPaths twoJobs) fun target fs =>
    if target.name = "b" then fs.write "results/a/harness.c" "" else .ok fs

theorem leaves_emptyingController :
    emptyingController.Leaves (harnessWatch smallSettings twoJobs) := by
  refine leaves_meddler (W := harnessWatch smallSettings twoJobs)
    (fun target fs files hop q _ => Or.inr ?_) rfl
  split at hop
  · exact (FileSystem.builds_write hop).leadsTo?_eq q
  · rw [Except.ok.inj hop]

/-- The copy of the first job is not what its session has come to. -/
theorem not_saved_emptied {report : AggregateReport} {u : World Unit}
    (hrun : (runBatch emptyingController smallSettings .epoch .epoch twoJobs).run twoStart =
      (.ok report, u)) :
    ¬ List.Forall₂ (fun job r => Saved smallSettings .errors job twoStart r u) twoJobs
      report.sessions := by
  intro hsaved
  have hcopy : ((runBatch emptyingController smallSettings .epoch .epoch twoJobs).run
      twoStart).2.files.readText "results/a/harness.c" = .ok "" := by decide +kernel
  have hharness : Holds "a/harness.c" "x\ny" twoStart := by decide +kernel
  rw [hrun] at hcopy
  generalize report.sessions = sessions at hsaved
  cases hsaved with
  | cons hfirst hrest =>
    cases hfirst with
    | unopened report_eq why =>
      rcases why with hnone | ⟨text, hread, n, hn, hout⟩
      · exact hnone "x\ny" hharness
      · have hholds := FileSystem.readText_eq_ok_iff_read.1 hharness
        obtain rfl := Content.text.inj (hread _ hholds).symm
        obtain rfl := List.mem_singleton.1 hn
        exact hout.elim (by decide) (by decide)
    | opened read grown added copied =>
      obtain rfl := Content.text.inj (read _ (FileSystem.readText_eq_ok_iff_read.1 hharness)).symm
      have hempty := Except.ok.inj (hcopy.symm.trans copied)
      have hsublist := grown.sublist.length_le
      rw [← hempty] at hsublist
      exact absurd hsublist (by decide +kernel)

/-- A verifier that makes a link from the directory for copies to the working directory. -/
def linkingController : Controller Unit :=
  meddler (harnessPaths crossJobs) fun _ fs => .ok (fs.put ["results"] (.link []))

/-- The first session makes the directory for its copy; the second job finds its harness through
it, and takes the text there for the one to give back; then each goes on. -/
def passingRun : Run Unit (Except Overflow SessionReport × Except Overflow SessionReport) :=
  Pool.crossed 8 1 (jobSteps idleController smallSettings passingJobs[0])
    (jobSteps idleController smallSettings passingJobs[1])

theorem ends_passingRun :
    let start := batchStart idleController smallSettings passingJobs passingStart
    (passingRun.run start).1.1.isOk = true ∧ (passingRun.run start).1.2.isOk = true ∧
      Holds "h.c" "y" (passingRun.run start).2 := by
  decide +kernel

/-- So the harness is left with the text that the second session gives back. -/
theorem exists_batchRuns_passing : ∃ r u,
    BatchRuns idleController smallSettings .epoch .epoch passingJobs passingStart r u ∧
      Holds "h.c" "y" u := by
  obtain ⟨hfirst, hsecond, hholds⟩ := ends_passingRun
  obtain ⟨first, second, u, hrun⟩ := exists_of_isOk_both ⟨hfirst, hsecond⟩
  rw [hrun] at hholds
  obtain ⟨report, v, hruns, -, hfiles⟩ := exists_batchRuns_crossed (by decide)
    (by decide +kernel) .epoch .epoch hrun
  refine ⟨_, v, hruns, ?_⟩
  rw [Holds, hfiles]
  exact hholds

/-- **Less is not enough.**  A verifier that spares all harnesses can still write over a copy; it
can make a copy fall on a harness, if it may change where the path to it leads; and of two
harnesses that are not apart, though they are not one file when the batch starts, one session can
take up what another is at work on. -/
theorem not_traceless_of_less :
    (¬∀ (c : Controller Unit) (b : BatchSettings) (startedAt finishedAt : Timestamp)
      (jobs : List SessionJob) (w : World Unit), b.testMode = true →
      claimAll w.files [] jobs = .ok () → c.Leaves (harnessWatch b jobs) →
      (∀ job ∈ jobs, ∀ other ∈ jobs,
        w.files.Apart job.target.harnessFile (b.copyPath other.target)) →
      (jobs.Pairwise fun job other =>
        w.files.Apart (b.copyPath job.target) (b.copyPath other.target)) →
      (∀ v ∈ (jobsSteps c b jobs).passed (batchStart c b jobs w), ∀ job ∈ jobs, CanSave b job v) →
      ∀ report u, (runBatch c b startedAt finishedAt jobs).run w = (.ok report, u) →
        List.Forall₂ (fun job r => Saved b c.mode job w r u) jobs report.sessions) ∧
    (¬∀ (c : Controller Unit) (b : BatchSettings) (startedAt finishedAt : Timestamp)
      (jobs : List SessionJob) (w : World Unit), b.testMode = true →
      claimAll w.files [] jobs = .ok () → c.Leaves ⟨harnessPaths jobs, harnessPaths jobs, []⟩ →
      (∀ job ∈ jobs, ∀ other ∈ jobs,
        w.files.Apart job.target.harnessFile (b.copyPath other.target)) →
      (jobs.Pairwise fun job other =>
        w.files.Apart (b.copyPath job.target) (b.copyPath other.target)) →
      ∀ report u, (runBatch c b startedAt finishedAt jobs).run w = (.ok report, u) →
        ∀ job ∈ jobs, Keeps job.target.harnessFile w u) ∧
    ¬∀ (c : Controller Unit) (b : BatchSettings) (startedAt finishedAt : Timestamp)
      (jobs : List SessionJob) (w : World Unit), b.testMode = true →
      claimAll w.files [] jobs = .ok () → c.Leaves (harnessWatch b jobs) →
      (∀ job ∈ jobs, ∀ other ∈ jobs,
        w.files.Apart job.target.harnessFile (b.copyPath other.target)) →
      (jobs.Pairwise fun job other =>
        w.files.Apart (b.copyPath job.target) (b.copyPath other.target)) →
      ∀ r u, BatchRuns c b startedAt finishedAt jobs w r u →
        ∀ job ∈ jobs, Keeps job.target.harnessFile w u := by
  refine ⟨fun h => ?_, fun h => ?_, fun h => ?_⟩
  · have hdone : ((runBatch emptyingController smallSettings .epoch .epoch twoJobs).run
        twoStart).1.isOk = true := by decide +kernel
    obtain ⟨report, u, hrun⟩ := exists_of_isOk hdone
    exact not_saved_emptied hrun (h emptyingController smallSettings .epoch .epoch twoJobs
      twoStart rfl (by decide +kernel) leaves_emptyingController (by decide +kernel)
      (by decide +kernel) (by decide +kernel) report u hrun)
  · have hdone : ((runBatch linkingController smallSettings .epoch .epoch crossJobs).run
        twoStart).1.isOk = true := by decide +kernel
    have hlost : ((runBatch linkingController smallSettings .epoch .epoch crossJobs).run
        twoStart).2.files.readText "b/harness.c" = .ok "x\ny" := by decide +kernel
    have hharness : Holds "b/harness.c" "z" twoStart := by decide +kernel
    obtain ⟨report, u, hrun⟩ := exists_of_isOk hdone
    have hkeeps := h linkingController smallSettings .epoch .epoch crossJobs twoStart rfl
      (by decide +kernel)
      (leaves_meddler (W := ⟨harnessPaths crossJobs, harnessPaths crossJobs, []⟩)
        (fun _ _ _ _ _ => Or.inl) rfl)
      (by decide +kernel) (by decide +kernel) report u hrun _
      (List.mem_cons_of_mem _ List.mem_cons_self)
    rw [hrun] at hlost
    exact absurd (hlost.symm.trans (hkeeps.holds hharness)) (by decide)
  · obtain ⟨r, u, hruns, hlost⟩ := exists_batchRuns_passing
    have hharness : Holds "h.c" "x\ny" passingStart := by decide +kernel
    have hkeeps := h idleController smallSettings .epoch .epoch passingJobs passingStart rfl
      (by decide +kernel)
      (leaves_idleController _)
      (by decide +kernel) (by decide +kernel) r u hruns _ List.mem_cons_self
    exact absurd (hlost.symm.trans (hkeeps.holds hharness)) (by decide)

end HarnessRepair
