import HarnessRepair.Proofs.Batch.Interleaving
import HarnessRepair.Proofs.Batch.Restoration
import HarnessRepair.Proofs.Batch.View

/-!
# Two worlds that are alike to a session

A session sees no more of the files than its harness and the files that are shown for its
findings; and the others leave these alone, as long as no session writes where another looks.
So beside the world that the sessions share one can think, for each of them, of a world of its
own, and no step of the session tells the two apart.

## Main definitions

* `Independent` — a verifier and an oracle that answer every session for itself.
* `Hidden`, `Discreet` — what is done, and a verifier and an oracle, that leave no traces where a
  session looks.
* `Unseen`, `UnseenByOthers` — what a session relies on, and what it leaves to the others.
* `Owns` — a session that can write its harness without anybody seeing it.
* `Alike` — the world that is shared, and a world that a session has for itself.

## Main results

* `tends_unseen` — writing its harness, a session is not seen by the others.
* `permits_indifferent` — **no step of a session tells the two worlds apart.**
-/

namespace HarnessRepair

open Steps

variable {ε α β : Type}

/-- Verifier and oracle answer every session for itself: the verifier by the target and its
harness, the oracle by the request; and no finding of one session is in the harness of another. -/
structure Independent (c : Controller ε) (jobs : List SessionJob) (fs : FileSystem) : Prop where
  verifies : ∀ job ∈ jobs, ∀ v w : World ε,
    v.files.read job.target.harnessFile = w.files.read job.target.harnessFile →
      ((c.verifier.run job.target).run v).1 = ((c.verifier.run job.target).run w).1
  proposes : ∀ (request : RepairRequest) (v w : World ε),
    ((c.oracle.propose request).run v).1 = ((c.oracle.propose request).run w).1
  located : ∀ (i k : Nat) (job other : SessionJob), jobs[i]? = some job →
    jobs[k]? = some other → i ≠ k → ∀ file, c.verifier.Shows job.target file →
      ∀ source, sourceOf? fs job.target file = some source →
        fs.place? source ≠ fs.place? other.target.harnessFile

/-- What has been done is hidden from the sessions: none of them sees it, and in test mode no link
has been made or removed. -/
structure Hidden (c : Controller ε) (b : BatchSettings) (jobs : List SessionJob)
    (w w' : World ε) : Prop where
  unseen : ∀ job ∈ jobs, SameView c.verifier job.target w.files w'.files
  links : b.testMode = true → FileSystem.SameLinks w.files w'.files

/-- What verifier and oracle leave in the files, no session sees. -/
structure Discreet (c : Controller ε) (b : BatchSettings) (jobs : List SessionJob) : Prop where
  verifier : ∀ job ∈ jobs, ∀ w : World ε, Hidden c b jobs w ((c.verifier.run job.target).run w).2
  oracle : ∀ (request : RepairRequest) (w : World ε),
    Hidden c b jobs w ((c.oracle.propose request).run w).2

section

variable {c : Controller ε} {b : BatchSettings} {jobs : List SessionJob} {fs : FileSystem}
  {u v w w' : World ε} {i k : Nat} {job : SessionJob}

/-- A harness that is seen is there in both worlds. -/
theorem SameView.readable {v : Verifier ε} {target : HarnessTarget} {w w' : World ε}
    (h : SameView v target w.files w'.files) (hw : Readable target.harnessFile w) :
    Readable target.harnessFile w' := by
  obtain ⟨text, htext⟩ := hw
  exact ⟨text, h.harness.readText_eq.trans htext⟩

theorem Hidden.of_files_eq (h : w.files = w'.files) : Hidden c b jobs w w' where
  unseen _ _ := h ▸ .refl _ _ _
  links _ := h ▸ .refl _

/-! ### What changes for nobody -/

/-- No harness comes to be, every file that is shown is found under the path where it was, these
paths lead where they led, and in test mode the links stay. -/
structure Calm (c : Controller ε) (b : BatchSettings) (jobs : List SessionJob) (w w' : World ε) :
    Prop where
  appears : ∀ job ∈ jobs, Readable job.target.harnessFile w' → Readable job.target.harnessFile w
  source : ∀ job ∈ jobs, ∀ file, c.verifier.Shows job.target file →
    sourceOf? w'.files job.target file = sourceOf? w.files job.target file
  harnesses : ∀ job ∈ jobs,
    w'.files.leadsTo? job.target.harnessFile = w.files.leadsTo? job.target.harnessFile
  sources : ∀ job ∈ jobs, ∀ file, c.verifier.Shows job.target file →
    ∀ path, sourceOf? w.files job.target file = some path →
      w'.files.leadsTo? path = w.files.leadsTo? path
  links : b.testMode = true → FileSystem.SameLinks w.files w'.files

namespace Calm

theorem trans (h : Calm c b jobs u v) (h' : Calm c b jobs v w) : Calm c b jobs u w where
  appears job hjob hread := h.appears job hjob (h'.appears job hjob hread)
  source job hjob file hfile := (h'.source job hjob file hfile).trans (h.source job hjob file hfile)
  harnesses job hjob := (h'.harnesses job hjob).trans (h.harnesses job hjob)
  sources job hjob file hfile path hpath :=
    (h'.sources job hjob file hfile path ((h.source job hjob file hfile).trans hpath)).trans
      (h.sources job hjob file hfile path hpath)
  links htest := (h.links htest).trans (h'.links htest)

/-- Where every session sees the same, nothing comes to be. -/
theorem of_hidden (h : Hidden c b jobs w w') : Calm c b jobs w w' where
  appears job hjob := (h.unseen job hjob).symm.readable
  source job hjob := (h.unseen job hjob).source
  harnesses job hjob := (h.unseen job hjob).harness.leads
  sources job hjob file hfile path hpath := ((h.unseen job hjob).shown file hfile path hpath).leads
  links := h.links

theorem refl (w : World ε) : Calm c b jobs w w := of_hidden (.of_files_eq rfl)

/-- Writing over a text makes nothing come to be. -/
theorem write_over {path old text : String} {files : FileSystem} {told : List LogEvent}
    (hold : w.files.readText path = .ok old) (hwrite : w.files.write path text = .ok files) :
    Calm c b jobs w { w with files := files, events := w.events ++ told } where
  appears job _ := fun ⟨_, htext⟩ => by
    rcases FileSystem.read_write_over hold hwrite job.target.harnessFile with
      ⟨hread, -⟩ | hsame
    · exact ⟨old, FileSystem.readText_eq_ok_iff_read.2 hread⟩
    · exact ⟨_, (FileSystem.readText_congr hsame).symm.trans htext⟩
  source _ _ _ _ := sourceOf?_congr fun p _ => FileSystem.isFile_write_over hold hwrite p
  harnesses _ _ := (FileSystem.builds_write hwrite).leadsTo?_eq _
  sources _ _ _ _ _ _ := (FileSystem.builds_write hwrite).leadsTo?_eq _
  links _ := (FileSystem.builds_write hwrite).toSameLinks

end Calm

/-! ### What sessions do to each other -/

/-- What the session of a number relies on: it sees the same. -/
def Unseen (c : Controller ε) (b : BatchSettings) (jobs : List SessionJob) (i : Nat)
    (w w' : World ε) : Prop :=
  Calm c b jobs w w' ∧ ∀ job ∈ jobs[i]?, SameView c.verifier job.target w.files w'.files

/-- What a session leaves to the others: all of them see the same. -/
def UnseenByOthers (c : Controller ε) (b : BatchSettings) (jobs : List SessionJob) (i : Nat)
    (w w' : World ε) : Prop :=
  Calm c b jobs w w' ∧
    ∀ k, k ≠ i → ∀ job ∈ jobs[k]?, SameView c.verifier job.target w.files w'.files

theorem Unseen.refl (w : World ε) : Unseen c b jobs i w w := ⟨.refl w, fun _ _ => .refl _ _ _⟩

theorem Unseen.trans (h : Unseen c b jobs i u v) (h' : Unseen c b jobs i v w) :
    Unseen c b jobs i u w :=
  ⟨h.1.trans h'.1, fun job hjob => (h.2 job hjob).trans (h'.2 job hjob)⟩

theorem UnseenByOthers.of_hidden (h : Hidden c b jobs w w') : UnseenByOthers c b jobs i w w' :=
  ⟨.of_hidden h, fun _ _ job hjob => h.unseen job (List.mem_of_getElem? hjob)⟩

theorem UnseenByOthers.refl (w : World ε) : UnseenByOthers c b jobs i w w :=
  .of_hidden (.of_files_eq rfl)

/-- Sessions that spare the others can run side by side. -/
theorem compatible_unseen (c : Controller ε) (b : BatchSettings) (jobs : List SessionJob)
    (n : Nat) :
    Pool.Compatible n Pool.Anywhere (Unseen c b jobs) (UnseenByOthers c b jobs) where
  refl _ _ _ := .refl _
  trans _ _ _ _ := .trans
  rely_of_guar _ k _ _ hne _ _ _ h := ⟨h.1, h.2 k hne⟩

/-- A session that can write its harness without anybody seeing it: the other harnesses that are
there are elsewhere, and so are the files that are shown to others; and in test mode the links
are those of the file system `fs`. -/
structure Owns (c : Controller ε) (b : BatchSettings) (jobs : List SessionJob) (fs : FileSystem)
    (i : Nat) (path : String) (w : World ε) : Prop where
  readable : Readable path w
  harnesses : ∀ k, k ≠ i → ∀ other ∈ jobs[k]?, Readable other.target.harnessFile w →
    w.files.Apart other.target.harnessFile path
  sources : ∀ k, k ≠ i → ∀ other ∈ jobs[k]?, ∀ file, c.verifier.Shows other.target file →
    ∀ source, sourceOf? w.files other.target file = some source → w.files.Apart source path
  links : b.testMode = true → FileSystem.SameLinks fs w.files

theorem Owns.of_calm (hi : jobs[i]? = some job)
    (h : Owns c b jobs fs i job.target.harnessFile w) (hcalm : Calm c b jobs w w')
    (hread : Readable job.target.harnessFile w') :
    Owns c b jobs fs i job.target.harnessFile w' where
  readable := hread
  harnesses k hk other hother hread :=
    have hmem := List.mem_of_getElem? hother
    (h.harnesses k hk other hother (hcalm.appears other hmem hread)).congr
      (hcalm.harnesses other hmem) (hcalm.harnesses job (List.mem_of_getElem? hi))
  sources k hk other hother file hfile source hsource :=
    have hmem := List.mem_of_getElem? hother
    have hsource' := (hcalm.source other hmem file hfile).symm.trans hsource
    (h.sources k hk other hother file hfile source hsource').congr
      (hcalm.sources other hmem file hfile source hsource')
      (hcalm.harnesses job (List.mem_of_getElem? hi))
  links htest := (h.links htest).trans (hcalm.links htest)

/-- What no session sees takes nothing away from one. -/
theorem Owns.of_hidden (hi : jobs[i]? = some job) (hhidden : Hidden c b jobs w w')
    (h : Owns c b jobs fs i job.target.harnessFile w) :
    UnseenByOthers c b jobs i w w' ∧ Owns c b jobs fs i job.target.harnessFile w' :=
  ⟨.of_hidden hhidden, h.of_calm hi (.of_hidden hhidden)
    ((hhidden.unseen job (List.mem_of_getElem? hi)).readable h.readable)⟩

/-- A session takes care of its harness, and the others do not see it. -/
theorem tends_unseen (hi : jobs[i]? = some job) :
    Tends (Owns c b jobs fs i job.target.harnessFile) (Unseen c b jobs i)
      (UnseenByOthers c b jobs i) job.target.harnessFile where
  still _ _ _ := .refl _
  readable _ := Owns.readable
  stays w w' hr hw := hw.of_calm hi hr.1 ((hr.2 job hi).readable hw.readable)
  holds w w' text hr hw := (hr.2 job hi).harness.readText_eq.trans hw
  tells w told hw := hw.of_hidden hi (.of_files_eq rfl)
  writes w text files told hw hwrite := by
    obtain ⟨old, hold⟩ := hw.readable
    have hcalm : Calm c b jobs w { w with files := files, events := w.events ++ told } :=
      .write_over hold hwrite
    refine ⟨⟨hcalm, fun k hk other hother => ?_⟩,
      hw.of_calm hi hcalm ⟨text, FileSystem.readText_of_write hwrite⟩⟩
    exact .write_over hold hwrite
      (fun text htext => hw.harnesses k hk other hother ⟨text, htext⟩)
      (hw.sources k hk other hother)

/-! ### One world for all, and one for each -/

/-- A session sees the same in the world that is shared as in the one that it has for itself. -/
structure Alike (c : Controller ε) (b : BatchSettings) (jobs : List SessionJob) (fs : FileSystem)
    (i : Nat) (target : HarnessTarget) (w v : World ε) : Prop where
  view : SameView c.verifier target w.files v.files
  owns : Owns c b jobs fs i target.harnessFile w
  links : b.testMode = true → FileSystem.SameLinks fs v.files

theorem Alike.readText_eq {target : HarnessTarget} (h : Alike c b jobs fs i target w v) :
    v.files.readText target.harnessFile = w.files.readText target.harnessFile :=
  h.view.harness.readText_eq

theorem Alike.unseen (hi : jobs[i]? = some job) (hr : Unseen c b jobs i w w')
    (h : Alike c b jobs fs i job.target w v) : Alike c b jobs fs i job.target w' v :=
  ⟨(hr.2 job hi).symm.trans h.view, (tends_unseen hi).stays w w' hr h.owns, h.links⟩

/-- One step that leaves the two worlds alike, and that the others do not see. -/
def Indifferent (c : Controller ε) (b : BatchSettings) (jobs : List SessionJob) (fs : FileSystem)
    (i : Nat) (target : HarnessTarget) (β : Type) (m : Run ε β) : Prop :=
  ∀ w v, Alike c b jobs fs i target w v → UnseenByOthers c b jobs i w (m.run w).2 ∧
    (m.run w).1 = (m.run v).1 ∧ Alike c b jobs fs i target (m.run w).2 (m.run v).2

/-- What answers the same, and leaves what the sessions see. -/
theorem indifferent_of_hidden (hi : jobs[i]? = some job) {m : Run ε β}
    (hsame : ∀ v w : World ε,
      v.files.read job.target.harnessFile = w.files.read job.target.harnessFile →
        (m.run v).1 = (m.run w).1)
    (hhidden : ∀ w : World ε, Hidden c b jobs w (m.run w).2) :
    Indifferent c b jobs fs i job.target β m := by
  intro w v h
  have hmem := List.mem_of_getElem? hi
  obtain ⟨hguar, howns⟩ := h.owns.of_hidden hi (hhidden w)
  exact ⟨hguar, (hsame v w h.view.harness.read).symm,
    (((hhidden w).unseen job hmem).symm.trans h.view).trans ((hhidden v).unseen job hmem), howns,
    fun htest => (h.links htest).trans ((hhidden v).links htest)⟩

/-- **No step of a session tells the two worlds apart.** -/
theorem permits_indifferent {start : FileSystem} (hc : Independent c jobs start)
    (hd : Discreet c b jobs) (hi : jobs[i]? = some job) :
    Permits (Indifferent c b jobs fs i job.target) c job.target where
  inert β m hm w v h := by
    obtain ⟨hguar, howns⟩ := (tends_unseen hi).inert hm h.owns
    obtain ⟨a, ha⟩ := hm
    obtain ⟨told, hw⟩ := ha w
    obtain ⟨told', hv⟩ := ha v
    rw [hw] at hguar howns ⊢
    rw [hv]
    exact ⟨hguar, rfl, h.view, howns, h.links⟩
  pens β m hm w v h := by
    obtain ⟨hguar, howns⟩ := (tends_unseen hi).pens hm h.owns
    obtain ⟨old, hold⟩ := h.owns.readable
    obtain ⟨a, text, ha⟩ := hm
    -- the same text is written in both worlds, over the same text
    obtain ⟨files, told, hwrite, hw⟩ := ha w old hold
    obtain ⟨files', told', hwrite', hv⟩ := ha v old (h.readText_eq.trans hold)
    rw [hw] at hguar howns ⊢
    rw [hv]
    exact ⟨hguar, rfl, h.view.write_own hold hwrite hwrite', howns,
      fun htest => (h.links htest).trans (FileSystem.builds_write hwrite').toSameLinks⟩
  verifies := indifferent_of_hidden hi (hc.verifies job (List.mem_of_getElem? hi))
    (hd.verifier job (List.mem_of_getElem? hi))
  consults request := by
    refine indifferent_of_hidden hi (fun v w _ => ?_) fun w => ?_
    · rw [Session.run_consult, Session.run_consult]
      exact congrArg (heard c) (hc.proposes request v w)
    · rw [Session.run_consult]
      exact hd.oracle request w
  looks m hm w v h := by
    obtain ⟨heq, hw, hv⟩ := h.view.run_look hm
    rw [hw, hv]
    exact ⟨.refl w, heq.symm, h⟩

/-- **A program whose steps are indifferent** ends as it does by itself. -/
theorem ensures_of_within (hi : jobs[i]? = some job) {p : Steps ε α} {Q : α → Prop}
    (hp : p.Within (Indifferent c b jobs fs i job.target) Q)
    (h : Alike c b jobs fs i job.target w v) :
    p.Ensures (Unseen c b jobs i) (UnseenByOthers c b jobs i)
      (fun a u => Q a ∧ a = (p.alone.run v).1 ∧
        Alike c b jobs fs i job.target u (p.alone.run v).2) w :=
  hp.lockstep (fun _ _ _ hr hw => hw.unseen hi hr) (fun _ _ w v hm hw => hm w v hw) h

end

end HarnessRepair
