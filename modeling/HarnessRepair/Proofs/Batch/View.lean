import HarnessRepair.Proofs.Batch.Conduct
import HarnessRepair.Proofs.Files.Apart
import Mathlib.Data.List.Find

/-!
# What a session sees of the files

A session reads its harness, and it shows the oracle the surroundings of findings elsewhere: of
all files it sees those that its verifier can report, under the path where each is found.  Two
file systems that agree on these, and on where the paths to them lead, are the same to it.

## Main definitions

* `Verifier.Shows` — a file that is looked at for the sake of its findings.
* `SameView` — file systems that a session cannot tell apart.
* `Unnoticed` — a path at which files can be saved, and no session on a target sees it, whatever
  there is besides the links.

## Main results

* `SameView.run_look` — **requests show the same.**
* `SameView.write_over`, `SameView.write_own` — what writing over a harness changes, for
  others and for its own session.
* `unnoticed_of_aside` — where nobody notices what is saved.
-/

namespace HarnessRepair

variable {ε : Type}

/-- A verifier can report something in a file, and the file is not taken for the harness. -/
def Verifier.Shows (v : Verifier ε) (target : HarnessTarget) (file : String) : Prop :=
  v.Names target file ∧ sameFileName file target.harnessFile = false

/-- The paths under which a file is looked for. -/
def seenPaths (target : HarnessTarget) (file : String) : List String :=
  [file, Path.join target.rootDir file, Path.join target.harnessDir file]

/-- A file reads the same under a path, which leads where it led. -/
structure SameFile (path : String) (fs fs' : FileSystem) : Prop where
  read : fs'.read path = fs.read path
  leads : fs'.leadsTo? path = fs.leadsTo? path

/-- Two file systems that look the same to a session on a target: the harness is the same, and
every file that is shown is found under the same path and is the same there. -/
structure SameView (v : Verifier ε) (target : HarnessTarget) (fs fs' : FileSystem) : Prop where
  harness : SameFile target.harnessFile fs fs'
  source : ∀ file, v.Shows target file → sourceOf? fs' target file = sourceOf? fs target file
  shown : ∀ file, v.Shows target file → ∀ path, sourceOf? fs target file = some path →
    SameFile path fs fs'

theorem FileSystem.readText_congr {fs fs' : FileSystem} {path : String}
    (h : fs'.read path = fs.read path) : fs'.readText path = fs.readText path := by
  rw [readText, readText, h]

namespace SameFile

variable {fs fs' gs : FileSystem} {path : String}

theorem refl (path : String) (fs : FileSystem) : SameFile path fs fs := ⟨rfl, rfl⟩

theorem symm (h : SameFile path fs fs') : SameFile path fs' fs := ⟨h.read.symm, h.leads.symm⟩

theorem trans (h : SameFile path fs fs') (h' : SameFile path fs' gs) : SameFile path fs gs :=
  ⟨h'.read.trans h.read, h'.leads.trans h.leads⟩

theorem readText_eq (h : SameFile path fs fs') : fs'.readText path = fs.readText path :=
  FileSystem.readText_congr h.read

end SameFile

variable {v : Verifier ε} {target : HarnessTarget} {fs fs' gs gs' : FileSystem} {path : String}

theorem sourceOf?_congr {file : String}
    (h : ∀ p ∈ seenPaths target file, fs'.isFile p = fs.isFile p) :
    sourceOf? fs' target file = sourceOf? fs target file := List.find?_congr h

/-- A file is found under one of the paths, and it can be read there. -/
theorem read_of_sourceOf? {file : String} (h : sourceOf? fs target file = some path) :
    path ∈ seenPaths target file ∧ ∃ c, fs.read path = .ok c :=
  ⟨List.mem_of_find?_eq_some h, FileSystem.isFile_iff.1 (List.find?_some h)⟩

theorem FileSystem.isFile_congr (h : fs'.read path = fs.read path) :
    fs'.isFile path = fs.isFile path := by
  rw [Bool.eq_iff_iff, isFile_iff, isFile_iff, h]

namespace SameView

theorem refl (v : Verifier ε) (target : HarnessTarget) (fs : FileSystem) :
    SameView v target fs fs := ⟨.refl _ fs, fun _ _ => rfl, fun _ _ path _ => .refl path fs⟩

theorem symm (h : SameView v target fs fs') : SameView v target fs' fs where
  harness := h.harness.symm
  source file hfile := (h.source file hfile).symm
  shown file hfile path hpath := (h.shown file hfile path (h.source file hfile ▸ hpath)).symm

theorem trans (h : SameView v target fs fs') (h' : SameView v target fs' gs) :
    SameView v target fs gs where
  harness := h.harness.trans h'.harness
  source file hfile := (h'.source file hfile).trans (h.source file hfile)
  shown file hfile path hpath := (h.shown file hfile path hpath).trans
    (h'.shown file hfile path ((h.source file hfile).trans hpath))

/-- With the same links, what reads the same under all paths that are looked at looks the same. -/
theorem of_read_eq (hlinks : FileSystem.SameLinks fs fs')
    (hharness : fs'.read target.harnessFile = fs.read target.harnessFile)
    (hseen : ∀ file, v.Shows target file → ∀ p ∈ seenPaths target file,
      fs'.read p = fs.read p) : SameView v target fs fs' where
  harness := ⟨hharness, hlinks.leadsTo?_eq _⟩
  source file hfile := sourceOf?_congr fun p hp => FileSystem.isFile_congr (hseen file hfile p hp)
  shown file hfile path hpath :=
    ⟨hseen file hfile path (read_of_sourceOf? hpath).1, hlinks.leadsTo?_eq _⟩

/-! ### Requests -/

/-- The surroundings of a finding are the same. -/
theorem locationContext_eq (h : SameView v target fs fs') {l : Location}
    (hl : v.Names target l.file) :
    locationContext fs' target l = locationContext fs target l := by
  rw [locationContext, locationContext]
  split
  · rfl
  · next hin =>
    have hshows : v.Shows target l.file := ⟨hl, by simpa [Location.isIn] using hin⟩
    rw [h.source _ hshows]
    cases hpath : sourceOf? fs target l.file with
    | none => rfl
    | some path =>
      dsimp only
      rw [(h.shown _ hshows path hpath).readText_eq]

/-- **Requests show the same.** -/
theorem run_look {c : Controller ε} {m : Run ε (Except Overflow RepairRequest)} {w w' : World ε}
    (h : SameView c.verifier target w.files w'.files) (hm : Session.LooksFor c target m) :
    (m.run w').1 = (m.run w).1 ∧ (m.run w).2 = w ∧ (m.run w').2 = w' := by
  obtain ⟨s, e, rfl, hnamed, rfl⟩ := hm
  refine ⟨?_, congrArg Prod.snd (Session.run_look s e w),
    congrArg Prod.snd (Session.run_look s e w')⟩
  rw [Session.run_look, Session.run_look, Session.request, Session.request, buildRequest,
    buildRequest, h.locationContext_eq hnamed]

/-! ### Writing -/

/-- A session does not see what is written over a text that it does not look at. -/
theorem write_over {old text : String} (hold : fs.readText path = .ok old)
    (hwrite : fs.write path text = .ok fs')
    (hharness : ∀ text, fs.readText target.harnessFile = .ok text →
      fs.Apart target.harnessFile path)
    (hshown : ∀ file, v.Shows target file → ∀ source, sourceOf? fs target file = some source →
      fs.Apart source path) : SameView v target fs fs' := by
  have hleads := (FileSystem.builds_write hwrite).leadsTo?_eq
  refine ⟨⟨?_, hleads _⟩, fun file _ => sourceOf?_congr fun p _ =>
    FileSystem.isFile_write_over hold hwrite p, fun file hfile source hsource => ⟨?_, hleads _⟩⟩
  · rcases FileSystem.read_write_over hold hwrite target.harnessFile with
      ⟨hread, hplace, -⟩ | hsame
    · exact absurd (hharness old (FileSystem.readText_eq_ok_iff_read.2 hread))
        (FileSystem.not_apart_of_read hread hplace)
    · exact hsame
  · rcases FileSystem.read_write_over hold hwrite source with ⟨hread, hplace, -⟩ | hsame
    · exact absurd (hshown file hfile source hsource) (FileSystem.not_apart_of_read hread hplace)
    · exact hsame

/-- One text that is written over the harness looks the same in both. -/
theorem write_own {old text : String} (h : SameView v target fs gs)
    (hold : fs.readText target.harnessFile = .ok old)
    (hfs : fs.write target.harnessFile text = .ok fs')
    (hgs : gs.write target.harnessFile text = .ok gs') : SameView v target fs' gs' := by
  have hold' : gs.readText target.harnessFile = .ok old := h.harness.readText_eq.trans hold
  have hleads : ∀ {p}, gs.leadsTo? p = fs.leadsTo? p → gs'.leadsTo? p = fs'.leadsTo? p := by
    intro p hp
    rw [(FileSystem.builds_write hfs).leadsTo?_eq, (FileSystem.builds_write hgs).leadsTo?_eq, hp]
  have hsource : ∀ file, sourceOf? fs' target file = sourceOf? fs target file := fun file =>
    sourceOf?_congr fun p _ => FileSystem.isFile_write_over hold hfs p
  refine ⟨⟨?_, hleads h.harness.leads⟩, fun file hfile => ?_, fun file hfile source hpath => ?_⟩
  · rw [FileSystem.readText_eq_ok_iff_read.1 (FileSystem.readText_of_write hfs),
      FileSystem.readText_eq_ok_iff_read.1 (FileSystem.readText_of_write hgs)]
  · rw [hsource]
    exact (sourceOf?_congr fun p _ => FileSystem.isFile_write_over hold' hgs p).trans
      (h.source file hfile)
  · rw [hsource] at hpath
    have hsame := h.shown file hfile source hpath
    obtain ⟨-, x, hx⟩ := read_of_sourceOf? hpath
    refine ⟨?_, hleads hsame.leads⟩
    rw [FileSystem.read_write_over_of_read hold hfs hx, FileSystem.read_write_over_of_read hold' hgs
      (hsame.read.trans hx), hsame.leads, h.harness.leads]

end SameView

/-! ### Saving -/

/-- Whatever is saved at a path, a session on the target does not see it, nor the directories
that are made for it, whatever there is, as long as there are the links that there are in a file
system. -/
structure Unnoticed (v : Verifier ε) (fs₀ : FileSystem) (target : HarnessTarget) (path : String) :
    Prop where
  makeDirs : ∀ dir ∈ Path.parent? path, ∀ fs fs', FileSystem.SameLinks fs₀ fs →
    fs.createDirAll dir = .ok fs' → SameView v target fs fs'
  write : ∀ text fs fs', FileSystem.SameLinks fs₀ fs → fs.write path text = .ok fs' →
    SameView v target fs fs'

/-- **Nobody notices what is saved below a name of its own**: where there are no links, if the
paths that are looked at go down below other names. -/
theorem unnoticed_of_aside (hno : fs.Linkless)
    (haside : ∀ p,
      (p = target.harnessFile ∨ ∃ file, v.Shows target file ∧ p ∈ seenPaths target file) →
        Aside p path ∧ ∀ dir ∈ Path.parent? path, ∀ a ∈ Path.ancestors dir,
          a.isEmpty = true ∨ Aside p a) : Unnoticed v fs target path where
  makeDirs dir hdir _ _ hlinks h :=
    have hsame := fun p hp => Aside.read_createDirAll ((haside p hp).2 dir hdir)
      (hno.of_sameLinks hlinks) h
    .of_read_eq (FileSystem.furnishes_createDirAll h).builds.toSameLinks (hsame _ (Or.inl rfl))
      fun file hfile p hp => hsame p (Or.inr ⟨file, hfile, hp⟩)
  write _ _ _ hlinks h :=
    have hsame := fun p hp => (haside p hp).1.read_write (hno.of_sameLinks hlinks) h
    .of_read_eq (FileSystem.builds_write h).toSameLinks (hsame _ (Or.inl rfl))
      fun file hfile p hp => hsame p (Or.inr ⟨file, hfile, hp⟩)

end HarnessRepair
