import HarnessRepair.Proofs.Files.Overwrite

/-!
# Paths apart

As long as links are neither made nor removed, every path leads to one place, if it leads
anywhere.  So two paths that lead to different places never meet, and what is written under one
of them is not read under the other.  Directories that are made take nothing away, and a file
written over a file opens no way and closes none.

## Main definitions

* `FileSystem.Apart` — two paths that do not lead to one place.
* `FileSystem.Furnishes` — nothing but directories has been made.
* `Aside` — a path that goes straight down, below another name than a second path.
* `FileSystem.canSave` — whether a file can be saved at a path.
* `Keeps path w w'`, `Houses path w w'` — what the file at `path` held, it still holds; and the
  directory for it, if there was one, is still there.

## Main results

* `FileSystem.read_write_apart`, `read_createDirAll` — **what is read stays the same.**
* `FileSystem.read_write_over` — what writing over a text changes.
* `Aside.read_write`, `Aside.read_createDirAll` — where there are no links, a path aside reads
  the same, whatever it is.
-/

namespace HarnessRepair

namespace FileSystem

variable {fs fs' fs'' : FileSystem} {path other text a b : String} {p q : Place} {c : Content}

/-! ### Paths apart -/

/-- Two paths that do not lead to one place. -/
def Apart (fs : FileSystem) (a b : String) : Prop :=
  ∀ p, fs.leadsTo? a = some p → fs.leadsTo? b ≠ some p

theorem Apart.symm (h : fs.Apart a b) : fs.Apart b a := fun p hb ha => h p ha hb

theorem apart_iff : fs.Apart a b ↔ fs.leadsTo? a = none ∨ fs.leadsTo? a ≠ fs.leadsTo? b := by
  rw [Apart]
  cases ha : fs.leadsTo? a with
  | none => simp
  | some p => simp [eq_comm]

instance (fs : FileSystem) (a b : String) : Decidable (fs.Apart a b) :=
  decidable_of_iff _ apart_iff.symm

/-- Paths that lead where they led are apart if they were. -/
theorem Apart.congr (h : fs.Apart a b) (ha : fs'.leadsTo? a = fs.leadsTo? a)
    (hb : fs'.leadsTo? b = fs.leadsTo? b) : fs'.Apart a b := by
  rw [Apart, ha, hb]
  exact h

/-- What is read under two paths to one place is the same. -/
theorem read_inj {x y : Content} (hplace : fs.leadsTo? path = fs.leadsTo? other)
    (hx : fs.read path = .ok x) (hy : fs.read other = .ok y) : x = y := by
  obtain ⟨p, hp, hnode, -⟩ := read_eq_ok_iff.1 hx
  obtain ⟨q, hq, hnode', -⟩ := read_eq_ok_iff.1 hy
  rw [leadsTo?_of_resolve hp, leadsTo?_of_resolve hq] at hplace
  obtain rfl := Option.some.inj hplace
  exact Node.file.inj (Option.some.inj (hnode.symm.trans hnode'))

/-- Two paths to one file are not apart. -/
theorem not_apart_of_read (hread : fs.read path = .ok c)
    (hplace : fs.leadsTo? path = fs.leadsTo? other) : ¬ fs.Apart path other := by
  obtain ⟨p, hp, -⟩ := read_eq_ok_iff.1 hread
  have hleads := leadsTo?_of_resolve hp
  exact fun hapart => hapart p hleads (hplace ▸ hleads)

/-! ### Writing -/

/-- Where a text can be written, a file stands or nothing. -/
theorem writable_eq_ok (h : fs.writable path = .ok p) :
    fs.resolve path = .ok p ∧ fs.node? p ≠ some .dir ∧ (∀ t, fs.node? p ≠ some (.link t)) ∧
      wantsDirectory path = false := by
  rw [writable] at h
  split at h
  · cases h
  · next place hplace =>
    split at h
    · cases h
    · next d hd =>
      split at h
      · cases h
      · next hw =>
        obtain rfl := Except.ok.inj h
        exact ⟨hplace, by simp [hd], by simp [hd], by simpa using hw⟩
    · cases h
    · next hnone =>
      split at h
      · split at h
        · cases h
        · next hw =>
          split at h
          · obtain rfl := Except.ok.inj h
            exact ⟨hplace, by simp [hnone], by simp [hnone], by simpa using hw⟩
          · cases h
      · cases h
      · cases h

/-- A text that is written stands where the path leads, in place of a file or of nothing. -/
theorem write_eq_ok (h : fs.write path text = .ok fs') :
    ∃ p, fs.resolve path = .ok p ∧ fs.node? p ≠ some .dir ∧
      (∀ t, fs.node? p ≠ some (.link t)) ∧ wantsDirectory path = false ∧
      fs' = fs.put p (.file (.text text)) := by
  rw [write, writeContent] at h
  cases hw : fs.writable path with
  | error e =>
    rw [hw] at h
    cases h
  | ok p =>
    rw [hw] at h
    obtain ⟨hresolve, hdir, hlink, hwants⟩ := writable_eq_ok hw
    exact ⟨p, hresolve, hdir, hlink, hwants, (Except.ok.inj h).symm⟩

/-- Directories and links stay where something is put that takes the place of none of them. -/
theorem builds_put {n : Node} (hdir : fs.node? p ≠ some .dir)
    (hlink : ∀ t, fs.node? p ≠ some (.link t)) (hn : ∀ t, n ≠ .link t) :
    Builds fs (fs.put p n) where
  workingDir := workingDir_put fs p n
  links q t := by
    rw [node?_put n (ne_nil_of_not_dir hdir)]
    by_cases h : q = p
    · rw [if_pos h, h]
      exact iff_of_false (fun heq => hn t (Option.some.inj heq)) (hlink t)
    · rw [if_neg h]
  dirs q hq := by
    rw [node?_put n (ne_nil_of_not_dir hdir), if_neg fun (h : q = p) => hdir (h ▸ hq), hq]

/-- **Writing a text moves no path.** -/
theorem builds_write (h : fs.write path text = .ok fs') : Builds fs fs' := by
  obtain ⟨p, -, hdir, hlink, -, rfl⟩ := write_eq_ok h
  exact builds_put hdir hlink (by simp)

/-- **What is written under one path is not read under another**, apart from it. -/
theorem read_write_apart (h : fs.write path text = .ok fs') (hapart : fs.Apart path other)
    (hread : fs.read other = .ok c) : fs'.read other = .ok c := by
  have hbuilds := builds_write h
  obtain ⟨p, hp, hdir, -, -, rfl⟩ := write_eq_ok h
  obtain ⟨q, hq, hnode, hfile⟩ := read_eq_ok_iff.1 hread
  have hne : q ≠ p := fun heq =>
    hapart p (leadsTo?_of_resolve hp) (heq ▸ leadsTo?_of_resolve hq)
  refine read_eq_ok_iff.2 ⟨q, hbuilds.resolve hq, ?_, hfile⟩
  rw [node?_put _ (ne_nil_of_not_dir hdir), if_neg hne, hnode]

/-- What has been written is read. -/
theorem readText_of_write (h : fs.write path text = .ok fs') : fs'.readText path = .ok text := by
  have hbuilds := builds_write h
  obtain ⟨p, hp, hdir, -, hfile, rfl⟩ := write_eq_ok h
  refine readText_eq_ok_iff.2 ⟨p, hbuilds.resolve hp, ?_, hfile⟩
  rw [node?_put _ (ne_nil_of_not_dir hdir), if_pos rfl]

/-- Writing over a text replaces the text under every path to its place, and nothing else. -/
theorem read_write_over {old : String} (hold : fs.readText path = .ok old)
    (h : fs.write path text = .ok fs') (other : String) :
    (fs.read other = .ok (.text old) ∧ fs.leadsTo? other = fs.leadsTo? path ∧
      fs'.read other = .ok (.text text)) ∨ fs'.read other = fs.read other := by
  obtain ⟨p, hp, hnode, hfile⟩ := readText_eq_ok_iff.1 hold
  obtain ⟨p', hp', hdir, -, -, rfl⟩ := write_eq_ok h
  obtain rfl : p = p' := Except.ok.inj (hp.symm.trans hp')
  -- every path leads where it led; only what is found at `p` is new
  have hput : ∀ q, (fs.put p (.file (.text text))).node? q =
      if q = p then some (.file (.text text)) else fs.node? q :=
    node?_put (.file (.text text)) (ne_nil_of_not_dir hdir)
  have hresolve := resolve_put_over (.text text) hnode other
  cases hq : fs.resolve other with
  | error e =>
    refine Or.inr ?_
    rw [read, read, hresolve, hq]
  | ok q =>
    by_cases heq : q = p
    · subst heq
      by_cases hwants : wantsDirectory other = true
      · refine Or.inr ?_
        rw [read, read, hresolve, hq]
        simp only [hput, if_true, hnode, hwants]
      · have hfalse : wantsDirectory other = false := by simpa using hwants
        refine Or.inl ⟨read_eq_ok_iff.2 ⟨q, hq, hnode, hfalse⟩, ?_,
          read_eq_ok_iff.2 ⟨q, hresolve.trans hq, by rw [hput, if_pos rfl], hfalse⟩⟩
        rw [leadsTo?_of_resolve hq, leadsTo?_of_resolve hp]
    · refine Or.inr ?_
      rw [read, read, hresolve, hq]
      simp only [hput, if_neg heq]

/-- Under a path to a file, the new text is read if it leads to the place of the writing. -/
theorem read_write_over_of_read {old : String} (hold : fs.readText path = .ok old)
    (h : fs.write path text = .ok fs') (hread : fs.read other = .ok c) :
    fs'.read other = .ok (if fs.leadsTo? other = fs.leadsTo? path then .text text else c) := by
  rcases read_write_over hold h other with ⟨-, hplace, hread'⟩ | hsame
  · rw [if_pos hplace, hread']
  · rw [hread] at hsame
    split
    · next hplace =>
      have hlinks := (builds_write h).toSameLinks
      have hplace' : fs'.leadsTo? other = fs'.leadsTo? path := by
        rw [hlinks.leadsTo?_eq, hlinks.leadsTo?_eq, hplace]
      rw [hsame,
        read_inj hplace' hsame (readText_eq_ok_iff_read.1 (readText_of_write h))]
    · exact hsame

/-- A path leads to a file exactly if something is read there. -/
theorem isFile_iff : fs.isFile path = true ↔ ∃ c, fs.read path = .ok c := by
  simp only [read_eq_ok_iff, isFile, find?, place?]
  cases fs.resolve path with
  | error e => simp
  | ok p =>
    cases hn : fs.node? p with
    | none => simp [hn]
    | some n =>
      cases n with
      | dir => simp [hn]
      | link t => by_cases hwants : wantsDirectory path = true <;> simp [hwants, hn]
      | file d => by_cases hwants : wantsDirectory path = true <;> simp [hwants, hn]

/-- Writing over a text leaves every path a path to a file, or to none. -/
theorem isFile_write_over {old : String} (hold : fs.readText path = .ok old)
    (h : fs.write path text = .ok fs') (other : String) : fs'.isFile other = fs.isFile other := by
  rw [Bool.eq_iff_iff, isFile_iff, isFile_iff]
  rcases read_write_over hold h other with ⟨hread, -, hread'⟩ | hsame
  · exact iff_of_true ⟨_, hread'⟩ ⟨_, hread⟩
  · rw [hsame]

/-! ### Making directories -/

/-- Nothing but directories has been made, and nothing has been taken away; they are made at
places of a kind. -/
structure Furnishes (kind : Place → Prop) (fs fs' : FileSystem) : Prop where
  workingDir : fs'.workingDir = fs.workingDir
  old : ∀ q n, fs.node? q = some n → fs'.node? q = some n
  new : ∀ q, fs'.node? q = fs.node? q ∨ kind q ∧ fs.node? q = none ∧ fs'.node? q = some .dir

namespace Furnishes

variable {kind : Place → Prop}

theorem refl (fs : FileSystem) : Furnishes kind fs fs := ⟨rfl, fun _ _ => id, fun _ => Or.inl rfl⟩

theorem trans (h : Furnishes kind fs fs') (h' : Furnishes kind fs' fs'') :
    Furnishes kind fs fs'' where
  workingDir := h'.workingDir.trans h.workingDir
  old q n hq := h'.old q n (h.old q n hq)
  new q := by
    rcases h.new q with heq | ⟨hk, hnone, hdir⟩
    · rw [← heq]
      exact h'.new q
    · exact Or.inr ⟨hk, hnone, h'.old q _ hdir⟩

theorem builds (h : Furnishes kind fs fs') : Builds fs fs' where
  workingDir := h.workingDir
  links q t := by
    rcases h.new q with heq | ⟨-, hnone, hdir⟩
    · rw [heq]
    · rw [hnone, hdir]
      simp
  dirs q hq := h.old q _ hq

theorem put (hnone : fs.node? p = none) (hk : kind p) : Furnishes kind fs (fs.put p .dir) := by
  have hnotdir : fs.node? p ≠ some .dir := by simp [hnone]
  have hput : ∀ q, (fs.put p .dir).node? q = if q = p then some .dir else fs.node? q :=
    node?_put .dir (ne_nil_of_not_dir hnotdir)
  refine ⟨workingDir_put fs p _, fun q n hq => ?_, fun q => ?_⟩
  · rw [hput, if_neg, hq]
    rintro rfl
    cases hnone.symm.trans hq
  · rw [hput]
    by_cases h : q = p
    · rw [if_pos h, h]
      exact Or.inr ⟨hk, hnone, rfl⟩
    · rw [if_neg h]
      exact Or.inl rfl

end Furnishes

/-- A directory that is made stands where its path says. -/
theorem makeDir_eq_ok (h : fs.makeDir path = .ok fs') :
    ∃ p, fs.locate path = .ok p ∧ fs.node? p = none ∧ fs' = fs.put p .dir := by
  rw [makeDir] at h
  split at h
  · cases h
  · next p hp =>
    split at h
    · cases h
    · next hnone =>
      split at h
      · exact ⟨p, hp, by simpa using hnone, (Except.ok.inj h).symm⟩
      · cases h

theorem orDir_eq_ok {made : Except IoError FileSystem} (h : fs.orDir path made = .ok fs') :
    made = .ok fs' ∨ fs' = fs := by
  cases made with
  | ok files => exact Or.inl h
  | error e =>
    rw [orDir] at h
    split at h
    · exact Or.inr (Except.ok.inj h).symm
    · cases h

/-- Of some directories each is made where its path says, or there is one. -/
theorem furnishes_makeDirs {kind : Place → Prop} {paths : List String}
    (hkind : ∀ a ∈ paths, a.isEmpty = false → ∀ gs p, Furnishes kind fs gs →
      gs.locate a = .ok p → kind p)
    (h : fs.makeDirs paths = .ok fs') : Furnishes kind fs fs' := by
  -- the list starts with the innermost directory, which is made after its parents
  induction paths generalizing fs' with
  | nil => cases h
  | cons a parents ih =>
    have hmake : ∀ {gs gs'}, a.isEmpty = false → Furnishes kind fs gs → gs.makeDir a = .ok gs' →
        Furnishes kind fs gs' := by
      intro gs gs' ha hgs hmade
      obtain ⟨p, hp, hnone, rfl⟩ := makeDir_eq_ok hmade
      exact hgs.trans (.put hnone (hkind a List.mem_cons_self ha gs p hgs hp))
    rw [makeDirs] at h
    split at h
    · exact Except.ok.inj h ▸ .refl fs
    · next ha =>
      have ha : a.isEmpty = false := by simpa using ha
      split at h
      · split at h
        · cases h
        · next files hfiles =>
          have hparents := ih (fun a ha => hkind a (List.mem_cons_of_mem _ ha)) hfiles
          rcases orDir_eq_ok h with hmade | rfl
          · exact hmake ha hparents hmade
          · exact hparents
      · rcases orDir_eq_ok h with hmade | rfl
        · exact hmake ha (.refl fs) hmade
        · exact .refl _

theorem furnishes_createDirAll (h : fs.createDirAll path = .ok fs') :
    Furnishes (fun _ => True) fs fs' :=
  furnishes_makeDirs (fun _ _ _ _ _ _ _ => trivial) h

/-- **Directories that are made take nothing away.** -/
theorem read_createDirAll (h : fs.createDirAll path = .ok fs') (hread : fs.read other = .ok c) :
    fs'.read other = .ok c := by
  have hmade := furnishes_createDirAll h
  obtain ⟨q, hq, hnode, hfile⟩ := read_eq_ok_iff.1 hread
  exact read_eq_ok_iff.2 ⟨q, hmade.builds.resolve hq, hmade.old q _ hnode, hfile⟩

theorem exists_ancestors (path : String) :
    ∃ parents, Path.ancestors path = path :: parents := by
  rw [Path.ancestors]
  cases path.length with
  | zero => exact ⟨_, rfl⟩
  | succ n =>
    rw [Path.ancestorsWithin]
    cases Path.parent? path <;> exact ⟨_, rfl⟩

/-- Where there is a directory, none has to be made. -/
theorem createDirAll_of_isDir (h : fs.isDir path = true) : fs.createDirAll path = .ok fs := by
  obtain ⟨parents, hparents⟩ := exists_ancestors path
  have hexists : fs.makeDir path = .error .alreadyExists := by
    obtain ⟨p, hp, hdir⟩ := isDir_iff.1 h
    obtain ⟨q, hq, hlinked⟩ := locate_of_resolve hp
    have hsome : (fs.node? q).isSome = true := by
      rcases hlinked with rfl | ⟨t, ht⟩
      · rw [hdir]
        rfl
      · rw [ht]
        rfl
    rw [makeDir, hq]
    exact if_pos hsome
  rw [createDirAll, hparents, makeDirs]
  split
  · rfl
  · rw [hexists]
    exact if_pos h

theorem createDirAll_of_isEmpty (h : path.isEmpty = true) : fs.createDirAll path = .ok fs := by
  obtain ⟨parents, hparents⟩ := exists_ancestors path
  rw [createDirAll, hparents, makeDirs, if_pos h]

/-- A directory that has been made is there. -/
theorem isDir_of_makeDir (h : fs.makeDir path = .ok fs') : fs'.isDir path = true := by
  obtain ⟨p, hp, hnone, rfl⟩ := makeDir_eq_ok h
  have hresolve : fs.resolve path = .ok p := resolve_of_locate (by simp [hnone]) hp
  have hmade : Furnishes (fun _ => True) fs (fs.put p .dir) := .put hnone trivial
  have hnotdir : fs.node? p ≠ some .dir := by simp [hnone]
  refine isDir_iff.2 ⟨p, hmade.builds.resolve hresolve, ?_⟩
  rw [node?_put .dir (ne_nil_of_not_dir hnotdir), if_pos rfl]

theorem isDir_of_orDir {made : Except IoError FileSystem}
    (hmade : ∀ files, made = .ok files → files.isDir path = true)
    (h : fs.orDir path made = .ok fs') : fs'.isDir path = true := by
  cases made with
  | ok files => exact hmade fs' h
  | error e =>
    rw [orDir] at h
    split at h
    · next hdir => exact Except.ok.inj h ▸ hdir
    · cases h

/-- So is one that has been made with those on the way to it. -/
theorem isDir_of_createDirAll (hne : path.isEmpty = false) (h : fs.createDirAll path = .ok fs') :
    fs'.isDir path = true := by
  obtain ⟨parents, hparents⟩ := exists_ancestors path
  rw [createDirAll, hparents, makeDirs, if_neg (by simp [hne])] at h
  split at h
  · split at h
    · cases h
    · exact isDir_of_orDir (fun _ => isDir_of_makeDir) h
  · exact isDir_of_orDir (fun _ => isDir_of_makeDir) h

/-! ### Saving -/

/-- Whether a file can be saved at a path: its directory is there or can be made, and then the
file can be written. -/
def canSave (fs : FileSystem) (path : String) : Bool :=
  match Path.parent? path with
  | none => (fs.writable path).isOk
  | some dir =>
    match fs.createDirAll dir with
    | .error _ => false
    | .ok files => (files.writable path).isOk

/-- Where a file can be saved and its directory is there, it can be written. -/
theorem exists_write_of_canSave (h : fs.canSave path = true)
    (hdir : ∀ dir ∈ Path.parent? path, dir.isEmpty = false → fs.isDir dir = true) (text : String) :
    ∃ fs', fs.write path text = .ok fs' := by
  have hwritable : (fs.writable path).isOk = true := by
    rw [canSave] at h
    cases hparent : Path.parent? path with
    | none =>
      rw [hparent] at h
      exact h
    | some dir =>
      have hmade : fs.createDirAll dir = .ok fs := by
        cases hempty : dir.isEmpty with
        | true => exact createDirAll_of_isEmpty hempty
        | false => exact createDirAll_of_isDir (hdir dir hparent hempty)
      rw [hparent] at h
      dsimp only at h
      rw [hmade] at h
      exact h
  rw [write, writeContent]
  cases hplace : fs.writable path with
  | error e =>
    rw [hplace] at hwritable
    cases hwritable
  | ok place => exact ⟨_, rfl⟩

/-- Where a file can be saved, its directory can be made. -/
theorem exists_createDirAll_of_canSave (h : fs.canSave path = true) {dir : String}
    (hparent : Path.parent? path = some dir) : ∃ files, fs.createDirAll dir = .ok files := by
  rw [canSave, hparent] at h
  dsimp only at h
  cases hmade : fs.createDirAll dir with
  | error e =>
    rw [hmade] at h
    cases h
  | ok files => exact ⟨files, rfl⟩

/-! ### Straight paths -/

/-- The names that components go down by, if they go no other way. -/
def namesOf? : List Path.Component → Option (List String)
  | [] => some []
  | .here :: rest => namesOf? rest
  | .name s :: rest => (namesOf? rest).map (s :: ·)
  | .root :: _ | .up :: _ => none

/-- The names that a path goes down by. -/
def straight? (path : String) : Option (List String) := namesOf? (Path.components path)

/-- There are no links. -/
def Linkless (fs : FileSystem) : Prop := ∀ q t, fs.node? q ≠ some (.link t)

theorem Linkless.of_sameLinks (hno : fs.Linkless) (h : SameLinks fs fs') : fs'.Linkless :=
  fun q t ht => hno q t ((h.links q t).1 ht)

theorem linkless_of_entries (h : ∀ e ∈ fs.entries, (e.2 matches .link _) = false) :
    fs.Linkless := by
  intro q t ht
  rw [node?] at ht
  split at ht
  · cases ht
  · obtain ⟨before, after, hentries, -⟩ := List.lookup_eq_some_iff.1 ht
    have hlink := h (q, .link t) (hentries ▸ List.mem_append_right _ List.mem_cons_self)
    cases hlink

section

variable {node node' : Place → Option Node} {here : Place} {comps : List Path.Component}
  {names : List String} {links : Nat}

/-- Without links a step ends at a place. -/
theorem step_linkless (hno : ∀ q t, node q ≠ some (.link t)) {comp : Path.Component}
    {r : Place × Option (List Path.Component)} (h : step node here comp = .ok r) :
    ∃ q, r = (q, none) ∧ ∀ names, namesOf? [comp] = some names → q = here ++ names := by
  cases comp with
  | root =>
    rw [step_root] at h
    obtain rfl := Except.ok.inj h
    exact ⟨[], rfl, fun names hnames => by cases hnames⟩
  | here | up =>
    rw [step_eq (by simp)] at h
    split at h
    · obtain rfl := Except.ok.inj h
      refine ⟨_, rfl, fun names hnames => ?_⟩
      cases hnames <;> rw [List.append_nil]
    · cases h
    · cases h
  | name s =>
    rcases step_name_cases h with ⟨rfl, -⟩ | ⟨t, -, ht⟩
    · refine ⟨_, rfl, fun names hnames => ?_⟩
      obtain rfl := Option.some.inj hnames
      rfl
    · exact absurd ht (hno _ t)

/-- A component that goes down goes first. -/
theorem namesOf?_cons {comp : Path.Component} (h : namesOf? (comp :: comps) = some names) :
    ∃ front rest, namesOf? [comp] = some front ∧ namesOf? comps = some rest ∧
      names = front ++ rest := by
  cases comp with
  | root | up => cases h
  | here => exact ⟨[], names, rfl, h, rfl⟩
  | name s =>
    obtain ⟨rest, hrest, rfl⟩ := Option.map_eq_some_iff.1 h
    exact ⟨[s], rest, rfl, hrest, rfl⟩

/-- Without links, a way straight down ends at its names. -/
theorem walk_straight (hno : ∀ q t, node q ≠ some (.link t)) (hnames : namesOf? comps = some names)
    (h : walk node links here comps = .ok p) : p = here ++ names := by
  -- no step goes back or through a link, so each adds the name it is for
  induction comps generalizing here names with
  | nil =>
    rw [walk_nil] at h
    obtain rfl := Option.some.inj hnames
    rw [List.append_nil, Except.ok.inj h]
  | cons comp comps ih =>
    obtain ⟨front, rest, hfront, hrest, rfl⟩ := namesOf?_cons hnames
    cases hstep : step node here comp with
    | error e =>
      rw [walk_cons_of_error hstep] at h
      cases h
    | ok r =>
      obtain ⟨q, rfl, hq⟩ := step_linkless hno hstep
      rw [walk_cons hstep] at h
      rw [ih hrest h, hq front hfront, List.append_assoc]

/-- It depends on what stands along it. -/
theorem walk_straight_congr (hno : ∀ q t, node q ≠ some (.link t))
    (hnames : namesOf? comps = some names)
    (hsame : ∀ q, q <+: names → node' (here ++ q) = node (here ++ q)) :
    walk node' links here comps = walk node links here comps := by
  -- only the places on the way are looked at, and there the two agree
  induction comps generalizing here names with
  | nil => rw [walk_nil, walk_nil]
  | cons comp comps ih =>
    obtain ⟨front, rest, hfront, hrest, rfl⟩ := namesOf?_cons hnames
    have hhere : node' here = node here := by simpa using hsame [] (List.nil_prefix)
    have hstep : step node' here comp = step node here comp := by
      cases comp with
      | root => rfl
      | here | up => rw [step_eq (by simp), step_eq (by simp), hhere]; rfl
      | name s =>
        obtain rfl := Option.some.inj hfront
        rw [step_eq (by simp), step_eq (by simp), hhere, onward, onward,
          hsame [s] (List.prefix_append _ _)]
    cases hr : step node here comp with
    | error e => rw [walk_cons_of_error (hstep.trans hr), walk_cons_of_error hr]
    | ok r =>
      obtain ⟨q, rfl, hq⟩ := step_linkless hno hr
      rw [walk_cons (hstep.trans hr), walk_cons hr, hq front hfront]
      refine ih hrest fun q hq => ?_
      rw [List.append_assoc]
      exact hsame _ ((List.prefix_append_right_inj front).2 hq)

end

/-- Without links a straight path leads to its names. -/
theorem resolve_straight {names : List String} (hno : fs.Linkless)
    (hnames : straight? path = some names) (h : fs.resolve path = .ok p) :
    p = fs.workingDir ++ names := by
  rw [resolve] at h
  split at h
  · cases h
  · exact walk_straight hno hnames h

/-- What is read at the end of a straight path depends on what stands along it. -/
theorem read_straight_congr {names : List String} (hno : fs.Linkless)
    (hnames : straight? path = some names) (hdir : fs'.workingDir = fs.workingDir)
    (hsame : ∀ q, q <+: names → fs'.node? (fs.workingDir ++ q) = fs.node? (fs.workingDir ++ q)) :
    fs'.read path = fs.read path := by
  have hresolve : fs'.resolve path = fs.resolve path := by
    rw [resolve, resolve, follow, follow, hdir, walk_straight_congr hno hnames hsame]
  rw [read, read, hresolve]
  cases hp : fs.resolve path with
  | error e => rfl
  | ok p =>
    obtain rfl := resolve_straight hno hnames hp
    dsimp only
    rw [hsame names List.prefix_rfl]

end FileSystem

/-- A path that goes straight down below another name than a second one. -/
def Aside (path other : String) : Prop :=
  ∃ names ∈ FileSystem.straight? path, ∃ others ∈ FileSystem.straight? other,
    others ≠ [] ∧ names.head? ≠ others.head?

instance (path other : String) : Decidable (Aside path other) :=
  inferInstanceAs (Decidable (∃ names ∈ FileSystem.straight? path,
    ∃ others ∈ FileSystem.straight? other, others ≠ [] ∧ names.head? ≠ others.head?))

namespace Aside

variable {fs fs' : FileSystem} {path other text : String}

/-- The places along the one path are not the place of the other. -/
theorem ne_of_prefix {names others q : List String} (hq : q <+: names) (hothers : others ≠ [])
    (hhead : names.head? ≠ others.head?) : q ≠ others := by
  rintro rfl
  obtain ⟨more, rfl⟩ := hq
  obtain ⟨s, rest, rfl⟩ := List.exists_cons_of_ne_nil hothers
  exact hhead rfl

/-- **A path aside reads the same when a file is written.** -/
theorem read_write (h : Aside path other) (hno : fs.Linkless)
    (hwrite : fs.write other text = .ok fs') : fs'.read path = fs.read path := by
  obtain ⟨names, hnames, others, hothers, hne, hhead⟩ := h
  obtain ⟨p, hp, hdir, -, -, rfl⟩ := FileSystem.write_eq_ok hwrite
  obtain rfl := FileSystem.resolve_straight hno hothers hp
  refine FileSystem.read_straight_congr hno hnames (FileSystem.workingDir_put ..) fun q hq => ?_
  rw [FileSystem.node?_put _ (FileSystem.ne_nil_of_not_dir hdir), if_neg]
  exact fun heq => ne_of_prefix hq hne hhead (List.append_cancel_left heq)

/-- **A path aside reads the same when directories are made.** -/
theorem read_createDirAll {dir : String}
    (h : ∀ a ∈ Path.ancestors dir, a.isEmpty = true ∨ Aside path a) (hno : fs.Linkless)
    (hmade : fs.createDirAll dir = .ok fs') : fs'.read path = fs.read path := by
  obtain ⟨parents, hparents⟩ := FileSystem.exists_ancestors dir
  rcases h dir (hparents ▸ List.mem_cons_self) with hempty | ⟨names, hnames, -⟩
  · rw [FileSystem.createDirAll, hparents, FileSystem.makeDirs, if_pos hempty] at hmade
    rw [Except.ok.inj hmade]
  · -- none of the directories stands along the path
    have hfurnishes : FileSystem.Furnishes
        (fun p => ∀ q, q <+: names → p ≠ fs.workingDir ++ q) fs fs' := by
      refine FileSystem.furnishes_makeDirs (fun a ha hsome gs p hgs hp q hq => ?_) hmade
      obtain ⟨names', hnames', others, hothers, hne, hhead⟩ :=
        (h a ha).resolve_left (by simp [hsome])
      obtain rfl := Option.some.inj (hnames.symm.trans hnames')
      have hnogs := hno.of_sameLinks hgs.builds.toSameLinks
      rw [FileSystem.resolve_straight hnogs hothers (FileSystem.resolve_of_locate (hnogs p) hp),
        hgs.workingDir]
      exact fun heq => ne_of_prefix hq hne hhead (List.append_cancel_left heq).symm
    refine FileSystem.read_straight_congr hno hnames hfurnishes.workingDir fun q hq => ?_
    exact (hfurnishes.new _).resolve_right fun hk => hk.1 q hq rfl

end Aside

/-! ### Worlds -/

variable {ε : Type} {path : String} {u v w : World ε}

/-- What the file at a path holds in one world, it holds in another. -/
def Keeps (path : String) (w w' : World ε) : Prop :=
  ∀ c, w.files.read path = .ok c → w'.files.read path = .ok c

namespace Keeps

theorem refl (path : String) (w : World ε) : Keeps path w w := fun _ => id

theorem trans (h : Keeps path u v) (h' : Keeps path v w) : Keeps path u w :=
  fun c hc => h' c (h c hc)

theorem of_files_eq (h : v.files = w.files) : Keeps path v w := fun _ hc => by rwa [← h]

theorem holds {text : String} (h : Keeps path v w) (hv : Holds path text v) :
    Holds path text w :=
  FileSystem.readText_eq_ok_iff_read.2 (h _ (FileSystem.readText_eq_ok_iff_read.1 hv))

end Keeps

/-- Where there is a directory for the file at a path in one world, there is in another. -/
def Houses (path : String) (w w' : World ε) : Prop :=
  ∀ dir ∈ Path.parent? path, w.files.isDir dir = true → w'.files.isDir dir = true

namespace Houses

theorem refl (path : String) (w : World ε) : Houses path w w := fun _ _ => id

theorem trans (h : Houses path u v) (h' : Houses path v w) : Houses path u w :=
  fun dir hdir hd => h' dir hdir (h dir hdir hd)

theorem of_builds (h : FileSystem.Builds v.files w.files) : Houses path v w :=
  fun _ _ => h.isDir

end Houses

/-- The file at a path holds some text. -/
def Readable (path : String) (w : World ε) : Prop := ∃ text, Holds path text w

theorem Keeps.readable (h : Keeps path v w) (hv : Readable path v) : Readable path w := by
  obtain ⟨text, htext⟩ := hv
  exact ⟨text, h.holds htext⟩

end HarnessRepair
