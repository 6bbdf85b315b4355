import HarnessRepair.Proofs.Files.Walk
import HarnessRepair.World

/-!
# Writing over a file

A file that can be read as a text can be written: its path leads to a place that
holds a file, and a file put there moves no path.  So the owner of a file never
fails to write it as long as all others leave it where it is.

## Main definitions

* `Holds path text w` — the file at `path` holds `text` in the world `w`.
* `Spares path m` — the computation `m` leaves the file at `path` as it is.
* `Told w w'` — nothing but events lies between two worlds.

## Main results

* `FileSystem.readText_write` — **a text written over a text is read back.**
* `FileSystem.write_eq_error_iff` — whether a text can be written does not depend on it.
* `run_writeText` — the same for a computation on the world.
-/

namespace HarnessRepair

/-! ### Places -/

namespace FileSystem

/-- An entry added in order is found at its place, and hides no other. -/
theorem lookup_insert_place (place other : Place) (n : Node) (entries : List (Place × Node)) :
    (insertEntry place n entries).lookup other =
      if other = place then some n else entries.lookup other := by
  induction entries with
  | nil =>
    rw [insertEntry, List.lookup_cons, List.lookup_nil]
    by_cases h : other = place
    · rw [if_pos h, beq_iff_eq.2 h]
    · rw [if_neg h, beq_eq_false_iff_ne.2 h]
  | cons entry rest ih =>
    obtain ⟨p, m⟩ := entry
    rw [insertEntry]
    by_cases hp : place = p
    · -- the entry takes the place of the one that is there
      subst hp
      rw [if_pos rfl, List.lookup_cons, List.lookup_cons]
      by_cases h : other = place
      · rw [if_pos h, beq_iff_eq.2 h]
      · rw [if_neg h, beq_eq_false_iff_ne.2 h]
    · rw [if_neg hp]
      by_cases hb : Place.before place p = true
      · rw [if_pos hb, List.lookup_cons]
        by_cases h : other = place
        · rw [if_pos h, beq_iff_eq.2 h]
        · rw [if_neg h, beq_eq_false_iff_ne.2 h]
      · rw [if_neg hb, List.lookup_cons, List.lookup_cons, ih]
        by_cases ho : other = p
        · have hne : other ≠ place := fun h => hp (h.symm.trans ho)
          rw [if_neg hne, if_neg hne]
        · rw [beq_eq_false_iff_ne.2 ho]

/-- What stands where after a node has been put at a place. -/
theorem node?_put {fs : FileSystem} {place : Place} (n : Node) (hne : place ≠ [])
    (other : Place) :
    (fs.put place n).node? other = if other = place then some n else fs.node? other := by
  rw [put, if_neg hne, node?, node?, lookup_insert_place]
  by_cases h : other = []
  · have ho : other ≠ place := fun h' => hne (h'.symm.trans h)
    rw [if_pos h, if_pos h, if_neg ho]
  · rw [if_neg h, if_neg h]

/-- No directory stands at the root, if none is where it stands. -/
theorem ne_nil_of_not_dir {fs : FileSystem} {place : Place} (h : fs.node? place ≠ some .dir) :
    place ≠ [] := by
  rintro rfl
  exact h (by rw [node?, if_pos rfl])

/-- No file stands at the root. -/
theorem ne_nil_of_file {fs : FileSystem} {place : Place} {c : Content}
    (h : fs.node? place = some (.file c)) : place ≠ [] :=
  ne_nil_of_not_dir (by rw [h]; simp)

theorem workingDir_put (fs : FileSystem) (place : Place) (n : Node) :
    (fs.put place n).workingDir = fs.workingDir := by
  rw [put]
  split <;> rfl

/-- A file put over a file moves no path. -/
theorem resolve_put_over {fs : FileSystem} {place : Place} {c : Content} (d : Content)
    (hfile : fs.node? place = some (.file c)) (path : String) :
    (fs.put place (.file d)).resolve path = fs.resolve path := by
  refine resolve_congr (workingDir_put fs place _) (fun q => ?_) path
  rw [node?_put _ (ne_nil_of_file hfile)]
  by_cases h : q = place
  · rw [if_pos h, h, hfile]
    rfl
  · rw [if_neg h]

/-- What is read stands where the path leads. -/
theorem read_eq_ok_iff {fs : FileSystem} {path : String} {c : Content} :
    fs.read path = .ok c ↔
      ∃ place, fs.resolve path = .ok place ∧ fs.node? place = some (.file c) ∧
        wantsDirectory path = false := by
  rw [read]
  cases hplace : fs.resolve path with
  | error e => simp
  | ok place =>
    cases hn : fs.node? place with
    | none => simp [hn]
    | some n =>
      cases n with
      | file d => by_cases hw : wantsDirectory path = true <;> simp [hn, hw]
      | dir | link _ => simp [hn]

/-- A text is read where the content is one. -/
theorem readText_eq_ok_iff_read {fs : FileSystem} {path text : String} :
    fs.readText path = .ok text ↔ fs.read path = .ok (.text text) := by
  rw [readText]
  constructor
  · intro h
    split at h
    · next s hs =>
      rw [hs, Except.ok.inj h]
    · cases h
    · cases h
  · intro h
    rw [h]

/-- Where a text is read, its path leads to a file that holds it. -/
theorem readText_eq_ok_iff {fs : FileSystem} {path text : String} :
    fs.readText path = .ok text ↔
      ∃ place, fs.resolve path = .ok place ∧ fs.node? place = some (.file (.text text)) ∧
        wantsDirectory path = false :=
  readText_eq_ok_iff_read.trans read_eq_ok_iff

/-- **A text written over a text is read back.** -/
theorem readText_write {fs : FileSystem} {path old : String} (h : fs.readText path = .ok old)
    (new : String) : ∃ fs', fs.write path new = .ok fs' ∧ fs'.readText path = .ok new := by
  obtain ⟨place, hplace, hnode, hdir⟩ := readText_eq_ok_iff.1 h
  have hwritable : fs.writable path = .ok place := by
    rw [writable, hplace]
    simp only [hnode, hdir, Bool.false_eq_true, if_false]
  refine ⟨fs.put place (.file (.text new)), ?_, ?_⟩
  · rw [write, writeContent, hwritable]
    rfl
  · refine readText_eq_ok_iff.2 ⟨place, (resolve_put_over _ hnode path).trans hplace, ?_, hdir⟩
    rw [node?_put _ (ne_nil_of_file hnode), if_pos rfl]

/-! ### Whether a file can be written -/

/-- Whether a file can be written does not depend on the text. -/
theorem write_eq_error_iff {fs : FileSystem} {path text : String} {e : IoError} :
    fs.write path text = .error e ↔ fs.writable path = .error e := by
  rw [write, writeContent]
  cases fs.writable path with
  | error e' =>
    exact ⟨fun h => congrArg _ (Except.error.inj h), fun h => congrArg _ (Except.error.inj h)⟩
  | ok place => exact iff_of_false nofun nofun

theorem exists_write_iff {fs : FileSystem} {path text : String} :
    (∃ files, fs.write path text = .ok files) ↔ ∃ place, fs.writable path = .ok place := by
  rw [write, writeContent]
  cases fs.writable path with
  | error e => exact iff_of_false nofun nofun
  | ok place => exact iff_of_true ⟨_, rfl⟩ ⟨_, rfl⟩

end FileSystem

/-! ### Computations on the world -/

variable {ε α β : Type}

/-- The file at a path holds a text. -/
def Holds (path text : String) (w : World ε) : Prop := w.files.readText path = .ok text

/-- A computation that leaves the file at a path as it is. -/
def Spares (path : String) (m : Run ε α) : Prop :=
  ∀ w text, Holds path text w → Holds path text (m.run w).2

/-- Nothing but events lies between two worlds. -/
structure Told (w w' : World ε) : Prop where
  files_eq : w'.files = w.files
  outside_eq : w'.outside = w.outside

theorem Told.refl (w : World ε) : Told w w := ⟨rfl, rfl⟩

theorem Told.trans {u v w : World ε} (h : Told u v) (h' : Told v w) : Told u w :=
  ⟨h'.files_eq.trans h.files_eq, h'.outside_eq.trans h.outside_eq⟩

theorem Told.holds {path text : String} {w w' : World ε} (h : Told w w')
    (hw : Holds path text w) : Holds path text w' := by
  rw [Holds, h.files_eq]
  exact hw

/-- One computation after another. -/
theorem run_bind (m : Run ε α) (f : α → Run ε β) (w : World ε) :
    (m >>= f).run w = (f (m.run w).1).run (m.run w).2 := rfl

/-- Looking at the world leaves it as it is. -/
theorem run_get (w : World ε) : (get : Run ε (World ε)).run w = (w, w) := rfl

/-- Telling an event touches neither the files nor the outside. -/
theorem run_tell (level : LogLevel) (source : LogSource) (message : String)
    (fields : List (String × FieldValue)) (w : World ε) :
    (tell level source message fields).run w =
      ((), { w with events := w.events ++ [⟨level, source, message, fields⟩] }) := rfl

/-- Telling an event leaves every file as it is. -/
theorem holds_tell {path text : String} {level : LogLevel} {source : LogSource}
    {message : String} {fields : List (String × FieldValue)} {w : World ε} :
    Holds path text ((tell level source message fields).run w).2 ↔ Holds path text w := Iff.rfl

/-- Reading a file answers its text. -/
theorem run_readText {path text : String} {w : World ε} (h : Holds path text w) :
    (readText path).run w = (.ok text, w) := by
  have hrun : (readText path).run w = (w.files.readText path, w) := rfl
  rw [hrun, h]

/-- Where a file holds a text, a text can be written. -/
theorem Holds.exists_writable {path text : String} {w : World ε} (h : Holds path text w) :
    ∃ place, w.files.writable path = .ok place := by
  obtain ⟨files, hwrite, -⟩ := FileSystem.readText_write h ""
  exact FileSystem.exists_write_iff.1 ⟨files, hwrite⟩

/-- An operation on the files goes through, or leaves them as they are. -/
theorem run_onFiles (op : FileSystem → Except IoError FileSystem) (w : World ε) :
    (onFiles op).run w =
      match op w.files with
      | .ok files => (.ok (), { w with files := files })
      | .error e => (.error e, w) := by
  have hrun : (onFiles op).run w =
      (match op w.files with
        | .ok files => do set { w with files := files }; return .ok ()
        | .error e => return .error e : Run ε (Except IoError Unit)).run w := rfl
  rw [hrun]
  cases op w.files <;> rfl

/-- **Writing over a text succeeds**, and the file then holds what has been written. -/
theorem run_writeText {path old : String} {w : World ε} (h : Holds path old w) (new : String) :
    ∃ w', (writeText path new).run w = (.ok (), w') ∧ Holds path new w' ∧
      w'.outside = w.outside := by
  obtain ⟨files, hwrite, hread⟩ := FileSystem.readText_write h new
  refine ⟨{ w with files := files }, ?_, hread, rfl⟩
  rw [writeText, run_onFiles, hwrite]

end HarnessRepair
