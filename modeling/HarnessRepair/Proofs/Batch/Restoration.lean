import HarnessRepair.Proofs.Batch.Conduct
import HarnessRepair.Proofs.Files.Apart

/-!
# How a session in test mode ends

When a session in test mode has run, a copy of the harness is saved, the text read at the start
is written back, and the store is closed, which then has nothing left to do.  As long as the
others leave the harness as it is, none of this can fail but the saving; and that cannot either,
as long as they let it.

## Main definitions

* `Tends inv rely guar path` — a session that alone takes care of the file at `path`.
* `LetsSave rely path` — the others let a file be saved at `path`.
* `PatchStore.restored` — the store with the text read at the start.

## Main results

* `preserveSteps_ensures` — **a copy is saved** where the others let it be.
* `endSteps_ensures`, `endSteps_restores` — **the harness gets its text back**, saved or not.
-/

namespace HarnessRepair

open Steps

variable {ε : Type}

/-- One that takes care of the file at a path, which holds a text as long as `inv` is true: the
others leave it as it is, and it guarantees what telling does, and what writing over the file
does. -/
structure Tends (inv : World ε → Prop) (rely guar : World ε → World ε → Prop) (path : String) :
    Prop where
  still : ∀ w w', rely w w' → rely w' w'
  readable : ∀ w, inv w → Readable path w
  stays : ∀ w w', rely w w' → inv w → inv w'
  holds : ∀ (w w' : World ε) (text : String), rely w w' → Holds path text w → Holds path text w'
  tells : ∀ (w : World ε) (told : List LogEvent), inv w →
    guar w { w with events := w.events ++ told } ∧ inv { w with events := w.events ++ told }
  writes : ∀ (w : World ε) (text : String) (files : FileSystem) (told : List LogEvent),
    inv w → w.files.write path text = .ok files →
      guar w { w with files := files, events := w.events ++ told } ∧
        inv { w with files := files, events := w.events ++ told }

namespace Tends

variable {inv : World ε → Prop} {rely guar : World ε → World ε → Prop} {path : String}

/-- Telling first. -/
theorem tell_bind (h : Tends inv rely guar path) {α : Type} {f : Unit → Steps ε α}
    {post : α → World ε → Prop} {level : LogLevel} {source : LogSource} {message : String}
    {fields : List (String × FieldValue)} {w : World ε} (hw : inv w)
    (hf : ∀ u, rely w u → inv { u with events := u.events ++ [⟨level, source, message, fields⟩] } →
      (f ()).Ensures rely guar post
        { u with events := u.events ++ [⟨level, source, message, fields⟩] }) :
    (step (tell level source message fields) >>= f).Ensures rely guar post w :=
  .step_bind fun u hu =>
    have htold := h.tells u [⟨level, source, message, fields⟩] (h.stays w u hu hw)
    ⟨htold.1, hf u hu htold.2⟩

/-- What telling does is guaranteed. -/
theorem inert (h : Tends inv rely guar path) {α : Type} {m : Run ε α} (hm : Inert m)
    {w : World ε} (hw : inv w) : guar w (m.run w).2 ∧ inv (m.run w).2 := by
  obtain ⟨a, ha⟩ := hm
  obtain ⟨told, hrun⟩ := ha w
  rw [hrun]
  exact h.tells w told hw

/-- What writing over the file does is guaranteed. -/
theorem pens (h : Tends inv rely guar path) {α : Type} {m : Run ε α} (hm : Pens path m)
    {w : World ε} (hw : inv w) : guar w (m.run w).2 ∧ inv (m.run w).2 := by
  obtain ⟨old, hold⟩ := h.readable w hw
  obtain ⟨a, text, ha⟩ := hm
  obtain ⟨files, told, hwrite, hrun⟩ := ha w old hold
  rw [hrun]
  exact h.writes w text files told hw hwrite

/-- What a step of a store does is guaranteed. -/
theorem clerical (h : Tends inv rely guar path) {α : Type} {m : Run ε α} (hm : Clerical path m)
    {w : World ε} (hw : inv w) : guar w (m.run w).2 ∧ inv (m.run w).2 :=
  hm.elim (fun hm => h.inert hm hw) fun hm => h.pens hm hw

/-- What is guaranteed may be weaker. -/
theorem imp (h : Tends inv rely guar path) {guar' : World ε → World ε → Prop}
    (himp : ∀ w w', guar w w' → guar' w w') : Tends inv rely guar' path :=
  { h with
    tells := fun w told hw => (h.tells w told hw).imp (himp _ _) id
    writes := fun w text files told hw hwrite =>
      (h.writes w text files told hw hwrite).imp (himp _ _) id }

end Tends

/-! ### The store -/

/-- The store with the text read at the start. -/
def PatchStore.restored (s : PatchStore) : PatchStore :=
  { s with inFlight := none, current := { source := s.pristine } }

/-- Over a text, the text read at the start is written back. -/
theorem PatchStore.run_restorePristine_of_readable {s : PatchStore} {w : World ε}
    (h : Readable s.path w) :
    ∃ u, s.restorePristine.run w = ((.ok (), s.restored), u) ∧ u.events = w.events ∧
      w.files.write s.path s.pristine = .ok u.files := by
  obtain ⟨old, hold⟩ := h
  obtain ⟨files, hwrite, -⟩ := FileSystem.readText_write hold s.pristine
  refine ⟨{ w with files := files }, ?_, rfl, hwrite⟩
  rw [restorePristine, install, run_bind, writeText, run_onFiles]
  dsimp only
  rw [hwrite]
  rfl

/-- A store that holds the text read at the start has nothing left to do. -/
theorem PatchStore.closeSteps_idle {s : PatchStore} (hfree : s.inFlight = none)
    (hsame : s.source = s.pristine) : (s.closeSteps : Steps ε Unit) = pure () := by
  rw [closeSteps, hfree]
  exact if_neg fun h => h.2 hsame

/-! ### A copy is saved -/

/-- The others let a file be saved at a path: whatever they have done, it can be, and the
directory for it is still there. -/
structure LetsSave (rely : World ε → World ε → Prop) (path : String) : Prop where
  canSave : ∀ w w', rely w w' → w'.files.canSave path = true
  houses : ∀ w w', rely w w' → Houses path w w'

section

variable {inv C : World ε → Prop} {rely guar : World ε → World ε → Prop} {path text : String}

/-- Saving a copy is harmless if making its directories is, and writing it; and what is left
where it is written is there, if the others let it be saved. -/
theorem preserveSteps_ensures (hstays : ∀ w w', rely w w' → inv w → inv w')
    (hstay : ∀ w w', rely w w' → C w → C w') (hidle : ∀ w, guar w w)
    (hmade : ∀ dir ∈ Path.parent? path, ∀ (w : World ε) (files : FileSystem), inv w →
      w.files.createDirAll dir = .ok files →
        guar w { w with files := files } ∧ inv { w with files := files })
    (hwritten : ∀ (w : World ε) (files : FileSystem), inv w →
      w.files.write path text = .ok files →
        guar w { w with files := files } ∧ inv { w with files := files })
    (hcopied : ∀ (w : World ε) (files : FileSystem), w.files.write path text = .ok files →
      C { w with files := files })
    {w : World ε} (hw : inv w) :
    (preserveSteps path text).Ensures rely guar
      (fun _ u => inv u ∧ (LetsSave rely path → C u)) w := by
  -- the file is written in a step of its own: others may have come in between, so the directory
  -- that was made has to be there still
  have hwrite : ∀ v : World ε, inv v →
      (∀ dir ∈ Path.parent? path, dir.isEmpty = false → v.files.isDir dir = true) →
      (step (writeText path text)).Ensures rely guar
        (fun _ u => inv u ∧ (LetsSave rely path → C u)) v := by
    intro v hv hdir u hu
    have hinv := hstays v u hu hv
    rw [writeText, run_onFiles]
    cases hfiles : u.files.write path text with
    | error e =>
      refine ⟨hidle u, fun u' hu' => ⟨hstays u u' hu' hinv, fun hsave => ?_⟩⟩
      obtain ⟨files, hok⟩ := FileSystem.exists_write_of_canSave (hsave.canSave v u hu)
        (fun dir hparent hne => hsave.houses v u hu dir hparent (hdir dir hparent hne)) text
      cases hok.symm.trans hfiles
    | ok files =>
      obtain ⟨hguar, hinv'⟩ := hwritten u files hinv hfiles
      exact ⟨hguar, fun u' hu' =>
        ⟨hstays _ u' hu' hinv', fun _ => hstay _ u' hu' (hcopied u files hfiles)⟩⟩
  rw [preserveSteps]
  cases hdir : Path.parent? path with
  | none =>
    refine hwrite w hw fun dir hparent => ?_
    rw [hdir] at hparent
    cases hparent
  | some dir =>
    refine .step_bind fun u hu => ?_
    have hinv := hstays w u hu hw
    rw [run_onFiles]
    cases hfiles : u.files.createDirAll dir with
    | error e =>
      refine ⟨hidle u, .pure fun u' hu' => ⟨hstays u u' hu' hinv, fun hsave => ?_⟩⟩
      obtain ⟨files, hok⟩ := FileSystem.exists_createDirAll_of_canSave (hsave.canSave w u hu) hdir
      cases hok.symm.trans hfiles
    | ok files =>
      obtain ⟨hguar, hinv'⟩ := hmade dir hdir u files hinv hfiles
      refine ⟨hguar, hwrite _ hinv' fun dir' hparent hne => ?_⟩
      obtain rfl := Option.some.inj (hdir.symm.trans hparent)
      exact FileSystem.isDir_of_createDirAll hne hfiles

end

/-! ### The end of a session -/

section

variable {inv : World ε → Prop} {rely guar : World ε → World ε → Prop} {s : Session}
  {C : World ε → Prop} {w : World ε}

/-- The harness gets its text back, and what holds besides still does. -/
theorem restoreSteps_ensures (h : Tends inv rely guar s.store.path)
    (hC : Tends inv rely (fun w w' => C w → C w') s.store.path)
    (hstay : ∀ w w', rely w w' → C w → C w') (outcome : SessionOutcome) (hw : inv w)
    (hCw : C w) :
    (restoreSteps s outcome).Ensures rely guar
      (fun t u => t = { s with store := s.store.restored } ∧
        Holds s.store.path s.store.pristine u ∧ C u) w := by
  rw [restoreSteps]
  -- the text is put back, then it is told of; the others come before each of the two
  refine .step_bind fun u₁ hu₁ => ?_
  have hinv₁ := h.stays _ _ hu₁ hw
  have hpens : Pens s.store.path
      (s.store.restorePristine : Run ε (Except PatchError Unit × PatchStore)) :=
    PatchStore.pens_install { s.store with inFlight := none } _
  have hC₁ := (hC.pens hpens hinv₁).1 (hstay _ _ hu₁ hCw)
  obtain ⟨hguar, hinv₂⟩ := h.pens hpens hinv₁
  refine ⟨hguar, ?_⟩
  obtain ⟨u₂, hrun, -, hwrite⟩ :=
    PatchStore.run_restorePristine_of_readable (h.readable _ hinv₁)
  rw [hrun] at hC₁ hinv₂ ⊢
  dsimp only
  have hholds : Holds s.store.path s.store.pristine u₂ := FileSystem.readText_of_write hwrite
  refine h.tell_bind hinv₂ fun u₃ hu₃ _ => .pure fun u₄ hu₄ => ⟨rfl, ?_, ?_⟩
  · exact h.holds _ _ _ hu₄ (holds_tell.2 (h.holds _ _ _ hu₃ hholds))
  · exact hstay _ _ hu₄ ((hC.tells u₃ _ (h.stays _ _ hu₃ hinv₂)).1 (hstay _ _ hu₃ hC₁))

/-- So it does behind the saving of a copy, and what that has left is still there. -/
theorem finishSteps_ensures {b : BatchSettings} (h : Tends inv rely guar s.store.path)
    (hC : Tends inv rely (fun w w' => C w → C w') s.store.path)
    (hstay : ∀ w w', rely w w' → C w → C w') (outcome : SessionOutcome)
    (hsave : (preserveSteps (b.copyPath s.target) s.store.source).Ensures rely guar
      (fun _ u => inv u ∧ C u) w) :
    (finishSteps b s outcome).Ensures rely guar
      (fun t u => t = { s with store := s.store.restored } ∧
        Holds s.store.path s.store.pristine u ∧ C u) w := by
  rw [finishSteps]
  refine hsave.bind h.still fun saved u hu => ?_
  obtain ⟨hinv, hCu⟩ := hu
  cases saved with
  | ok _ => exact restoreSteps_ensures h hC hstay outcome hinv hCu
  | error e =>
    dsimp only
    refine .step_bind fun u₁ hu₁ => ?_
    have hinv₁ := h.stays _ _ hu₁ hinv
    have htold := h.tells u₁ [⟨.warn, .batch, "Failed to save final harness",
      [nameField s.target, ("error", .shown e.message)]⟩] hinv₁
    exact ⟨htold.1, restoreSteps_ensures h hC hstay outcome htold.2
      ((hC.tells u₁ _ hinv₁).1 (hstay _ _ hu₁ hCu))⟩

/-- **A session in test mode ends with the text that it has read**, and with its report. -/
theorem endSteps_ensures {b : BatchSettings} (htest : b.testMode = true)
    (h : Tends inv rely guar s.store.path)
    (hC : Tends inv rely (fun w w' => C w → C w') s.store.path)
    (hstay : ∀ w w', rely w w' → C w → C w') (mode : RepairMode) (outcome : SessionOutcome)
    (hsave : (preserveSteps (b.copyPath s.target) s.store.source).Ensures rely guar
      (fun _ u => inv u ∧ C u) w) :
    (endSteps b mode s outcome).Ensures rely guar
      (fun r u => r = .ok (s.report mode outcome) ∧ Holds s.store.path s.store.pristine u ∧ C u)
      w := by
  have hidle : (PatchStore.closeSteps s.store.restored : Steps ε Unit) = pure () :=
    PatchStore.closeSteps_idle rfl rfl
  rw [endSteps, if_pos htest]
  refine (finishSteps_ensures h hC hstay outcome hsave).bind h.still fun t u hu => ?_
  obtain ⟨rfl, hholds, hCu⟩ := hu
  dsimp only
  rw [hidle]
  exact .pure fun v hv => ⟨rfl, h.holds _ _ _ hv hholds, hstay _ _ hv hCu⟩

/-- So it ends where saving a copy does nothing to the others. -/
theorem endSteps_restores {b : BatchSettings} (htest : b.testMode = true)
    (h : Tends inv rely guar s.store.path) (hidle : ∀ w, guar w w)
    (hmade : ∀ dir ∈ Path.parent? (b.copyPath s.target), ∀ (w : World ε) (files : FileSystem),
      inv w → w.files.createDirAll dir = .ok files →
        guar w { w with files := files } ∧ inv { w with files := files })
    (hwritten : ∀ (w : World ε) (files : FileSystem), inv w →
      w.files.write (b.copyPath s.target) s.store.source = .ok files →
        guar w { w with files := files } ∧ inv { w with files := files })
    (mode : RepairMode) (outcome : SessionOutcome) (hw : inv w) :
    (endSteps b mode s outcome).Ensures rely guar
      (fun r u => r = .ok (s.report mode outcome) ∧ Holds s.store.path s.store.pristine u) w := by
  have hsave : (preserveSteps (b.copyPath s.target) s.store.source).Ensures rely guar
      (fun _ u => inv u ∧ True) w :=
    (preserveSteps_ensures h.stays (C := fun _ => True) (fun _ _ _ => id) hidle hmade hwritten
      (fun _ _ _ => trivial) hw).imp fun _ u hu => ⟨hu.1, trivial⟩
  exact (endSteps_ensures htest h (h.imp fun _ _ _ => id) (fun _ _ _ => id) mode outcome
    hsave).imp fun r u hu => ⟨hu.1, hu.2.1⟩

end

end HarnessRepair
