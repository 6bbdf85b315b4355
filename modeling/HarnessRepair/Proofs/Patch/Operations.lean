import HarnessRepair.Patch.Store
import HarnessRepair.Proofs.Files.Overwrite

/-!
# The operations of a store

While its file can be written, an operation of a store either answers with an
error and changes nothing, or it goes through, and then the file holds the text
that the store says it holds.

## Main definitions

* `PatchStore.changed` — the store with one more change, in flight.
* `withoutLines` — a text without the lines of some numbers.

## Main results

* `PatchStore.run_applyAll`, `run_revert`, `run_rollbackTo`, `run_stripLines`,
  `run_restorePristine` — **what each operation does where it goes through.**
* `PatchStore.run_applyAll_of_write`, `run_applyAll_refused` and their likes — the same where
  only that is known which writing needs.
* `PatchStore.run_close` — what closing leaves in the file.
-/

namespace HarnessRepair

open Text

/-! ### Lines taken out -/

/-- The text without the lines of some numbers. -/
def withoutLines (text : String) (listed : List Nat) : String :=
  String.ofList (Snapshot.dropListed listed 1 (terminated text.toList)).flatten

theorem mem_insertAscending {n m : Nat} {ns : List Nat} :
    m ∈ insertAscending n ns ↔ m = n ∨ m ∈ ns := by
  induction ns with
  | nil => rw [insertAscending, List.mem_singleton]; simp
  | cons k ns ih =>
    rw [insertAscending]
    by_cases hlt : n < k
    · rw [if_pos hlt, List.mem_cons]
    · rw [if_neg hlt]
      by_cases heq : n = k
      · rw [if_pos heq, List.mem_cons, heq]
        simp
      · rw [if_neg heq, List.mem_cons, ih, List.mem_cons]
        exact or_left_comm

theorem mem_ascending {m : Nat} {ns : List Nat} : m ∈ ascending ns ↔ m ∈ ns := by
  induction ns with
  | nil => exact Iff.rfl
  | cons n ns ih =>
    rw [ascending, List.foldr_cons, mem_insertAscending, List.mem_cons]
    exact or_congr Iff.rfl ih

/-- Only which numbers are listed matters, not how. -/
theorem dropListed_congr {ms ns : List Nat} (h : ∀ n, n ∈ ms ↔ n ∈ ns) (first : Nat)
    (ls : List Line) : Snapshot.dropListed ms first ls = Snapshot.dropListed ns first ls := by
  induction ls generalizing first with
  | nil => rfl
  | cons l ls ih =>
    rw [Snapshot.dropListed, Snapshot.dropListed, ih]
    by_cases hm : first ∈ ms
    · rw [if_pos (List.contains_iff_mem.2 hm), if_pos (List.contains_iff_mem.2 ((h first).1 hm))]
    · rw [if_neg fun hc => hm (List.contains_iff_mem.1 hc),
        if_neg fun hc => hm ((h first).2 (List.contains_iff_mem.1 hc))]

theorem dropListed_sublist (listed : List Nat) (first : Nat) (ls : List Line) :
    (Snapshot.dropListed listed first ls).Sublist ls := by
  induction ls generalizing first with
  | nil => exact List.Sublist.refl _
  | cons l ls ih =>
    rw [Snapshot.dropListed]
    by_cases h : listed.contains first = true
    · rw [if_pos h]
      exact (ih (first + 1)).cons l
    · rw [if_neg h]
      exact (ih (first + 1)).cons_cons l

/-- Stripping changes the text alone. -/
theorem Snapshot.strip_eq_ok {s next : Snapshot} {listed : List Nat}
    {removed : List (Nat × String)} (h : s.strip listed = .ok (next, removed)) :
    next = { s with source := withoutLines s.source listed } := by
  unfold strip at h
  dsimp only at h
  split at h
  · cases h
  · obtain ⟨rfl, -⟩ := Prod.mk.inj (Except.ok.inj h)
    rw [withoutLines, dropListed_congr (fun _ => mem_ascending)]

namespace PatchStore

variable {ε : Type} {s : PatchStore} {w : World ε} {old : String}

/-! ### Changes -/

/-- The store with one more change, in flight. -/
def changed (s : PatchStore) (next : Snapshot) : PatchStore :=
  { s with current := next, nextId := s.nextId + 1, inFlight := some ⟨s.nextId, s.current⟩ }

theorem hasInFlight_of_some {change : InFlight} (h : s.inFlight = some change) :
    s.hasInFlight = true := by
  rw [hasInFlight, h]
  rfl

theorem not_hasInFlight (h : s.inFlight = none) : ¬ s.hasInFlight = true := by
  rw [hasInFlight, h]
  exact Bool.false_ne_true

/-- A snapshot is installed where its text can be written. -/
theorem run_install_of_write {next : Snapshot} {files : FileSystem}
    (h : w.files.write s.path next.source = .ok files) :
    (s.install next).run w = ((.ok (), { s with current := next }), { w with files := files }) := by
  rw [install, run_bind, writeText, run_onFiles, h]
  rfl

/-- Where the file cannot be written, nothing is installed. -/
theorem run_install_refused {next : Snapshot} {fault : IoError}
    (h : w.files.writable s.path = .error fault) :
    (s.install next).run w = ((.error (.io fault), s), w) := by
  rw [install, run_bind, writeText, run_onFiles, FileSystem.write_eq_error_iff.2 h]
  rfl

theorem run_install (h : Holds s.path old w) (next : Snapshot) :
    ∃ w', (s.install next).run w = ((.ok (), { s with current := next }), w') ∧
      Holds s.path next.source w' ∧ w'.outside = w.outside := by
  obtain ⟨files, hwrite, hread⟩ := FileSystem.readText_write h next.source
  exact ⟨_, run_install_of_write hwrite, hread, rfl⟩

/-- A snapshot is installed unless the file cannot be written, and then nothing happens. -/
theorem run_install_cases (s : PatchStore) (next : Snapshot) (w : World ε) :
    (∃ u, (s.install next).run w = ((.ok (), { s with current := next }), u) ∧
      u.outside = w.outside ∧ w.files.write s.path next.source = .ok u.files) ∨
    ∃ e, (s.install next).run w = ((.error (.io e), s), w) := by
  cases hwrite : w.files.write s.path next.source with
  | ok files => exact Or.inl ⟨_, run_install_of_write hwrite, rfl, rfl⟩
  | error e => exact Or.inr ⟨e, run_install_refused (FileSystem.write_eq_error_iff.1 hwrite)⟩

theorem run_applyAll_inFlight {change : InFlight} (h : s.inFlight = some change)
    (patches : List Patch) : (s.applyAll patches).run w = ((.error .inFlight, s), w) := by
  rw [applyAll, if_pos (hasInFlight_of_some h)]
  rfl

theorem run_applyAll_misfit (h : s.inFlight = none) {patches : List Patch} {e : PatchError}
    (he : s.current.extend patches = .error e) :
    (s.applyAll patches).run w = ((.error e, s), w) := by
  rw [applyAll, if_neg (not_hasInFlight h), he]
  rfl

/-- Patches that fit are applied as one change where the harness can be written. -/
theorem run_applyAll_of_write (hfree : s.inFlight = none) {patches : List Patch}
    {next : Snapshot} (hnext : s.current.extend patches = .ok next) {files : FileSystem}
    (h : w.files.write s.path next.source = .ok files) :
    ∃ w', (s.applyAll patches).run w = ((.ok s.nextId, s.changed next), w') ∧
      w'.files = files ∧ w'.outside = w.outside := by
  rw [applyAll, if_neg (not_hasInFlight hfree), hnext]
  dsimp only
  rw [run_bind, run_install_of_write h]
  exact ⟨_, rfl, rfl, rfl⟩

/-- Where the harness cannot be written, patches that fit change nothing. -/
theorem run_applyAll_refused (hfree : s.inFlight = none) {patches : List Patch}
    {next : Snapshot} (hnext : s.current.extend patches = .ok next) {fault : IoError}
    (h : w.files.writable s.path = .error fault) :
    (s.applyAll patches).run w = ((.error (.io fault), s), w) := by
  rw [applyAll, if_neg (not_hasInFlight hfree), hnext]
  dsimp only
  rw [run_bind, run_install_refused h]
  rfl

/-- Patches that fit are applied as one change. -/
theorem run_applyAll (hfree : s.inFlight = none) {patches : List Patch} {next : Snapshot}
    (hnext : s.current.extend patches = .ok next) (h : Holds s.path old w) :
    ∃ w', (s.applyAll patches).run w = ((.ok s.nextId, s.changed next), w') ∧
      Holds s.path next.source w' ∧ w'.outside = w.outside := by
  obtain ⟨files, hwrite, hread⟩ := FileSystem.readText_write h next.source
  obtain ⟨w', hrun, rfl, hout⟩ := run_applyAll_of_write hfree hnext hwrite
  exact ⟨w', hrun, hread, hout⟩

/-- Patches are applied as one change, or the store stays as it is. -/
theorem run_applyAll_cases (s : PatchStore) (patches : List Patch) (w : World ε) :
    (∃ next u, s.current.extend patches = .ok next ∧
      (s.applyAll patches).run w = ((.ok s.nextId, s.changed next), u) ∧
      w.files.write s.path next.source = .ok u.files) ∨
    ∃ e, (s.applyAll patches).run w = ((.error e, s), w) := by
  cases hfree : s.inFlight with
  | some change => exact Or.inr ⟨_, run_applyAll_inFlight hfree patches⟩
  | none =>
    cases hext : s.current.extend patches with
    | error e => exact Or.inr ⟨e, run_applyAll_misfit hfree hext⟩
    | ok next =>
      cases hwrite : w.files.write s.path next.source with
      | error fault =>
        have hrefused := FileSystem.write_eq_error_iff.1 hwrite
        exact Or.inr ⟨_, run_applyAll_refused hfree hext hrefused⟩
      | ok files =>
        obtain ⟨u, hrun, rfl, -⟩ := run_applyAll_of_write hfree hext hwrite
        exact Or.inl ⟨next, u, rfl, hrun, hwrite⟩

/-- The only fault of a number is that it is not the one of the change in flight. -/
theorem takeInFlight_eq_error {handle : Nat} {e : PatchError}
    (h : s.takeInFlight handle = .error e) : e = .staleHandle handle := by
  unfold takeInFlight at h
  split at h
  · split at h
    · cases h
    · exact (Except.error.inj h).symm
  · exact (Except.error.inj h).symm

theorem run_revert_stale {handle : Nat} {e : PatchError} (h : s.takeInFlight handle = .error e) :
    (s.revert handle).run w = ((.error e, s), w) := by
  rw [revert, h]
  rfl

/-- Undoing the change in flight brings back the snapshot before it. -/
theorem run_revert {change : InFlight} (hchange : s.inFlight = some change)
    (h : Holds s.path old w) :
    ∃ w', (s.revert change.id).run w =
        ((.ok (), { s with inFlight := none, current := change.prior }), w') ∧
      Holds s.path change.prior.source w' ∧ w'.outside = w.outside := by
  have htake := (takeInFlight_eq_ok_iff (t := { s with inFlight := none })).2
    ⟨hchange, rfl, rfl⟩
  have htold : Holds s.path old ((tell .debug .patchStore "Reverted patch"
      [({ s with inFlight := none } : PatchStore).harnessField,
        ("handle", .number change.id)]).run w).2 := holds_tell.2 h
  obtain ⟨w', hrun, hholds, hout⟩ :=
    run_install (s := { s with inFlight := none }) htold change.prior
  refine ⟨w', ?_, hholds, hout⟩
  rw [revert, htake]
  exact hrun

/-- Undoing the change in flight goes wrong only where the file cannot be written, and then
the change is given up all the same. -/
theorem run_revert_cases {change : InFlight} (hchange : s.inFlight = some change) (w : World ε) :
    (∃ u, (s.revert change.id).run w =
        ((.ok (), { s with inFlight := none, current := change.prior }), u) ∧
      u.outside = w.outside ∧ w.files.write s.path change.prior.source = .ok u.files) ∨
    ∃ e u, (s.revert change.id).run w = ((.error (.io e), { s with inFlight := none }), u) ∧
      Told w u := by
  have htake := (takeInFlight_eq_ok_iff (t := { s with inFlight := none })).2
    ⟨hchange, rfl, rfl⟩
  let t : PatchStore := { s with inFlight := none }
  let v := ((tell .debug .patchStore "Reverted patch"
    [t.harnessField, ("handle", .number change.id)]).run w).2
  have hrevert : (s.revert change.id).run w = (t.install change.prior).run v := by
    rw [revert, htake]
    rfl
  rw [hrevert]
  rcases run_install_cases t change.prior v with ⟨u, hrun, hout⟩ | ⟨e, hrun⟩
  · exact Or.inl ⟨u, hrun, hout⟩
  · exact Or.inr ⟨e, v, hrun, rfl, rfl⟩

theorem commit_stale {handle : Nat} {e : PatchError} (h : s.takeInFlight handle = .error e) :
    s.commit handle = (.error e, s) := by
  rw [commit, h]

/-- Keeping the change in flight only forgets what was before it. -/
theorem commit_eq {change : InFlight} (h : s.inFlight = some change) :
    s.commit change.id = (.ok (), { s with inFlight := none }) := by
  rw [commit, takeInFlight_eq_ok_iff.2 ⟨h, rfl, rfl⟩]

/-! ### Going back -/

theorem run_rollbackTo_inFlight {change : InFlight} (h : s.inFlight = some change)
    (snapshot : Snapshot) : (s.rollbackTo snapshot).run w = ((.error .inFlight, s), w) := by
  rw [rollbackTo, if_pos (hasInFlight_of_some h)]
  rfl

theorem run_rollbackTo (hfree : s.inFlight = none) (h : Holds s.path old w)
    (snapshot : Snapshot) :
    ∃ w', (s.rollbackTo snapshot).run w = ((.ok (), { s with current := snapshot }), w') ∧
      Holds s.path snapshot.source w' ∧ w'.outside = w.outside := by
  rw [rollbackTo, if_neg (not_hasInFlight hfree)]
  exact run_install h snapshot

theorem run_restorePristine (h : Holds s.path old w) :
    ∃ w', (s.restorePristine).run w =
        ((.ok (), { s with inFlight := none, current := { source := s.pristine } }), w') ∧
      Holds s.path s.pristine w' ∧ w'.outside = w.outside :=
  run_install (s := { s with inFlight := none }) h { source := s.pristine }

/-- Going back to a snapshot leaves the store as it is, or makes the snapshot current. -/
theorem run_rollbackTo_cases (s : PatchStore) (snapshot : Snapshot) (w : World ε) :
    (∃ u, (s.rollbackTo snapshot).run w = ((.ok (), { s with current := snapshot }), u) ∧
      w.files.write s.path snapshot.source = .ok u.files) ∨
    ∃ e, (s.rollbackTo snapshot).run w = ((.error e, s), w) := by
  rcases Option.eq_none_or_eq_some s.inFlight with hfree | ⟨change, hfree⟩
  · rw [rollbackTo, if_neg (not_hasInFlight hfree)]
    rcases run_install_cases s snapshot w with ⟨u, hrun, -, hwrite⟩ | ⟨e, hrun⟩
    · exact Or.inl ⟨u, hrun, hwrite⟩
    · exact Or.inr ⟨_, hrun⟩
  · exact Or.inr ⟨_, run_rollbackTo_inFlight hfree snapshot⟩

/-- Going back to the text read at the start gives up the change in flight in any case. -/
theorem run_restorePristine_cases (s : PatchStore) (w : World ε) :
    (∃ u, s.restorePristine.run w =
      ((.ok (), { s with inFlight := none, current := { source := s.pristine } }), u) ∧
      w.files.write s.path s.pristine = .ok u.files) ∨
    ∃ e, s.restorePristine.run w = ((.error (.io e), { s with inFlight := none }), w) := by
  rcases run_install_cases { s with inFlight := none } { source := s.pristine } w with
    ⟨u, hrun, -, hwrite⟩ | ⟨e, hrun⟩
  · exact Or.inl ⟨u, hrun, hwrite⟩
  · exact Or.inr ⟨e, hrun⟩

/-! ### Stripping -/

/-- Warnings touch neither the files nor the outside. -/
theorem run_warnStripped (s : PatchStore) (removed : List (Nat × String)) (w : World ε) :
    ∃ events, (s.warnStripped removed).run w = ((), { w with events := events }) := by
  induction removed generalizing w with
  | nil => exact ⟨w.events, rfl⟩
  | cons r rest ih =>
    obtain ⟨line, statement⟩ := r
    rw [warnStripped]
    by_cases h : (!contains statement "__CPROVER_assume") = true
    · rw [if_pos h, run_bind, run_tell]
      obtain ⟨events, hev⟩ := ih { w with events := w.events ++ [_] }
      exact ⟨events, hev⟩
    · rw [if_neg h]
      exact ih w

theorem run_stripLines_inFlight {change : InFlight} (h : s.inFlight = some change)
    (listed : List Nat) : (s.stripLines listed).run w = ((.error .inFlight, s), w) := by
  rw [stripLines, if_pos (hasInFlight_of_some h)]
  rfl

theorem run_stripLines_patched (hfree : s.inFlight = none) (hlog : s.log ≠ [])
    (listed : List Nat) :
    (s.stripLines listed).run w = ((.error (.alreadyPatched s.log.length), s), w) := by
  have hpatched : (!s.log.isEmpty) = true := by simpa using hlog
  rw [stripLines, if_neg (not_hasInFlight hfree), if_pos hpatched]
  rfl

theorem run_stripLines_misfit (hfree : s.inFlight = none) (hlog : s.log = []) {listed : List Nat}
    {e : PatchError} (he : s.current.strip listed = .error e) :
    (s.stripLines listed).run w = ((.error e, s), w) := by
  have hclean : ¬ (!s.log.isEmpty) = true := by simp [hlog]
  rw [stripLines, if_neg (not_hasInFlight hfree), if_neg hclean, he]
  rfl

/-- Lines are stripped where the harness can be written. -/
theorem run_stripLines_of_write (hfree : s.inFlight = none) (hlog : s.log = [])
    {listed : List Nat} {next : Snapshot} {removed : List (Nat × String)}
    (hnext : s.current.strip listed = .ok (next, removed)) {files : FileSystem}
    (h : w.files.write s.path next.source = .ok files) :
    ∃ w', (s.stripLines listed).run w =
        ((.ok (removed.map (·.2)), { s with current := next }), w') ∧
      w'.files = files ∧ w'.outside = w.outside := by
  have hclean : ¬ (!s.log.isEmpty) = true := by simp [hlog]
  obtain ⟨events, hwarn⟩ := run_warnStripped s removed w
  have hwrite : { w with events := events }.files.write s.path next.source = .ok files := h
  rw [stripLines, if_neg (not_hasInFlight hfree), if_neg hclean, hnext]
  dsimp only
  rw [run_bind, hwarn, run_bind, run_install_of_write hwrite]
  exact ⟨_, rfl, rfl, rfl⟩

/-- Where the harness cannot be written, nothing but warnings comes of stripping. -/
theorem run_stripLines_refused (hfree : s.inFlight = none) (hlog : s.log = [])
    {listed : List Nat} {next : Snapshot} {removed : List (Nat × String)}
    (hnext : s.current.strip listed = .ok (next, removed)) {fault : IoError}
    (h : w.files.writable s.path = .error fault) :
    ∃ w', (s.stripLines listed).run w = ((.error (.io fault), s), w') ∧ Told w w' := by
  have hclean : ¬ (!s.log.isEmpty) = true := by simp [hlog]
  obtain ⟨events, hwarn⟩ := run_warnStripped s removed w
  have hrefused : { w with events := events }.files.writable s.path = .error fault := h
  rw [stripLines, if_neg (not_hasInFlight hfree), if_neg hclean, hnext]
  dsimp only
  rw [run_bind, hwarn, run_bind, run_install_refused hrefused]
  exact ⟨_, rfl, rfl, rfl⟩

/-- Lines are stripped from a text without patches. -/
theorem run_stripLines (hfree : s.inFlight = none) (hlog : s.log = []) {listed : List Nat}
    {next : Snapshot} {removed : List (Nat × String)}
    (hnext : s.current.strip listed = .ok (next, removed)) (h : Holds s.path old w) :
    ∃ w', (s.stripLines listed).run w =
        ((.ok (removed.map (·.2)), { s with current := next }), w') ∧
      Holds s.path next.source w' ∧ w'.outside = w.outside := by
  obtain ⟨files, hwrite, hread⟩ := FileSystem.readText_write h next.source
  obtain ⟨w', hrun, rfl, hout⟩ := run_stripLines_of_write hfree hlog hnext hwrite
  exact ⟨w', hrun, hread, hout⟩

/-- Stripping makes the stripped text current, or leaves the store as it is. -/
theorem run_stripLines_cases (s : PatchStore) (listed : List Nat) (w : World ε) :
    (∃ next removed u, s.current.strip listed = .ok (next, removed) ∧ s.log = [] ∧
      (s.stripLines listed).run w = ((.ok (removed.map (·.2)), { s with current := next }), u) ∧
      w.files.write s.path next.source = .ok u.files) ∨
    ∃ e u, (s.stripLines listed).run w = ((.error e, s), u) ∧ Told w u := by
  rcases Option.eq_none_or_eq_some s.inFlight with hfree | ⟨change, hfree⟩
  · by_cases hlog : s.log = []
    · cases hstrip : s.current.strip listed with
      | error e => exact Or.inr ⟨e, w, run_stripLines_misfit hfree hlog hstrip, Told.refl w⟩
      | ok r =>
        obtain ⟨next, removed⟩ := r
        cases hwrite : w.files.write s.path next.source with
        | error fault =>
          have hrefused := FileSystem.write_eq_error_iff.1 hwrite
          obtain ⟨u, hrun, htold⟩ := run_stripLines_refused hfree hlog hstrip hrefused
          exact Or.inr ⟨_, u, hrun, htold⟩
        | ok files =>
          obtain ⟨u, hrun, rfl, -⟩ := run_stripLines_of_write hfree hlog hstrip hwrite
          exact Or.inl ⟨next, removed, u, rfl, hlog, hrun, hwrite⟩
    · exact Or.inr ⟨_, w, run_stripLines_patched hfree hlog listed, Told.refl w⟩
  · exact Or.inr ⟨_, w, run_stripLines_inFlight hfree listed, Told.refl w⟩

/-! ### Closing -/

/-- The text that closing a store leaves in its file. -/
def leftBehind (s : PatchStore) : String :=
  if s.policy = .restoreText ∧ s.source ≠ s.pristine then s.pristine
  else
    match s.inFlight with
    | some change => change.prior.source
    | none => s.source

/-- The second decision of closing, whatever the first has left in the file. -/
theorem run_close_restore (h : Holds s.path old w) :
    ∃ w', (do
      if s.policy = .restoreText ∧ s.source ≠ s.pristine then
        if let .error e ← writeText s.path s.pristine then
          tell .error .patchStore "Failed to restore harness"
            [s.harnessField, ("error", .shown e.message)] : Run ε Unit).run w = ((), w') ∧
      Holds s.path (if s.policy = .restoreText ∧ s.source ≠ s.pristine then s.pristine else old)
        w' := by
  by_cases hc : s.policy = .restoreText ∧ s.source ≠ s.pristine
  · obtain ⟨w', hrun, hholds, -⟩ := run_writeText h s.pristine
    rw [if_pos hc, if_pos hc]
    refine ⟨w', ?_, hholds⟩
    rw [run_bind, hrun]
    rfl
  · rw [if_neg hc, if_neg hc]
    exact ⟨w, rfl, h⟩

/-- **Closing undoes the change in flight, and may then restore the text.** -/
theorem run_close (h : Holds s.path s.source w) :
    ∃ w', s.close.run w = ((), w') ∧ Holds s.path s.leftBehind w' := by
  rw [close, leftBehind]
  cases s.inFlight with
  | none => exact run_close_restore h
  | some change =>
    obtain ⟨undone, hrun, hholds, -⟩ := run_writeText h change.prior.source
    obtain ⟨w', hrestore, hleft⟩ := run_close_restore hholds
    refine ⟨w', ?_, hleft⟩
    dsimp only
    rw [run_bind, hrun]
    exact hrestore

end PatchStore

end HarnessRepair
