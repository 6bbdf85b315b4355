import HarnessRepair.Proofs.Patch.Handles

/-!
# When the harness cannot be written

The file system may refuse any write of the harness, at any operation of a history,
and then leaves the file as it was.  Operations that first write and then change the
store lose nothing by that.  Undoing a change and going back to the text read at the
start first give up the change in flight: where their write is refused, the text with
the change stays, and the number of the change is no good any more.

## Main definitions

* `FileSystem.Refuses` — files among which one cannot be written.
* `Trial`, `Workbench.trials` — the operations of a history, each with its refusal.
* `StoreAction.failed` — the store after an operation that has failed.
* `Undoable` — the ways out of a change that are left.

## Main results

* `StoreStep.outcome`, `StoreStep.of_failure` — **what a failed operation leaves of the store.**
* `Accounted.trial` — the account is kept also where writing is refused.
* `trials_undoable` — **what can be undone after refusals.**
-/

namespace HarnessRepair

variable {ε : Type}

/-! ### Refusals -/

/-- No text can be written to the file at a path. -/
def FileSystem.Refuses (fs : FileSystem) (path : String) : Prop :=
  ∀ text, ∃ e, fs.write path text = .error e

/-- Why an operation has failed. -/
def faultOf {α : Type} : Except PatchError α → Option PatchError
  | .ok _ => none
  | .error e => some e

/-- The store after an operation has failed with some error. -/
def StoreAction.failed (action : StoreAction) (e : PatchError) (s : PatchStore) : PatchStore :=
  match action, e with
  | .revert _, .io _ | .restorePristine, .io _ => { s with inFlight := none }
  | _, _ => s

/-- Why an operation fails.  Naming a snapshot that has not been taken is none of its faults. -/
def Workbench.failure (b : Workbench) (w : World ε) : StoreAction → Option PatchError
  | .apply p => faultOf ((b.store.apply p).run w).1.1
  | .applyAll ps => faultOf ((b.store.applyAll ps).run w).1.1
  | .commit n => faultOf (b.store.commit n).1
  | .revert n => faultOf ((b.store.revert n).run w).1.1
  | .takeSnapshot => none
  | .rollbackTo n =>
    match b.taken[n]? with
    | some snapshot => faultOf ((b.store.rollbackTo snapshot).run w).1.1
    | none => none
  | .stripLines listed => faultOf ((b.store.stripLines listed).run w).1.1
  | .restorePristine => faultOf (b.store.restorePristine.run w).1.1

/-- Why the operation of a step fails. -/
def StoreStep.failure (s : StoreStep ε) : Option PatchError := s.bench.failure s.world s.action

/-- An operation of a history, and the files that stand in for those of the world
while its write is refused. -/
structure Trial (ε : Type) where
  bench : Workbench
  world : World ε
  action : StoreAction
  refusal : Option FileSystem

namespace Trial

/-- The operation, as it finds the world. -/
def step (t : Trial ε) : StoreStep ε :=
  ⟨t.bench, { t.world with files := t.refusal.getD t.world.files }, t.action⟩

/-- The store that the operation leaves. -/
def after (t : Trial ε) : Workbench := t.step.after

/-- The world that the operation leaves; a refusal leaves the files alone. -/
def left (t : Trial ε) : World ε :=
  match t.refusal with
  | none => t.step.left
  | some _ => { t.step.left with files := t.world.files }

end Trial

/-- The operations of a history, some of them with a refusal. -/
def Workbench.trials (b : Workbench) (w : World ε) :
    List (StoreAction × Option FileSystem) → List (Trial ε)
  | [] => []
  | (action, refusal) :: plan =>
    let t : Trial ε := ⟨b, w, action, refusal⟩
    t :: t.after.trials t.left plan

/-! ### Operations whose write fails -/

/-- All that can become of an operation, whatever the files are like. -/
inductive StoreStep.Outcome (s : StoreStep ε) : Prop where
  /-- It goes through, and the harness is written. -/
  | written (failure : s.failure = none) (text : String) (files : FileSystem)
      (write : s.world.files.write s.bench.store.path text = .ok files)
  /-- It has nothing to do with the world. -/
  | quiet (failure : s.failure = none)
      (run : ∀ w : World ε, (s.bench.perform s.action).run w = ((s.went, s.after), w))
  /-- It fails, and the files are as they were. -/
  | failed (e : PatchError) (failure : s.failure = some e) (left : Told s.world s.left)
      (after : s.after = { s.bench with store := s.action.failed e s.bench.store })

namespace StoreStep

variable {s : StoreStep ε}

/-- The outcome of an operation of the store, from the cases of the operation. -/
theorem Outcome.of_cases {α : Type} {m : Run ε (Except PatchError α × PatchStore)}
    (hperform : s.bench.perform s.action = s.bench.tryOut m)
    (hfailure : s.failure = faultOf (m.run s.world).1.1)
    (hcases : (∃ r t text u, m.run s.world = ((.ok r, t), u) ∧
        s.world.files.write s.bench.store.path text = .ok u.files) ∨
      ∃ e u, m.run s.world = ((.error e, s.action.failed e s.bench.store), u) ∧
        Told s.world u) : s.Outcome := by
  rcases hcases with ⟨r, t, text, u, hm, hwrite⟩ | ⟨e, u, hm, htold⟩
  · rw [hm] at hfailure
    exact .written hfailure text u.files hwrite
  · have hrun : (s.bench.perform s.action).run s.world =
        ((false, { s.bench with store := s.action.failed e s.bench.store }), u) := by
      rw [hperform, Workbench.tryOut, run_bind, hm]
      rfl
    obtain ⟨-, hafter, hleft⟩ := of_run hrun
    rw [hm] at hfailure
    exact .failed e hfailure (hleft ▸ htold) hafter

/-- **Every operation writes the harness, leaves the world alone, or fails.** -/
theorem outcome (s : StoreStep ε) : s.Outcome := by
  obtain ⟨b, w, action⟩ := s
  cases action with
  | apply p =>
    refine .of_cases rfl rfl ?_
    rcases b.store.run_applyAll_cases [p] w with ⟨next, u, -, hrun, hwrite⟩ | ⟨e, hrun⟩
    · exact Or.inl ⟨_, _, _, u, hrun, hwrite⟩
    · exact Or.inr ⟨e, w, hrun, Told.refl w⟩
  | applyAll ps =>
    refine .of_cases rfl rfl ?_
    rcases b.store.run_applyAll_cases ps w with ⟨next, u, -, hrun, hwrite⟩ | ⟨e, hrun⟩
    · exact Or.inl ⟨_, _, _, u, hrun, hwrite⟩
    · exact Or.inr ⟨e, w, hrun, Told.refl w⟩
  | commit n =>
    cases htake : b.store.takeInFlight n with
    | error e =>
      refine .of_cases (m := pure (b.store.commit n)) rfl rfl (Or.inr ⟨e, w, ?_, Told.refl w⟩)
      rw [PatchStore.commit_stale htake]
      rfl
    | ok r =>
      obtain ⟨made, t⟩ := r
      obtain ⟨hmade, rfl, -⟩ := PatchStore.takeInFlight_eq_ok_iff.1 htake
      refine .quiet ?_ fun _ => rfl
      exact congrArg (fun r => faultOf r.1) (PatchStore.commit_eq hmade)
  | revert n =>
    refine .of_cases rfl rfl ?_
    cases htake : b.store.takeInFlight n with
    | error e =>
      -- a number that is no good is no fault of the files
      obtain rfl := PatchStore.takeInFlight_eq_error htake
      exact Or.inr ⟨_, w, PatchStore.run_revert_stale htake, Told.refl w⟩
    | ok r =>
      obtain ⟨made, t⟩ := r
      obtain ⟨hmade, rfl, rfl⟩ := PatchStore.takeInFlight_eq_ok_iff.1 htake
      rcases PatchStore.run_revert_cases hmade w with ⟨u, hrun, -, hwrite⟩ | ⟨e, u, hrun, htold⟩
      · exact Or.inl ⟨_, _, _, u, hrun, hwrite⟩
      · exact Or.inr ⟨_, u, hrun, htold⟩
  | takeSnapshot => exact .quiet rfl fun _ => rfl
  | rollbackTo n =>
    cases hn : b.taken[n]? with
    | none =>
      have hperform : ∀ w : World ε, (b.perform (.rollbackTo n)).run w = ((false, b), w) := by
        intro w
        rw [Workbench.perform, hn]
        rfl
      obtain ⟨hwent, hafter, -⟩ := of_run (s := ⟨b, w, .rollbackTo n⟩) (hperform w)
      refine .quiet ?_ ?_
      · rw [failure, Workbench.failure, hn]
      · rw [hwent, hafter]
        exact hperform
    | some snapshot =>
      refine .of_cases (m := b.store.rollbackTo snapshot) ?_ ?_ ?_
      · rw [Workbench.perform, hn]
      · rw [failure, Workbench.failure, hn]
      · rcases b.store.run_rollbackTo_cases snapshot w with ⟨u, hrun, hwrite⟩ | ⟨e, hrun⟩
        · exact Or.inl ⟨_, _, _, u, hrun, hwrite⟩
        · exact Or.inr ⟨e, w, hrun, Told.refl w⟩
  | stripLines listed =>
    refine .of_cases rfl rfl ?_
    rcases b.store.run_stripLines_cases listed w with
      ⟨next, removed, u, -, -, hrun, hwrite⟩ | ⟨e, u, hrun, htold⟩
    · exact Or.inl ⟨_, _, _, u, hrun, hwrite⟩
    · exact Or.inr ⟨e, u, hrun, htold⟩
  | restorePristine =>
    refine .of_cases rfl rfl ?_
    rcases b.store.run_restorePristine_cases w with ⟨u, hrun, hwrite⟩ | ⟨e, hrun⟩
    · exact Or.inl ⟨_, _, _, u, hrun, hwrite⟩
    · exact Or.inr ⟨_, w, hrun, Told.refl w⟩

/-- **What a failed operation leaves of the store**: all of it, but for the change in flight
of an operation that has been refused the write by which it would be undone. -/
theorem of_failure {e : PatchError} (h : s.failure = some e) :
    Told s.world s.left ∧ s.after = { s.bench with store := s.action.failed e s.bench.store } := by
  cases s.outcome with
  | written hnone => rw [hnone] at h; cases h
  | quiet hnone => rw [hnone] at h; cases h
  | failed e' hfailure hleft hafter =>
    obtain rfl : e' = e := Option.some.inj (hfailure.symm.trans h)
    exact ⟨hleft, hafter⟩

end StoreStep

/-- Only events have come, if the files that the operation finds are left alone. -/
theorem Trial.told {t : Trial ε} (h : Told t.step.world t.step.left) : Told t.world t.left := by
  obtain ⟨b, w, action, refusal⟩ := t
  cases refusal with
  | none => exact h
  | some files => exact ⟨rfl, h.outside_eq⟩

/-! ### The account under refusals -/

/-- The ways out of a change in flight: by its number, all the way back, and by giving
the file up. -/
structure Undoable (path text : String) (policy : RestorePolicy) (s : PatchStore) (w : World ε) :
    Prop where
  revert : ∀ made, s.inFlight = some made →
    ∃ w', (s.revert made.id).run w =
        ((.ok (), { s with inFlight := none, current := made.prior }), w') ∧
      Holds path made.prior.source w'
  /-- No other number is any good. -/
  stale : ∀ n, (∀ made, s.inFlight = some made → made.id ≠ n) →
    (s.revert n).run w = ((.error (.staleHandle n), s), w)
  restorePristine : ∃ w', s.restorePristine.run w =
      ((.ok (), { s with inFlight := none, current := { source := text } }), w') ∧
    Holds path text w'
  close : ∃ w', s.close.run w = ((), w') ∧ Holds path s.leftBehind w'
  restores : policy = .restoreText → (s.leftBehind = text ↔ ¬ PutBack s)
  keeps : policy = .keepChanges → ∀ made, s.inFlight = some made →
    s.leftBehind = made.prior.source

namespace Accounted

variable {path text : String} {policy : RestorePolicy} {a : Account} {b : Workbench}
  {w : World ε}

theorem undoable (h : Accounted path text policy a b w) :
    Undoable path text policy b.store w where
  revert := by
    intro made hmade
    obtain ⟨w', hrun, hholds, -⟩ := PatchStore.run_revert hmade h.holds_path
    exact ⟨w', hrun, h.path_eq ▸ hholds⟩
  stale := by
    intro n hother
    cases htake : b.store.takeInFlight n with
    | error e =>
      obtain rfl := PatchStore.takeInFlight_eq_error htake
      exact PatchStore.run_revert_stale htake
    | ok r =>
      obtain ⟨hmade, hid, -⟩ := PatchStore.takeInFlight_eq_ok_iff.1 htake
      exact absurd hid (hother _ hmade)
  restorePristine := by
    obtain ⟨w', hrun, hholds, -⟩ := PatchStore.run_restorePristine h.holds_path
    refine ⟨w', h.pristine_eq ▸ hrun, ?_⟩
    rw [← h.path_eq, ← h.pristine_eq]
    exact hholds
  close := by
    obtain ⟨w', hrun, hholds⟩ := PatchStore.run_close h.holds_path
    exact ⟨w', hrun, h.path_eq ▸ hholds⟩
  restores := by
    rintro rfl
    rw [← h.pristine_eq]
    exact leftBehind_eq_pristine_iff h.policy_eq
  keeps := by
    rintro rfl made hmade
    have hkeep : ¬ (b.store.policy = .restoreText ∧ b.store.source ≠ b.store.pristine) := by
      rw [h.policy_eq]
      exact fun hc => nomatch hc.1
    rw [PatchStore.leftBehind, if_neg hkeep, hmade]

/-- Only events have come since. -/
theorem told {w' : World ε} (h : Accounted path text policy a b w) (htold : Told w w') :
    Accounted path text policy a b w' :=
  { h with holds := htold.holds h.holds }

/-- Of a failed operation the account knows nothing. -/
theorem of_failed (h : Accounted path text policy a b w) (action : StoreAction) (e : PatchError) :
    Accounted path text policy a { b with store := action.failed e b.store } w := by
  have hgone : Accounted path text policy a
      { b with store := { b.store with inFlight := none } } w :=
    { h with inFlight := fun _ hchange => nomatch hchange }
  unfold StoreAction.failed
  split
  · exact hgone
  · exact hgone
  · exact h

/-- **The account is kept also where writing is refused.** -/
theorem trial {t : Trial ε} (h : Accounted path text policy a t.bench t.world)
    (hrefuses : ∀ files, t.refusal = some files → files.Refuses path) :
    ∃ a', Accounted path text policy a' t.after t.left := by
  obtain ⟨b, w, action, refusal⟩ := t
  cases refusal with
  | none =>
    obtain ⟨went, b', w', hrun, hafter⟩ := h.perform action
    obtain ⟨-, hb, hw⟩ := StoreStep.of_run (s := ⟨b, w, action⟩) hrun
    refine ⟨a.record action went, ?_⟩
    rw [Trial.after, Trial.left]
    exact hb ▸ hw ▸ hafter
  | some files =>
    let t : Trial ε := ⟨b, w, action, some files⟩
    cases t.step.outcome with
    | written _ text' files' hwrite =>
      -- the files stand in because the harness cannot be written among them
      obtain ⟨e, he⟩ := hrefuses files rfl text'
      have hpath : b.store.path = path := h.path_eq
      rw [← hpath] at he
      exact absurd (he.symm.trans hwrite) nofun
    | quiet _ hrun =>
      obtain ⟨went, b', w', hperform, hafter⟩ := h.perform action
      have hsame := (hrun w).symm.trans hperform
      obtain ⟨hresult, rfl⟩ := Prod.mk.inj hsame
      obtain ⟨-, hb⟩ := Prod.mk.inj hresult
      obtain ⟨-, -, hthere⟩ := StoreStep.of_run (hrun t.step.world)
      have htold : Told t.step.world t.step.left := by
        rw [hthere]
        exact Told.refl _
      have hkept : Accounted path text policy (a.record action went) t.after w := by
        rw [Trial.after, hb]
        exact hafter
      exact ⟨_, hkept.told (Trial.told htold)⟩
    | failed e _ htold hafter =>
      have hkept : Accounted path text policy a t.after w := by
        rw [Trial.after, hafter]
        exact h.of_failed action e
      exact ⟨a, hkept.told (Trial.told htold)⟩

/-- The store keeps its word before and after every trial. -/
theorem trials (h : Accounted path text policy a b w)
    {plan : List (StoreAction × Option FileSystem)}
    (hrefuses : ∀ entry ∈ plan, ∀ files, entry.2 = some files → files.Refuses path)
    {t : Trial ε} (ht : t ∈ b.trials w plan) :
    (∃ a', Accounted path text policy a' t.bench t.world) ∧
      ∃ a', Accounted path text policy a' t.after t.left := by
  induction plan generalizing a b w with
  | nil => cases ht
  | cons entry plan ih =>
    obtain ⟨action, refusal⟩ := entry
    let first : Trial ε := ⟨b, w, action, refusal⟩
    obtain ⟨a', hafter⟩ : ∃ a', Accounted path text policy a' first.after first.left :=
      Accounted.trial (t := first) h (hrefuses (action, refusal) List.mem_cons_self)
    rw [Workbench.trials] at ht
    rcases List.mem_cons.1 ht with rfl | ht
    · exact ⟨⟨a, h⟩, a', hafter⟩
    · exact ih hafter (fun entry hentry => hrefuses entry (List.mem_cons_of_mem _ hentry)) ht

end Accounted

/-! ### Every history with refusals -/

section

variable {path text : String} {w : World ε} {policy : RestorePolicy}

/-- **What can be undone after refusals.**  Take any history of a store, the write of any of
its operations being refused.  Before and after every operation the file holds the text that the
store says it holds, and the ways out of the change in flight are open.  An operation that fails,
because its write is refused or for another reason, has changed neither the files nor anything of
the store, with one exception: an undoing, by number or all the way back, whose write is refused
has given up the change in flight.  The file then holds the text with the change, no number is
any good, and giving the file up leaves that text in it, unless the store restores. -/
theorem trials_undoable (h : Holds path text w) (policy : RestorePolicy)
    (plan : List (StoreAction × Option FileSystem))
    (hrefuses : ∀ entry ∈ plan, ∀ files, entry.2 = some files → files.Refuses path) :
    ∀ t ∈ Workbench.trials { store := .ofText path text policy } w plan,
      Holds path t.bench.store.source t.world ∧ Holds path t.after.store.source t.left ∧
      Undoable path text policy t.bench.store t.world ∧
      Undoable path text policy t.after.store t.left ∧
      ∀ e, t.step.failure = some e →
        Told t.world t.left ∧
        t.after = { t.bench with store := t.action.failed e t.bench.store } ∧
        (∀ fault, e = .io fault → t.action = .restorePristine ∨ (∃ n, t.action = .revert n) →
          t.after.store.inFlight = none ∧ t.after.store.current = t.bench.store.current ∧
          (∀ n, (t.after.store.revert n).run t.left =
            ((.error (.staleHandle n), t.after.store), t.left)) ∧
          t.after.store.leftBehind =
            if policy = .restoreText then text else t.bench.store.source) := by
  intro t ht
  obtain ⟨⟨a, hbefore⟩, a', hafter⟩ := (accounted_ofText h policy).trials hrefuses ht
  refine ⟨hbefore.holds, hafter.holds, hbefore.undoable, hafter.undoable, ?_⟩
  intro e hfailure
  obtain ⟨htold, hstore⟩ := StoreStep.of_failure hfailure
  have hstore : t.after = { t.bench with store := t.action.failed e t.bench.store } := hstore
  refine ⟨Trial.told htold, hstore, ?_⟩
  rintro fault rfl haction
  have hgone : t.after.store = { t.bench.store with inFlight := none } := by
    rw [hstore]
    rcases haction with haction | ⟨n, haction⟩
    · rw [haction]
      rfl
    · rw [haction]
      rfl
  have hfree : t.after.store.inFlight = none := by rw [hgone]
  refine ⟨hfree, by rw [hgone], ?_, ?_⟩
  · intro n
    refine hafter.undoable.stale n ?_
    intro made hmade
    rw [hfree] at hmade
    cases hmade
  · have hsource : t.after.store.source = t.bench.store.source := by rw [hgone]; rfl
    rw [PatchStore.leftBehind, hfree, hafter.policy_eq, hafter.pristine_eq, ← hsource]
    cases policy with
    | keepChanges => rfl
    | restoreText =>
      by_cases hsame : t.after.store.source = text
      · rw [if_neg fun hc => hc.2 hsame, if_pos rfl]
        exact hsame
      · rw [if_pos ⟨rfl, hsame⟩, if_pos rfl]

/-- Files among which the harness cannot be written: a directory has its name. -/
def blockedFiles : FileSystem := FileSystem.put {} ["harness.c"] .dir

theorem refuses_blockedFiles : blockedFiles.Refuses "harness.c" := by
  have hwritable : blockedFiles.writable "harness.c" = .error .isDirectory := by decide
  intro text
  refine ⟨.isDirectory, ?_⟩
  rw [FileSystem.write, FileSystem.writeContent, hwritable]
  rfl

/-- A change, and an undoing that is refused before it is tried again. -/
def refusedUndoing : List (StoreAction × Option FileSystem) :=
  [(.apply (smallPatch "assume(n > 1);"), none), (.revert 1, some blockedFiles), (.revert 1, none)]

theorem refuses_refusedUndoing :
    ∀ entry ∈ refusedUndoing, ∀ files, entry.2 = some files → files.Refuses "harness.c" := by
  intro entry hentry files hfiles
  have hblocked : files = blockedFiles := by
    rcases List.mem_cons.1 hentry with rfl | hentry
    · cases hfiles
    · rcases List.mem_cons.1 hentry with rfl | hentry
      · exact (Option.some.inj hfiles).symm
      · obtain rfl := List.mem_singleton.1 hentry
        cases hfiles
  rw [hblocked]
  exact refuses_blockedFiles

theorem trials_undoable_refusedUndoing :
    let trials := Workbench.trials { store := .ofText "harness.c" smallHarness .keepChanges }
      smallWorld refusedUndoing
    Holds "harness.c" smallHarness smallWorld ∧
      (∀ entry ∈ refusedUndoing, ∀ files, entry.2 = some files → files.Refuses "harness.c") ∧
      trials.map (fun t => t.step.failure) =
        [none, some (.io .isDirectory), some (.staleHandle 1)] ∧
      ∀ t ∈ trials, ∀ e, t.step.failure = some e → Told t.world t.left ∧
        t.after = { t.bench with store := t.action.failed e t.bench.store } := by
  intro trials
  refine ⟨holds_smallHarness, refuses_refusedUndoing, by decide +kernel, ?_⟩
  intro t ht e he
  obtain ⟨-, -, -, -, hfailed⟩ :=
    trials_undoable holds_smallHarness .keepChanges refusedUndoing refuses_refusedUndoing t ht
  exact ⟨(hfailed e he).1, (hfailed e he).2.1⟩

/-- The undoing that is refused has given up the change, whose text stays. -/
theorem not_kept_refusedUndoing :
    ¬ ∀ plan : List (StoreAction × Option FileSystem),
      (∀ entry ∈ plan, ∀ files, entry.2 = some files → files.Refuses "harness.c") →
      ∀ t ∈ Workbench.trials { store := .ofText "harness.c" smallHarness .keepChanges }
          smallWorld plan,
        ∀ fault, t.step.failure = some (.io fault) →
          t.after.store.source = t.bench.store.source ∧ t.after.store.log = t.bench.store.log ∧
            t.after.store.current.inserted = t.bench.store.current.inserted ∧
            t.after.store.inFlight = t.bench.store.inFlight := by
  intro hall
  let trials := Workbench.trials { store := .ofText "harness.c" smallHarness .keepChanges }
    smallWorld refusedUndoing
  have hsecond : trials[1]?.map (fun t => (t.step.failure, t.bench.store.inFlight.isSome,
      t.after.store.inFlight)) = some (some (.io .isDirectory), true, none) := by
    decide +kernel
  obtain ⟨t, ht, hseen⟩ := Option.map_eq_some_iff.1 hsecond
  obtain ⟨hfailure, hrest⟩ := Prod.mk.inj hseen
  obtain ⟨hsome, hnone⟩ := Prod.mk.inj hrest
  obtain ⟨-, -, -, hkept⟩ := hall refusedUndoing refuses_refusedUndoing t
    (List.mem_of_getElem? ht) _ hfailure
  rw [← hkept, hnone] at hsome
  cases hsome

end

end HarnessRepair
