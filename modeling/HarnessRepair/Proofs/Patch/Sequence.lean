import HarnessRepair.Proofs.Patch.Exact
import HarnessRepair.Proofs.Patch.Places
import Mathlib.Data.List.Sort

/-!
# A batch of patches and its sequence

Some patches that are applied as one change work on one list of lines, with the
terminator that the text asks for at the start, and nothing is written before the last
of them is in.  Applied one at a time, each of them sees a text that has been put
together and cut anew.  Where every carriage return stands before a line feed, the cuts
come out the same, and so do the terminators; so both ways do the same, and where they
fail, they fail for the same reason.

## Main definitions

* `PatchStore.applyAllKept` — some patches as one change that is kept.
* `PatchStore.applyEachKept` — some patches one at a time, each as a change that is kept.
* `marksAfter` — the inserted lines in the order in which they came.

## Main results

* `Snapshot.extend_cons` — **the patches behind the first see the text that it leaves.**
* `Snapshot.extend_inserted` — the line map is what has come, put in order at the end.
* `run_applyAllKept_cases`, `run_applyEachKept_cases` — what becomes of some patches in
  either way.
* `run_applyAllKept_eq` — **a batch does what its sequence does.**
-/

namespace HarnessRepair

open Text

/-! ### Both ways -/

namespace PatchStore

variable {ε : Type}

/-- Applies some patches in order as one change, and keeps it. -/
def applyAllKept (s : PatchStore) (patches : List Patch) :
    Run ε (Except PatchError Unit × PatchStore) := do
  match ← s.applyAll patches with
  | (.error e, s) => return (.error e, s)
  | (.ok handle, s) => return s.commit handle

/-- Applies some patches one at a time, each as a change that is kept.  The first that is
not applied ends it. -/
def applyEachKept : PatchStore → List Patch → Run ε (Except PatchError Unit × PatchStore)
  | s, [] => return (.ok (), s)
  | s, p :: ps => do
    match ← s.applyAllKept [p] with
    | (.error e, s) => return (.error e, s)
    | (.ok (), s) => s.applyEachKept ps

/-- The store after some more changes, the last of which has led to the snapshot `next`. -/
def advanced (s : PatchStore) (next : Snapshot) (changes : Nat) : PatchStore :=
  { s with current := next, nextId := s.nextId + changes, inFlight := none }

theorem advanced_zero {s : PatchStore} (hfree : s.inFlight = none) :
    s.advanced s.current 0 = s := by
  cases s
  cases hfree
  rfl

theorem advanced_advanced (s : PatchStore) (mid next : Snapshot) (m n : Nat) :
    (s.advanced mid m).advanced next n = s.advanced next (m + n) := by
  rw [advanced, advanced, advanced, Nat.add_assoc]

end PatchStore

/-! ### The patches behind the first -/

/-- **The patches behind the first see the text that it leaves**, cut into its lines anew. -/
theorem Snapshot.extend_cons {s : Snapshot} (h : ReturnFree s.draft.lines) (p : Patch)
    (ps : List Patch) :
    s.extend (p :: ps) =
      match s.extend [p] with
      | .error e => .error e
      | .ok next => next.extend ps := by
  rw [extend_eq, extend_eq, Draft.addAll, Draft.addAll]
  cases hadd : s.draft.add (newlineOf s.source.toList) p with
  | error e => rfl
  | ok d =>
    -- the text that is put together is cut where it was joined, and asks for the same terminator
    have hsteady := (Snapshot.steady_draft h).add hadd
    have hcut : d.joined.draft = d := draft_joined hsteady.cut
    have hnewline : newlineOf d.joined.source.toList = newlineOf s.source.toList := by
      rw [Draft.joined, String.toList_ofList, hsteady.newline_eq]
    change (d.addAll _ ps).map Draft.joined = d.joined.extend ps
    rw [extend_eq, hcut, hnewline]

/-! ### The inserted lines in the order in which they came -/

/-- The inserted lines after some patches: those that were there move, and the lines of each
patch come behind them. -/
def marksAfter (marks : List Nat) (log : List AppliedPatch) : List Nat :=
  log.foldl (fun marks a => marks.map (moved a.line a.height) ++ List.range' a.line a.height)
    marks

theorem marksAfter_concat (marks : List Nat) (log : List AppliedPatch) (a : AppliedPatch) :
    marksAfter marks (log ++ [a]) =
      (marksAfter marks log).map (moved a.line a.height) ++ List.range' a.line a.height := by
  rw [marksAfter, List.foldl_append]
  rfl

/-- In the line map a block stands in its place, not at the end. -/
theorem shiftInserted_perm {inserted : List Nat} (hasc : Ascending inserted)
    (start count : Nat) :
    (shiftInserted start count inserted).Perm
      (inserted.map (moved start count) ++ List.range' start count) := by
  have hbefore : (inserted.takeWhile (· < start)).map (moved start count) =
      inserted.takeWhile (· < start) := by
    refine (List.map_congr_left fun i hi => ?_).trans (List.map_id _)
    have hlt := List.mem_takeWhile_imp hi
    rw [moved, if_pos (of_decide_eq_true hlt), id]
  have hbehind : (inserted.dropWhile (· < start)).map (moved start count) =
      (inserted.dropWhile (· < start)).map (· + count) := by
    refine List.map_congr_left fun i hi => ?_
    rw [dropWhile_lt hasc] at hi
    have hge := of_decide_eq_true (List.mem_filter.1 hi).2
    rw [moved, if_neg (Nat.not_lt.2 hge)]
  have hall : inserted.map (moved start count) =
      inserted.takeWhile (· < start) ++ (inserted.dropWhile (· < start)).map (· + count) := by
    rw [← hbehind, ← hbefore, ← List.map_append, List.takeWhile_append_dropWhile]
  rw [shiftInserted, hall, List.append_assoc, List.append_assoc]
  exact List.Perm.append_left _ List.perm_append_comm

/-- The line map of some lines after some more patches. -/
theorem Draft.addAll_inserted {newline : List Char} {d e : Draft} {ps : List Patch}
    (h : d.addAll newline ps = .ok e) (hasc : Ascending d.inserted) :
    ∃ added, e.log = d.log ++ added ∧ Ascending e.inserted ∧
      e.inserted.Perm (marksAfter d.inserted added) := by
  refine Draft.addAll_induct (P := fun m => ∃ added, m.log = d.log ++ added ∧
    Ascending m.inserted ∧ m.inserted.Perm (marksAfter d.inserted added)) ?_ h
      ⟨[], (List.append_nil _).symm, hasc, List.Perm.refl _⟩
  rintro m p m' ⟨added, hlog, hm, hperm⟩ hadd
  obtain ⟨k, indent, -, -, -, -, hlog', hinserted⟩ := Draft.add_eq_ok hadd
  refine ⟨added ++ [⟨p, k + 1⟩], ?_, ?_, ?_⟩
  · rw [hlog', hlog, List.append_assoc]
  · rw [hinserted]
    exact ascending_shiftInserted hm _ _
  · rw [hinserted, marksAfter_concat]
    exact (shiftInserted_perm hm _ _).trans ((hperm.map _).append_right _)

/-- The line map is what has come, put in order at the end. -/
theorem Snapshot.extend_inserted {s t : Snapshot} {ps : List Patch} (h : s.extend ps = .ok t)
    (hasc : Ascending s.inserted) :
    ∃ added, t.log = s.log ++ added ∧ t.inserted = (marksAfter s.inserted added).mergeSort := by
  obtain ⟨added, hlog, hsorted, hperm⟩ := Draft.addAll_inserted (draft_extend h) hasc
  refine ⟨added, hlog, ?_⟩
  have hle : t.inserted.Pairwise (· ≤ ·) := hsorted.imp Nat.le_of_lt
  refine (hperm.trans (List.mergeSort_perm _ _).symm).eq_of_pairwise' hle ?_
  exact List.pairwise_mergeSort' _ _

/-! ### What becomes of some patches -/

section

variable {ε : Type} {s : PatchStore}

/-- All that can become of some patches that are applied as one change, where the harness can
be written. -/
theorem run_applyAllKept_cases (hfree : s.inFlight = none) {w : World ε}
    (hplace : ∃ place, w.files.writable s.path = .ok place) (patches : List Patch) :
    (∃ next w', s.current.extend patches = .ok next ∧
      (s.applyAllKept patches).run w = ((.ok (), s.advanced next 1), w') ∧
      Holds s.path next.source w') ∨
    ∃ e, s.current.extend patches = .error e ∧
      (s.applyAllKept patches).run w = ((.error e, s), w) := by
  cases hext : s.current.extend patches with
  | error e =>
    refine Or.inr ⟨e, rfl, ?_⟩
    rw [PatchStore.applyAllKept, run_bind, PatchStore.run_applyAll_misfit hfree hext]
    rfl
  | ok next =>
    obtain ⟨files, hwrite⟩ := (@FileSystem.exists_write_iff _ _ next.source).2 hplace
    obtain ⟨w', hrun, rfl, -⟩ := PatchStore.run_applyAll_of_write hfree hext hwrite
    refine Or.inl ⟨next, w', rfl, ?_, FileSystem.readText_of_write hwrite⟩
    rw [PatchStore.applyAllKept, run_bind, hrun]
    have hmade : (s.changed next).inFlight = some ⟨s.nextId, s.current⟩ := rfl
    exact congrArg (fun r => (r, w')) (PatchStore.commit_eq hmade)

/-- All that can become of some patches that are applied one at a time, where the harness can
be written: all of them are applied, and the batch would be too; or they are up to one that
does not fit into what the ones before it have left, and that is what the batch would fail of. -/
theorem run_applyEachKept_cases (hfree : s.inFlight = none)
    (hreturns : ReturnFree s.current.draft.lines) {w : World ε}
    (hplace : ∃ place, w.files.writable s.path = .ok place) (patches : List Patch) :
    (∃ next w', s.current.extend patches = .ok next ∧
      (s.applyEachKept patches).run w = ((.ok (), s.advanced next patches.length), w') ∧
      (patches = [] ∧ w' = w ∨ Holds s.path next.source w')) ∨
    ∃ e before p after mid w', patches = before ++ p :: after ∧
      s.current.extend patches = .error e ∧
      (s.applyEachKept before).run w = ((.ok (), mid), w') ∧
      Misfit p (terminated mid.source.toList) e ∧
      (s.applyEachKept patches).run w = ((.error e, mid), w') := by
  induction patches generalizing s w with
  | nil =>
    refine Or.inl ⟨s.current, w, s.current.extend_nil, ?_, Or.inl ⟨rfl, rfl⟩⟩
    rw [List.length_nil, PatchStore.advanced_zero hfree]
    rfl
  | cons p ps ih =>
    rw [Snapshot.extend_cons hreturns]
    rcases run_applyAllKept_cases hfree hplace [p] with
      ⟨next, w', hext, hrun, hholds⟩ | ⟨e, hext, hrun⟩
    · rw [hext]
      dsimp only
      -- what becomes of the patches behind the first is what becomes of them after it
      have hthen : ∀ qs, (s.applyEachKept (p :: qs)).run w =
          ((s.advanced next 1).applyEachKept qs).run w' := by
        intro qs
        rw [PatchStore.applyEachKept, run_bind, hrun]
      rw [hthen]
      have hreturns' := returnFree_extend hreturns hext
      rcases ih (s := s.advanced next 1) rfl hreturns' hholds.exists_writable with
        ⟨last, w'', hext', hrun', hholds'⟩ |
        ⟨e, before, q, after, mid, w'', rfl, hext', hbefore, hmisfit, hrun'⟩
      · refine Or.inl ⟨last, w'', hext', ?_, Or.inr ?_⟩
        · rw [hrun', PatchStore.advanced_advanced, List.length_cons, Nat.add_comm]
        · rcases hholds' with ⟨rfl, rfl⟩ | hholds'
          · rw [Snapshot.extend_nil] at hext'
            rwa [← Except.ok.inj hext']
          · exact hholds'
      · refine Or.inr ⟨e, p :: before, q, after, mid, w'', rfl, hext', ?_, hmisfit, hrun'⟩
        rw [hthen]
        exact hbefore
    · rw [hext]
      refine Or.inr ⟨e, [], p, ps, s, w, rfl, rfl, rfl,
        Snapshot.extend_singleton_eq_error_iff.1 hext, ?_⟩
      rw [PatchStore.applyEachKept, run_bind, hrun]
      rfl

/-- Where the harness cannot be written, no change is made. -/
theorem run_applyAllKept_refused (hfree : s.inFlight = none) {w : World ε} {fault : IoError}
    (hrefused : w.files.writable s.path = .error fault) (patches : List Patch) :
    ∃ e, (s.applyAllKept patches).run w = ((.error e, s), w) ∧
      (s.current.extend patches = .error e ∨ e = .io fault) := by
  cases hext : s.current.extend patches with
  | error e =>
    refine ⟨e, ?_, Or.inl rfl⟩
    rw [PatchStore.applyAllKept, run_bind, PatchStore.run_applyAll_misfit hfree hext]
    rfl
  | ok next =>
    refine ⟨_, ?_, Or.inr rfl⟩
    rw [PatchStore.applyAllKept, run_bind, PatchStore.run_applyAll_refused hfree hext hrefused]
    rfl

/-- **A batch does what its sequence does.**  Let every carriage return of the text stand
before a line feed, let no change be in flight, and let the harness be written.  Then some
patches that are applied as one change and kept, and the same patches applied and kept one at
a time, have the same result.  If they are applied, the text, the log and the inserted lines
are the same, the latter also if they are put in order only at the end; else the batch leaves
everything as it is, and fails of the first patch that does not fit into what the sequence has
made.  Where the harness cannot be written, neither makes any change. -/
theorem run_applyAllKept_eq (hfree : s.inFlight = none)
    (hpaired : ReturnsPaired s.source.toList) (patches : List Patch) (w : World ε) :
    ((∃ place, w.files.writable s.path = .ok place) → ∃ result t u w₁ w₂,
      (s.applyAllKept patches).run w = ((result, t), w₁) ∧
      (s.applyEachKept patches).run w = ((result, u), w₂) ∧
      (result = .ok () →
        t.current = u.current ∧ t = s.advanced t.current 1 ∧
        u = s.advanced t.current patches.length ∧
        Holds s.path t.source w₁ ∧ (patches = [] ∧ w₂ = w ∨ Holds s.path t.source w₂) ∧
        (Ascending s.current.inserted → ∃ added, t.log = s.log ++ added ∧
          t.current.inserted = (marksAfter s.current.inserted added).mergeSort)) ∧
      ∀ e, result = .error e → t = s ∧ w₁ = w ∧
        ∃ before p after, patches = before ++ p :: after ∧
          (s.applyEachKept before).run w = ((.ok (), u), w₂) ∧
          Misfit p (terminated u.source.toList) e) ∧
    ∀ fault, w.files.writable s.path = .error fault →
      (∃ e, (s.applyAllKept patches).run w = ((.error e, s), w) ∧
        (s.current.extend patches = .error e ∨ e = .io fault)) ∧
      (patches = [] ∨ ∃ e, (s.applyEachKept patches).run w = ((.error e, s), w)) := by
  have hreturns : ReturnFree s.current.draft.lines := returnFree_terminated hpaired
  constructor
  · intro hplace
    rcases run_applyAllKept_cases hfree hplace patches with
      ⟨next, w₁, hext, hbatch, hholds⟩ | ⟨e, hext, hbatch⟩
    · rcases run_applyEachKept_cases hfree hreturns hplace patches with
        ⟨next', w₂, hext', heach, hholds'⟩ | ⟨e, _, _, _, _, _, _, hext', _⟩
      · obtain rfl := Except.ok.inj (hext.symm.trans hext')
        refine ⟨.ok (), _, _, w₁, w₂, hbatch, heach, fun _ => ?_, nofun⟩
        exact ⟨rfl, rfl, rfl, hholds, hholds', fun hasc => Snapshot.extend_inserted hext hasc⟩
      · cases hext.symm.trans hext'
    · rcases run_applyEachKept_cases hfree hreturns hplace patches with
        ⟨next, w₂, hext', _⟩ |
        ⟨e', before, p, after, mid, w₂, hsplit, hext', hbefore, hmisfit, heach⟩
      · cases hext.symm.trans hext'
      · obtain rfl := Except.error.inj (hext.symm.trans hext')
        refine ⟨.error e, s, mid, w, w₂, hbatch, heach, nofun, fun e' he => ?_⟩
        obtain rfl := Except.error.inj he
        exact ⟨rfl, rfl, before, p, after, hsplit, hbefore, hmisfit⟩
  · intro fault hrefused
    refine ⟨run_applyAllKept_refused hfree hrefused patches, ?_⟩
    cases patches with
    | nil => exact Or.inl rfl
    | cons p ps =>
      obtain ⟨e, hrun, -⟩ := run_applyAllKept_refused hfree hrefused [p]
      refine Or.inr ⟨e, ?_⟩
      rw [PatchStore.applyEachKept, run_bind, hrun]
      rfl

end

/-- A precondition behind another one. -/
def secondGuard : Patch :=
  ⟨"assume(n > 1);", { function := "harness", previousLine := "assume(n < 9);" }⟩

/-- The second patch finds its place only once the first is in. -/
theorem run_applyAllKept_eq_secondGuard :
    let store := PatchStore.ofText "harness.c" smallHarness .keepChanges
    let patches := [smallPatch "assume(n < 9);", secondGuard]
    let guarded := "void harness()\x7b\r\n  int n;\r\n  assume(n < 9);\r\n" ++
      "  assume(n > 1);\r\n  assume(n);\r\n  f(n);\r\n\x7d"
    store.inFlight = none ∧ ReturnsPaired store.source.toList ∧
      ∃ t u w₁ w₂, (store.applyAllKept patches).run smallWorld = ((.ok (), t), w₁) ∧
        (store.applyEachKept patches).run smallWorld = ((.ok (), u), w₂) ∧
        u.current = t.current ∧ t.source = guarded ∧ t.current.inserted = [3, 4] ∧
        Holds "harness.c" guarded w₁ ∧ Holds "harness.c" guarded w₂ := by
  intro store patches guarded
  have hfree : store.inFlight = none := rfl
  have hpaired : ReturnsPaired store.source.toList := by decide
  obtain ⟨hwritten, -⟩ := run_applyAllKept_eq hfree hpaired patches smallWorld
  obtain ⟨result, t, u, w₁, w₂, hbatch, heach, hok, -⟩ :=
    hwritten holds_smallHarness.exists_writable
  have hdone : ((store.applyAllKept patches).run smallWorld).1.1.toOption = some () := by
    decide +kernel
  have hlast : ((store.applyAllKept patches).run smallWorld).1.2.current =
      ⟨guarded, [⟨smallPatch "assume(n < 9);", 3⟩, ⟨secondGuard, 4⟩], [3, 4]⟩ := by
    decide +kernel
  rw [hbatch] at hdone hlast
  obtain rfl : result = .ok () := by
    cases result with
    | error e => cases hdone
    | ok _ => rfl
  obtain ⟨hsame, -, -, hholds, hnone | hholds', -⟩ := hok rfl
  · exact absurd hnone.1 (List.cons_ne_nil _ _)
  · have htext : t.source = guarded := congrArg Snapshot.source hlast
    rw [htext] at hholds hholds'
    exact ⟨hfree, hpaired, t, u, w₁, w₂, hbatch, heach, hsame.symm, htext,
      congrArg Snapshot.inserted hlast, hholds, hholds'⟩

end HarnessRepair
