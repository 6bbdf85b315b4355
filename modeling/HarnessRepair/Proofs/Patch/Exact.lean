import HarnessRepair.Proofs.Files.Apart
import HarnessRepair.Proofs.Patch.Placement
import HarnessRepair.Proofs.Patch.Reached

/-!
# What applying one patch does

Whether a patch is applied depends on the lines of its function alone, and on whether
the harness can be written.  When it is applied, the text is cut at one place and a
block is put there; a line that is cut off without its terminator gets one.  Nothing
else of the text changes, and the log says where the block starts.

## Main definitions

* `missingEnd` — what a text lacks at its end before a block can stand behind it.
* `Inserts` — the text with a patch in it, character by character.

## Main results

* `flatten_insertAt` — the characters of a text with a block in it.
* `run_apply_exact` — **when a patch is applied, and what that does.**
-/

namespace HarnessRepair

open Text

/-! ### The characters of a text with a block in it -/

/-- What a text lacks at its end before a block can stand behind it: nothing if it is empty or a
line feed ends it, else the terminator. -/
def missingEnd (newline front : List Char) : List Char :=
  if front = [] ∨ front.getLast? = some '\n' then [] else newline

theorem flatten_terminateLast (newline : List Char) {ls : List Line} (h : IsCut ls) :
    (terminateLast newline ls).flatten = ls.flatten ++ missingEnd newline ls.flatten := by
  rcases List.eq_nil_or_concat' ls with rfl | ⟨init, l, rfl⟩
  · rfl
  · have hne : l ≠ [] := by
      rcases h.closed_or_open (List.mem_append_right _ (List.mem_singleton_self l)) with hc | ho
      · intro hnil
        have hlast := hc.getLast?
        rw [hnil] at hlast
        cases hlast
      · exact ho.1
    have hlast : (init.flatten ++ l).getLast? = l.getLast? := by
      rw [List.getLast?_append, List.getLast?_eq_some_getLast hne, Option.some_or]
    have hjoined : init.flatten ++ l ≠ [] := fun hnil => hne (List.append_eq_nil_iff.1 hnil).2
    rw [terminateLast_concat, List.flatten_append, List.flatten_singleton, List.flatten_append,
      List.flatten_singleton, missingEnd, hlast, terminate, List.append_assoc]
    by_cases hended : l.getLast? = some '\n'
    · rw [if_pos hended, if_pos (Or.inr hended), List.append_nil]
    · rw [if_neg hended, if_neg (not_or.2 ⟨hjoined, hended⟩)]

/-- A block is put between two parts of the text; the first part is ended before. -/
theorem flatten_insertAt {newline : List Char} {block lines : List Line} {k : Nat}
    (h : IsCut lines) :
    (insertAt newline block k lines).flatten =
      (lines.take k).flatten ++ missingEnd newline (lines.take k).flatten ++ block.flatten ++
        (lines.drop k).flatten := by
  rw [insertAt, List.flatten_append, List.flatten_append, flatten_terminateLast newline (h.take k)]

/-- The text `new` is the text `old` with the patch `p` in it: the text is cut before the
line `k`, and between the parts stands the block of the patch, indented like the line `i`.
A part that no line feed ends is ended before the block. -/
structure Inserts (p : Patch) (old new : String) (i k : Nat) : Prop where
  text :
    let lines := terminated old.toList
    let newline := newlineOf old.toList
    let front := (lines.take k).flatten
    let back := (lines.drop k).flatten
    let block := blockOf (indentOf (lines.getD i [])) newline (statementLines p.statement)
    old.toList = front ++ back ∧
      new.toList = front ++ missingEnd newline front ++ block.flatten ++ back
  /-- The lines of the block follow one another from the line `k` on. -/
  lines : ∀ m st, (statementLines p.statement)[m]? = some st →
    lineAt? (terminated new.toList) (k + 1 + m) =
      some (indentOf ((terminated old.toList).getD i []) ++ st ++ newlineOf old.toList)

/-- Joining the lines with a block in them gives the text with the patch in it. -/
theorem inserts_of_insertAt {p : Patch} {old : String} {start stop i k : Nat}
    (h : Fits p (terminated old.toList) start stop i k) :
    Inserts p old (String.ofList (insertAt (newlineOf old.toList)
      (blockOf (indentOf ((terminated old.toList).getD i [])) (newlineOf old.toList)
        (statementLines p.statement)) k (terminated old.toList)).flatten) i k := by
  have hcut := isCut_terminated old.toList
  have hn := isNewline_newlineOf old.toList
  have hle : k ≤ (terminated old.toList).length := by
    have hwithin := h.leads.within
    have hstop := h.span.within.2
    rcases h.leads.place with rfl | rfl
    · omega
    · omega
  refine ⟨⟨?_, ?_⟩, ?_⟩
  · rw [← List.flatten_append, List.take_append_drop, flatten_terminated]
  · rw [String.toList_ofList, flatten_insertAt hcut]
  · intro m st hst
    have hblock : (blockOf (indentOf ((terminated old.toList).getD i [])) (newlineOf old.toList)
        (statementLines p.statement))[m]? =
          some (indentOf ((terminated old.toList).getD i []) ++ st ++ newlineOf old.toList) := by
      rw [blockOf, List.getElem?_map, hst]
      rfl
    have hclosed : ∀ l ∈ blockOf (indentOf ((terminated old.toList).getD i []))
        (newlineOf old.toList) (statementLines p.statement), IsClosed l :=
      fun l hl => (mem_blockOf hn (fun _ => mem_indentOf) hl).1
    have hplace : k + 1 + m = (k + m) + 1 := by omega
    rw [String.toList_ofList, terminated_flatten (isCut_insertAt hn hclosed hcut), hplace, lineAt?,
      getElem?_insertAt_block hle (List.getElem?_eq_some_iff.1 hblock).1, hblock]

/-! ### One patch -/

/-- A change of one patch, by what becomes of the lines. -/
theorem Snapshot.extend_singleton (s : Snapshot) (p : Patch) :
    s.extend [p] =
      match insertPatch (newlineOf s.source.toList) (terminated s.source.toList) p with
      | .error e => .error e
      | .ok (lines, line) =>
        .ok
          { source := String.ofList lines.flatten
            log := s.log ++ [⟨p, line⟩]
            inserted := shiftInserted line (statementLines p.statement).length s.inserted } := by
  rw [extend, Draft.addAll, Draft.add]
  cases insertPatch (newlineOf s.source.toList) (terminated s.source.toList) p with
  | error e => rfl
  | ok r => rfl

/-- A change of one patch fails of what the patch does not fit for. -/
theorem Snapshot.extend_singleton_eq_error_iff {s : Snapshot} {p : Patch} {e : PatchError} :
    s.extend [p] = .error e ↔ Misfit p (terminated s.source.toList) e := by
  rw [extend_singleton, ← @insertPatch_eq_error_iff (newlineOf s.source.toList)]
  cases insertPatch (newlineOf s.source.toList) (terminated s.source.toList) p with
  | error e' =>
    exact ⟨fun h => congrArg _ (Except.error.inj h), fun h => congrArg _ (Except.error.inj h)⟩
  | ok r => exact iff_of_false nofun nofun

/-- What a patch that fits makes of a snapshot. -/
theorem Snapshot.extend_singleton_of_fits {s : Snapshot} {p : Patch} {start stop i k : Nat}
    (h : Fits p (terminated s.source.toList) start stop i k) :
    ∃ next, s.extend [p] = .ok next ∧ Inserts p s.source next.source i k ∧
      next.log = s.log ++ [⟨p, k + 1⟩] ∧
      next.inserted = shiftInserted (k + 1) (statementLines p.statement).length s.inserted := by
  have hnext := s.extend_singleton p
  rw [insertPatch_of_fits h] at hnext
  exact ⟨_, hnext, inserts_of_insertAt h, rfl, rfl⟩

/-! ### Applying a patch -/

section

variable {ε : Type} {s : PatchStore} {w : World ε} {p : Patch}

/-- A patch fits exactly if its function is defined, the lines of the function hold none of
its statements, and one of them is a line that its anchor speaks of. -/
theorem exists_fits_iff {lines : List Line} :
    (∃ start stop i k, Fits p lines start stop i k) ↔
      ∃ start stop, FunctionSpan p.anchor.functionName.toList lines start stop ∧
        (∀ st ∈ statementLines p.statement, ¬ Repeats lines start stop st) ∧
        ∃ j l, start ≤ j ∧ j < stop ∧ lines[j]? = some l ∧
          (Mentions p.anchor.previousLine l ∨ Mentions p.anchor.nextLine l) := by
  constructor
  · rintro ⟨start, stop, i, k, hspan, hfresh, hleads⟩
    obtain ⟨l, hl, hmentions⟩ := hleads.mentioned
    exact ⟨start, stop, hspan, hfresh, i, l, hleads.within.1, hleads.within.2, hl, hmentions⟩
  · rintro ⟨start, stop, hspan, hfresh, j, l, hge, hlt, hl, hmentions⟩
    rcases fits_or_misfit p lines with hfits | ⟨e, hmisfit⟩
    · exact hfits
    · cases hmisfit with
      | undefined hnone =>
        obtain ⟨d, hd, hdefines⟩ := hspan.defined
        exact absurd hdefines (hnone d (List.mem_of_getElem? hd))
      | repeated hspan' hsplit _ hrepeats =>
        obtain ⟨rfl, rfl⟩ := hspan.unique hspan'
        refine absurd hrepeats (hfresh _ ?_)
        rw [hsplit]
        exact List.mem_append_right _ List.mem_cons_self
      | astray hspan' _ hnone =>
        obtain ⟨rfl, rfl⟩ := hspan.unique hspan'
        obtain ⟨hprevious, hnext⟩ := hnone j l hge hlt hl
        exact (hmentions.elim hprevious hnext).elim

/-- There is one reason at most why a patch does not fit. -/
theorem Misfit.unique {lines : List Line} {e e' : PatchError} (h : Misfit p lines e)
    (h' : Misfit p lines e') : e = e' := by
  have hsame := (@insertPatch_of_misfit [] _ _ _ h).symm.trans (insertPatch_of_misfit h')
  exact Except.error.inj hsame

/-- A patch that fits does not misfit. -/
theorem Fits.not_misfit {lines : List Line} {start stop i k : Nat} {e : PatchError}
    (h : Fits p lines start stop i k) : ¬ Misfit p lines e := by
  intro hmisfit
  have hok := @insertPatch_of_fits [] _ _ _ _ _ _ h
  rw [insertPatch_of_misfit hmisfit] at hok
  cases hok

/-- All that can become of a patch that is applied while no change is in flight. -/
theorem run_apply_cases (hfree : s.inFlight = none) (p : Patch) (w : World ε) :
    (∃ e, Misfit p (terminated s.source.toList) e ∧ (s.apply p).run w = ((.error e, s), w)) ∨
    (∃ start stop i k, Fits p (terminated s.source.toList) start stop i k ∧
      ((∃ fault, w.files.writable s.path = .error fault ∧
          (s.apply p).run w = ((.error (.io fault), s), w)) ∨
        ∃ next w', (s.apply p).run w = ((.ok s.nextId, s.changed next), w') ∧
          w.files.write s.path next.source = .ok w'.files ∧ w'.outside = w.outside ∧
          Inserts p s.source next.source i k ∧ next.log = s.log ++ [⟨p, k + 1⟩] ∧
          next.inserted =
            shiftInserted (k + 1) (statementLines p.statement).length s.current.inserted)) := by
  rcases fits_or_misfit p (terminated s.source.toList) with
    ⟨start, stop, i, k, hfits⟩ | ⟨e, hmisfit⟩
  · refine Or.inr ⟨start, stop, i, k, hfits, ?_⟩
    obtain ⟨next, hnext, hinserts, hlog, hinserted⟩ :=
      Snapshot.extend_singleton_of_fits (s := s.current) hfits
    cases hwrite : w.files.write s.path next.source with
    | error fault =>
      have hrefused := FileSystem.write_eq_error_iff.1 hwrite
      exact Or.inl ⟨fault, hrefused, PatchStore.run_applyAll_refused hfree hnext hrefused⟩
    | ok files =>
      obtain ⟨w', hrun, rfl, hout⟩ := PatchStore.run_applyAll_of_write hfree hnext hwrite
      exact Or.inr ⟨next, w', hrun, hwrite, hout, hinserts, hlog, hinserted⟩
  · have hext := (Snapshot.extend_singleton_eq_error_iff (s := s.current)).2 hmisfit
    exact Or.inl ⟨e, hmisfit, PatchStore.run_applyAll_misfit hfree hext⟩

/-- What has come of a patch that was applied. -/
theorem run_apply_ok (hfree : s.inFlight = none) {handle : Nat} {t : PatchStore} {w' : World ε}
    (h : (s.apply p).run w = ((.ok handle, t), w')) :
    handle = s.nextId ∧ t = s.changed t.current ∧
      w.files.write s.path t.source = .ok w'.files ∧
      ∃ start stop i k, Fits p (terminated s.source.toList) start stop i k ∧
        Inserts p s.source t.source i k ∧ t.log = s.log ++ [⟨p, k + 1⟩] ∧
        t.current.inserted =
          shiftInserted (k + 1) (statementLines p.statement).length s.current.inserted := by
  rcases run_apply_cases hfree p w with ⟨e, -, hrun⟩ |
    ⟨start, stop, i, k, hfits, ⟨fault, -, hrun⟩ |
      ⟨next, u, hrun, hwrite, -, hinserts, hlog, hinserted⟩⟩
  · cases hrun.symm.trans h
  · cases hrun.symm.trans h
  · cases hrun.symm.trans h
    exact ⟨rfl, rfl, hwrite, start, stop, i, k, hfits, hinserts, hlog, hinserted⟩

theorem run_apply_ok_iff (hfree : s.inFlight = none) :
    (∃ handle t w', (s.apply p).run w = ((.ok handle, t), w')) ↔
      (∃ start stop i k, Fits p (terminated s.source.toList) start stop i k) ∧
        ∃ place, w.files.writable s.path = .ok place := by
  constructor
  · rintro ⟨handle, t, w', h⟩
    obtain ⟨-, -, hwrite, start, stop, i, k, hfits, -⟩ := run_apply_ok hfree h
    exact ⟨⟨start, stop, i, k, hfits⟩, FileSystem.exists_write_iff.1 ⟨_, hwrite⟩⟩
  · rintro ⟨⟨start, stop, i, k, hfits⟩, place, hplace⟩
    rcases run_apply_cases hfree p w with ⟨e, hmisfit, -⟩ |
      ⟨_, _, _, _, -, ⟨fault, hrefused, -⟩ | ⟨next, w', hrun, -⟩⟩
    · exact absurd hmisfit hfits.not_misfit
    · cases hplace.symm.trans hrefused
    · exact ⟨_, _, _, hrun⟩

/-- A patch that does not fit is refused for its reason, one that does only where the harness
cannot be written; and a refusal changes nothing. -/
theorem run_apply_error_iff (hfree : s.inFlight = none) {e : PatchError} {t : PatchStore}
    {w' : World ε} :
    (s.apply p).run w = ((.error e, t), w') ↔ (t = s ∧ w' = w) ∧
      (Misfit p (terminated s.source.toList) e ∨
        (∀ reason, ¬ Misfit p (terminated s.source.toList) reason) ∧
          ∃ fault, e = .io fault ∧ w.files.writable s.path = .error fault) := by
  rcases run_apply_cases hfree p w with ⟨reason, hmisfit, hrun⟩ |
    ⟨start, stop, i, k, hfits, ⟨fault, hrefused, hrun⟩ | ⟨next, u, hrun, hwrite, -⟩⟩
  · rw [hrun]
    constructor
    · intro h
      cases h
      exact ⟨⟨rfl, rfl⟩, Or.inl hmisfit⟩
    · rintro ⟨⟨rfl, rfl⟩, hmisfit' | ⟨hnone, -⟩⟩
      · rw [hmisfit.unique hmisfit']
      · exact absurd hmisfit (hnone reason)
  · rw [hrun]
    constructor
    · intro h
      cases h
      exact ⟨⟨rfl, rfl⟩, Or.inr ⟨fun _ => hfits.not_misfit, fault, rfl, hrefused⟩⟩
    · rintro ⟨⟨rfl, rfl⟩, hmisfit | ⟨-, fault', rfl, hrefused'⟩⟩
      · exact absurd hmisfit hfits.not_misfit
      · cases hrefused.symm.trans hrefused'
        rfl
  · rw [hrun]
    refine iff_of_false (fun h => by cases h) ?_
    rintro ⟨-, hmisfit | ⟨-, fault, -, hrefused⟩⟩
    · exact hfits.not_misfit hmisfit
    · obtain ⟨place, hplace⟩ := FileSystem.exists_write_iff.1 ⟨_, hwrite⟩
      cases hplace.symm.trans hrefused

/-- **When a patch is applied, and what that does.**  While no change is in flight, a patch
goes through exactly if its function is defined, no line of the function says what one of its
statements says, one of these lines is what its anchor speaks of, and the harness can be
written.  Otherwise nothing changes, and the error is the first that holds: that the function
is not defined, that a statement is there already, that no line is what the anchor speaks of,
or that the harness cannot be written.  When it goes through, the new text is the old one with
the block of the patch behind the first line that holds the previous line or, if there is none,
before the first that holds the next; and the log names the first line of the block. -/
theorem run_apply_exact (hfree : s.inFlight = none) (p : Patch) (w : World ε) :
    let lines := terminated s.source.toList
    let ran := (s.apply p).run w
    ((∃ handle t w', ran = ((.ok handle, t), w')) ↔
      (∃ start stop, FunctionSpan p.anchor.functionName.toList lines start stop ∧
        (∀ st ∈ statementLines p.statement, ¬ Repeats lines start stop st) ∧
        ∃ j l, start ≤ j ∧ j < stop ∧ lines[j]? = some l ∧
          (Mentions p.anchor.previousLine l ∨ Mentions p.anchor.nextLine l)) ∧
      ∃ place, w.files.writable s.path = .ok place) ∧
    (∀ e t w', ran = ((.error e, t), w') ↔ (t = s ∧ w' = w) ∧
      (Misfit p lines e ∨ (∀ reason, ¬ Misfit p lines reason) ∧
        ∃ fault, e = .io fault ∧ w.files.writable s.path = .error fault)) ∧
    (∀ handle t w', ran = ((.ok handle, t), w') →
      handle = s.nextId ∧ t = s.changed t.current ∧ Holds s.path t.source w' ∧
      ∃ start stop i k, FunctionSpan p.anchor.functionName.toList lines start stop ∧
        p.anchor.Leads lines start stop i k ∧ Inserts p s.source t.source i k ∧
        t.log = s.log ++ [⟨p, k + 1⟩] ∧
        t.current.inserted =
          shiftInserted (k + 1) (statementLines p.statement).length s.current.inserted) := by
  intro lines ran
  refine ⟨?_, fun e t w' => run_apply_error_iff hfree, fun handle t w' h => ?_⟩
  · rw [← exists_fits_iff]
    exact run_apply_ok_iff hfree
  · obtain ⟨hhandle, ht, hwrite, start, stop, i, k, hfits, hrest⟩ := run_apply_ok hfree h
    exact ⟨hhandle, ht, FileSystem.readText_of_write hwrite, start, stop, i, k, hfits.span,
      hfits.leads, hrest⟩

end

/-- Two preconditions with a blank line between them, before the call. -/
def guardedCall : Patch :=
  ⟨"assume(n > 1);\n\n  assume(n < 9);", { function := "harness", nextLine := "f(n);" }⟩

/-- The line feeds of the patch become the terminators of the harness. -/
theorem run_apply_exact_guardedCall :
    let store := PatchStore.ofText "harness.c" smallHarness .keepChanges
    store.inFlight = none ∧ ∃ t w', (store.apply guardedCall).run smallWorld = ((.ok 1, t), w') ∧
      Holds "harness.c" t.source w' ∧ t.log = [⟨guardedCall, 4⟩] ∧
      t.source = "void harness()\x7b\r\n  int n;\r\n  assume(n);\r\n  assume(n > 1);\r\n" ++
        "  assume(n < 9);\r\n  f(n);\r\n\x7d" := by
  intro store
  have hfree : store.inFlight = none := rfl
  obtain ⟨hgoes, -, hdone⟩ := run_apply_exact hfree guardedCall smallWorld
  have hspan : FunctionSpan guardedCall.anchor.functionName.toList
      (terminated store.source.toList) 0 5 := functionSpan?_eq_some_iff.1 (by decide +kernel)
  have hleads : guardedCall.anchor.Leads (terminated store.source.toList) 0 5 3 3 :=
    leads_of_anchorAt? (by decide +kernel)
  have hfresh : ∀ st ∈ statementLines guardedCall.statement,
      ¬ Repeats (terminated store.source.toList) 0 5 st :=
    duplicate?_eq_none_iff.1 (by decide +kernel)
  obtain ⟨l, hl, hmentions⟩ := hleads.mentioned
  obtain ⟨handle, t, w', hrun⟩ :=
    hgoes.2 ⟨⟨0, 5, hspan, hfresh, 3, l, by decide, by decide, hl, hmentions⟩,
      holds_smallHarness.exists_writable⟩
  obtain ⟨rfl, -, hholds, start, stop, i, k, hspan', hleads', hinserts, hlog, -⟩ :=
    hdone handle t w' hrun
  obtain ⟨rfl, rfl⟩ := hspan'.unique hspan
  obtain ⟨rfl, rfl⟩ := hleads'.unique hleads
  refine ⟨hfree, t, w', hrun, hholds, hlog, String.toList_inj.1 ?_⟩
  rw [hinserts.text.2]
  decide +kernel

end HarnessRepair
