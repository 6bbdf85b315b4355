import HarnessRepair.Proofs.Patch.Growth

/-!
# Replaying the log

A change cuts the text once and asks once how new lines end.  Inserting its
patches one at a time cuts the text and asks anew for each.  The lines are the
same either way, and so is the answer, unless the text has a carriage return at
its very end.

## Main definitions

* `insertInto` — one patch in a text.
* `replay` — some patches, one at a time.

## Main results

* `replay_extend` — a change is the replay of its patches.
* `Grown.replay` — **the text is the replay of all patches since the start.**
-/

namespace HarnessRepair

open Text

/-- The text with a patch in it. -/
def insertInto (source : String) (p : Patch) : Except PatchError String :=
  match insertPatch (newlineOf source.toList) (terminated source.toList) p with
  | .error e => .error e
  | .ok (lines, _) => .ok (String.ofList lines.flatten)

/-- The text with some patches inserted one at a time. -/
def replay (source : String) : List Patch → Except PatchError String
  | [] => .ok source
  | p :: ps =>
    match insertInto source p with
    | .error e => .error e
    | .ok source => replay source ps

/-- A replay may stop in between. -/
theorem replay_append {source middle : String} {ps qs : List Patch}
    (h : replay source ps = .ok middle) : replay source (ps ++ qs) = replay middle qs := by
  induction ps generalizing source with
  | nil =>
    obtain rfl := Except.ok.inj h
    rfl
  | cons p ps ih =>
    rw [replay] at h
    rw [List.cons_append, replay]
    cases hp : insertInto source p with
    | error e =>
      rw [hp] at h
      cases h
    | ok next =>
      rw [hp] at h
      exact ih h

/-! ### Lines that ask for one terminator -/

/-- The lines of a text that has no carriage return at its end and asks for `newline`. -/
structure Steady (newline : List Char) (ls : List Line) : Prop where
  cut : IsCut ls
  returnFree : ReturnFree ls
  newline_eq : newlineOf ls.flatten = newline

/-- The lines stay so under a patch. -/
theorem Steady.add {newline : List Char} {d e : Draft} {p : Patch} (hd : Steady newline d.lines)
    (h : d.add newline p = .ok e) : Steady newline e.lines := by
  obtain ⟨k, indent, -, hi, -, hlines, -⟩ := Draft.add_eq_ok h
  have hn : IsNewline newline := hd.newline_eq ▸ isNewline_newlineOf _
  have hclosed : ∀ l ∈ blockOf indent newline (statementLines p.statement), IsClosed l :=
    fun l hl => (mem_blockOf hn hi hl).1
  rw [hlines]
  exact
    { cut := isCut_insertAt hn hclosed hd.cut
      returnFree := returnFree_insertAt hn hclosed hd.cut hd.returnFree
      newline_eq := newlineOf_insertAt hi hd.newline_eq.symm hd.cut hd.returnFree }

theorem Steady.addAll {newline : List Char} {d e : Draft} {ps : List Patch}
    (hd : Steady newline d.lines) (h : d.addAll newline ps = .ok e) : Steady newline e.lines :=
  Draft.addAll_induct (P := fun m => Steady newline m.lines) (fun _ _ _ hm hadd => hm.add hadd) h hd

/-- On such lines, patches one by one are patches inserted one at a time. -/
theorem replay_addAll {newline : List Char} {d e : Draft} {ps : List Patch}
    (hd : Steady newline d.lines) (h : d.addAll newline ps = .ok e) :
    replay (String.ofList d.lines.flatten) ps = .ok (String.ofList e.lines.flatten) := by
  induction ps generalizing d with
  | nil =>
    obtain rfl := Except.ok.inj h
    rfl
  | cons p ps ih =>
    obtain ⟨m, hm, hrest⟩ := Draft.addAll_cons_eq_ok.1 h
    obtain ⟨k, indent, -, -, hinsert, -⟩ := Draft.add_eq_ok hm
    have hone : insertInto (String.ofList d.lines.flatten) p =
        .ok (String.ofList m.lines.flatten) := by
      rw [insertInto, String.toList_ofList, hd.newline_eq, terminated_flatten hd.cut, hinsert]
    rw [replay, hone]
    exact ih (hd.add hm) hrest

/-! ### Changes -/

theorem Snapshot.steady_draft {s : Snapshot} (h : ReturnFree s.draft.lines) :
    Steady (newlineOf s.source.toList) s.draft.lines where
  cut := s.isCut_draft
  returnFree := h
  newline_eq := by rw [Snapshot.flatten_draft]

/-- **A change is the replay of its patches.** -/
theorem replay_extend {s t : Snapshot} {ps : List Patch} (hs : ReturnFree s.draft.lines)
    (h : s.extend ps = .ok t) : replay s.source ps = .ok t.source := by
  have hreplay := replay_addAll (Snapshot.steady_draft hs) (Snapshot.draft_extend h)
  rwa [Snapshot.flatten_draft, Snapshot.flatten_draft, String.ofList_toList,
    String.ofList_toList] at hreplay

theorem returnFree_extend {s t : Snapshot} {ps : List Patch} (hs : ReturnFree s.draft.lines)
    (h : s.extend ps = .ok t) : ReturnFree t.draft.lines :=
  ((Snapshot.steady_draft hs).addAll (Snapshot.draft_extend h)).returnFree

/-- **The text is the replay of all patches since the start.** -/
theorem Grown.replay {start s : Snapshot} {changes : List (List Patch)}
    (h : Grown start changes s) (hstart : ReturnFree start.draft.lines) :
    ReturnFree s.draft.lines ∧
      HarnessRepair.replay start.source changes.flatten = .ok s.source := by
  induction h with
  | start => exact ⟨hstart, rfl⟩
  | more _ hext ih =>
    obtain ⟨hfree, hreplay⟩ := ih
    refine ⟨returnFree_extend hfree hext, ?_⟩
    rw [List.flatten_append, List.flatten_singleton, replay_append hreplay]
    exact replay_extend hfree hext

end HarnessRepair
