import HarnessRepair.Patch.Store
import HarnessRepair.Proofs.Patch.Insertion

/-!
# How a snapshot grows

A change puts its patches into the lines of the text one after the other, and
joins the lines only then.  Joining and cutting again makes no difference, so
what one patch preserves, a change preserves, and any number of changes do.

## Main definitions

* `Snapshot.draft` — a snapshot with its text cut into lines.
* `Grown` — what some changes in a row make of a snapshot.

## Main results

* `draft_extend` — **a change is its patches, one by one, on the lines.**
* `addAll_induct` — what holds of the lines after a change.
* `Grown.patches`, `Grown.sublist` — the log holds the patches of the changes,
  and no change takes a character away.
-/

namespace HarnessRepair

open Text

/-! ### One patch on the lines -/

namespace Draft

variable {newline : List Char} {d e : Draft} {p : Patch} {ps : List Patch}

/-- **A patch adds one block, one entry of the log, and the numbers of its lines.** -/
theorem add_eq_ok (h : d.add newline p = .ok e) :
    ∃ k indent, k ≤ d.lines.length ∧ (∀ c ∈ indent, c = ' ' ∨ c = '\t') ∧
      insertPatch newline d.lines p = .ok (e.lines, k + 1) ∧
      e.lines = insertAt newline (blockOf indent newline (statementLines p.statement)) k d.lines ∧
      e.log = d.log ++ [⟨p, k + 1⟩] ∧
      e.inserted = shiftInserted (k + 1) (statementLines p.statement).length d.inserted := by
  rw [add] at h
  cases hp : insertPatch newline d.lines p with
  | error err =>
    rw [hp] at h
    cases h
  | ok r =>
    obtain ⟨out, line⟩ := r
    rw [hp] at h
    obtain rfl := Except.ok.inj h
    obtain ⟨k, indent, hk, hi, rfl, rfl⟩ := insertPatch_eq_ok hp
    exact ⟨k, indent, hk, hi, rfl, rfl, rfl, rfl⟩

theorem addAll_cons_eq_ok :
    d.addAll newline (p :: ps) = .ok e ↔
      ∃ m, d.add newline p = .ok m ∧ m.addAll newline ps = .ok e := by
  rw [addAll]
  cases d.add newline p with
  | error err =>
    constructor
    · intro h
      cases h
    · rintro ⟨m, hm, -⟩
      cases hm
  | ok m =>
    constructor
    · intro h
      exact ⟨m, rfl, h⟩
    · rintro ⟨m', hm, h⟩
      obtain rfl := Except.ok.inj hm
      exact h

/-- **What every patch preserves, some patches preserve.** -/
theorem addAll_induct {P : Draft → Prop}
    (hadd : ∀ d p e, P d → add newline d p = .ok e → P e)
    (h : d.addAll newline ps = .ok e) (hd : P d) : P e := by
  induction ps generalizing d with
  | nil =>
    obtain rfl := Except.ok.inj h
    exact hd
  | cons p ps ih =>
    obtain ⟨m, hm, hrest⟩ := addAll_cons_eq_ok.1 h
    exact ih hrest (hadd d p m hd hm)

theorem isCut_add (hn : IsNewline newline) (hd : IsCut d.lines) (h : d.add newline p = .ok e) :
    IsCut e.lines := by
  obtain ⟨k, indent, -, hi, -, hlines, -⟩ := add_eq_ok h
  rw [hlines]
  exact isCut_insertAt hn (fun l hl => (mem_blockOf hn hi hl).1) hd

/-- The patches behind some that fit are put into the lines that these leave. -/
theorem addAll_append {qs : List Patch} (h : d.addAll newline ps = .ok e) :
    d.addAll newline (ps ++ qs) = e.addAll newline qs := by
  induction ps generalizing d with
  | nil =>
    obtain rfl := Except.ok.inj h
    rfl
  | cons p ps ih =>
    obtain ⟨m, hm, hrest⟩ := addAll_cons_eq_ok.1 h
    rw [List.cons_append, addAll, hm]
    exact ih hrest

/-- The log grows by one entry for each patch. -/
theorem addAll_log (h : d.addAll newline ps = .ok e) :
    ∃ added, e.log = d.log ++ added ∧ added.map (·.patch) = ps := by
  induction ps generalizing d with
  | nil =>
    obtain rfl := Except.ok.inj h
    exact ⟨[], (List.append_nil _).symm, rfl⟩
  | cons p ps ih =>
    obtain ⟨m, hm, hrest⟩ := addAll_cons_eq_ok.1 h
    obtain ⟨k, indent, -, -, -, -, hlog, -⟩ := add_eq_ok hm
    obtain ⟨added, hadded, hpatches⟩ := ih hrest
    refine ⟨⟨p, k + 1⟩ :: added, ?_, ?_⟩
    · rw [hadded, hlog, List.append_assoc, List.singleton_append]
    · rw [List.map_cons, hpatches]

theorem addAll_patches (h : d.addAll newline ps = .ok e) :
    e.log.map (·.patch) = d.log.map (·.patch) ++ ps := by
  obtain ⟨added, hlog, hpatches⟩ := addAll_log h
  rw [hlog, List.map_append, hpatches]

theorem addAll_sublist (h : d.addAll newline ps = .ok e) :
    d.lines.flatten.Sublist e.lines.flatten := by
  refine addAll_induct (P := fun m => d.lines.flatten.Sublist m.lines.flatten) ?_ h
    (List.Sublist.refl _)
  intro m p m' hm hadd
  obtain ⟨k, indent, -, -, -, hlines, -⟩ := add_eq_ok hadd
  rw [hlines]
  exact hm.trans (sublist_insertAt _ _ _ k)

/-- The snapshot of some lines, put together. -/
def joined (d : Draft) : Snapshot := ⟨String.ofList d.lines.flatten, d.log, d.inserted⟩

end Draft

/-! ### One change -/

namespace Snapshot

variable {s t : Snapshot} {ps : List Patch}

/-- A snapshot with its text cut into lines. -/
def draft (s : Snapshot) : Draft := ⟨terminated s.source.toList, s.log, s.inserted⟩

theorem flatten_draft (s : Snapshot) : s.draft.lines.flatten = s.source.toList :=
  flatten_terminated _

theorem isCut_draft (s : Snapshot) : IsCut s.draft.lines := isCut_terminated _

/-- Lines that are cut as a text are cut again where they were joined. -/
theorem draft_joined {d : Draft} (h : IsCut d.lines) : d.joined.draft = d := by
  rw [draft, Draft.joined, String.toList_ofList, terminated_flatten h]

theorem extend_eq (s : Snapshot) (ps : List Patch) :
    s.extend ps = (s.draft.addAll (newlineOf s.source.toList) ps).map Draft.joined := by
  rw [extend, draft]
  cases Draft.addAll (newlineOf s.source.toList) ⟨terminated s.source.toList, s.log, s.inserted⟩
      ps with
  | error e => rfl
  | ok d => rfl

/-- **A change is its patches, one by one, on the lines.** -/
theorem draft_extend (h : s.extend ps = .ok t) :
    s.draft.addAll (newlineOf s.source.toList) ps = .ok t.draft := by
  rw [extend_eq] at h
  cases hd : s.draft.addAll (newlineOf s.source.toList) ps with
  | error e =>
    rw [hd] at h
    cases h
  | ok d =>
    rw [hd] at h
    obtain rfl := Except.ok.inj h
    have hcut : IsCut d.lines := by
      refine Draft.addAll_induct (P := fun m => IsCut m.lines) ?_ hd s.isCut_draft
      exact fun m p m' hm hadd => Draft.isCut_add (isNewline_newlineOf _) hm hadd
    rw [draft_joined hcut]

/-- A change without patches changes nothing. -/
theorem extend_nil (s : Snapshot) : s.extend [] = .ok s := by
  have h : s.extend [] = .ok ⟨String.ofList s.draft.lines.flatten, s.log, s.inserted⟩ := rfl
  rw [h, flatten_draft, String.ofList_toList]

/-- Where the new text is known, there is a new snapshot with it. -/
theorem exists_extend_of_source {text : String}
    (h : (s.extend ps).toOption.map (·.source) = some text) :
    ∃ next, s.extend ps = .ok next ∧ next.source = text := by
  cases hext : s.extend ps with
  | error e =>
    rw [hext] at h
    cases h
  | ok next =>
    rw [hext] at h
    exact ⟨next, rfl, Option.some.inj h⟩

theorem extend_patches (h : s.extend ps = .ok t) :
    t.log.map (·.patch) = s.log.map (·.patch) ++ ps :=
  Draft.addAll_patches (draft_extend h)

/-- A change only adds to the text. -/
theorem extend_sublist (h : s.extend ps = .ok t) :
    s.source.toList.Sublist t.source.toList := by
  have hsub := Draft.addAll_sublist (draft_extend h)
  rwa [flatten_draft, flatten_draft] at hsub

end Snapshot

/-! ### Some changes in a row -/

/-- What some changes, each a list of patches, make of the snapshot `start`. -/
inductive Grown (start : Snapshot) : List (List Patch) → Snapshot → Prop
  /-- Nothing has been changed. -/
  | start : Grown start [] start
  /-- One more change. -/
  | more {changes : List (List Patch)} {ps : List Patch} {s t : Snapshot} :
    Grown start changes s → s.extend ps = .ok t → Grown start (changes ++ [ps]) t

namespace Grown

variable {start s : Snapshot} {changes : List (List Patch)}

/-- The log holds the patches of the changes, in order. -/
theorem patches (h : Grown start changes s) :
    s.log.map (·.patch) = start.log.map (·.patch) ++ changes.flatten := by
  induction h with
  | start => rw [List.flatten_nil, List.append_nil]
  | more _ hext ih =>
    rw [Snapshot.extend_patches hext, ih, List.append_assoc, List.flatten_append,
      List.flatten_singleton]

/-- No change takes a character away. -/
theorem sublist (h : Grown start changes s) : start.source.toList.Sublist s.source.toList := by
  induction h with
  | start => exact List.Sublist.refl _
  | more _ hext ih => exact ih.trans (Snapshot.extend_sublist hext)

/-- Changes without a patch change nothing. -/
theorem idle (hnone : changes.flatten = []) : Grown start changes start := by
  induction changes using List.reverseRecOn with
  | nil => exact .start
  | append_singleton before ps ih =>
    rw [List.flatten_append, List.flatten_singleton, List.append_eq_nil_iff] at hnone
    obtain ⟨hbefore, rfl⟩ := hnone
    exact .more (ih hbefore) (Snapshot.extend_nil start)

/-- Without a patch nothing has changed. -/
theorem eq_start (h : Grown start changes s) (hnone : changes.flatten = []) : s = start := by
  induction h with
  | start => rfl
  | more _ hext ih =>
    rw [List.flatten_append, List.flatten_singleton, List.append_eq_nil_iff] at hnone
    obtain ⟨hbefore, rfl⟩ := hnone
    rw [Snapshot.extend_nil] at hext
    rw [← Except.ok.inj hext]
    exact ih hbefore

end Grown

end HarnessRepair
