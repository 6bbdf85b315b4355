import HarnessRepair.Proofs.Patch.Growth
import HarnessRepair.Proofs.Patch.Operations

/-!
# Whether a patch lands in the body of its function

The anchor of a patch is looked for in all lines from the definition of its function
to the line that closes it, both included.  So the place that an anchor leads to is not
always between the braces: it is exactly if a brace has been opened before it, and the
anchor line is not the closing one with the statements going behind it.

Braces are counted line by line, as finding the end of a function does.

## Main definitions

* `bracesBefore` — the braces in the lines of a function so far.
* `InBody` — between the brace that opens a function and the one that closes it.
* `Anchor.Leads` — the anchor line, and the line before which the statements go.
* `OpensBefore`, `ClosesWith` — where the body starts and ends.

## Main results

* `functionSpan?_spec` — the lines of a function end where its braces close.
* `inBody_iff` — **when the place of an anchor lies in the body.**
* `run_apply_inBody` — so it is for every patch that is applied.
* `not_inBody_closingBrace` — an anchor that leads behind the function.
-/

namespace HarnessRepair

open Text

/-! ### Counting braces -/

theorem BraceCount.opened_stepLine (b : BraceCount) (l : Line) :
    (b.stepLine l).opened = (b.opened || l.contains '\x7b') := by
  rw [stepLine]
  induction l generalizing b with
  | nil => simp
  | cons c l ih =>
    rw [List.foldl_cons, ih, step]
    by_cases hopen : c = '\x7b'
    · simp [hopen]
    · by_cases hclose : c = '\x7d' <;> simp [hopen, hclose, Ne.symm hopen]

theorem BraceCount.opened_foldl (b : BraceCount) (ls : List Line) :
    (ls.foldl stepLine b).opened = (b.opened || ls.any (·.contains '\x7b')) := by
  induction ls generalizing b with
  | nil => simp
  | cons l ls ih => rw [List.foldl_cons, ih, opened_stepLine, List.any_cons, Bool.or_assoc]

/-! ### The end of a function -/

theorem spanLength_le (b : BraceCount) (ls : List Line) : spanLength b ls ≤ ls.length := by
  induction ls generalizing b with
  | nil => exact Nat.le_refl 0
  | cons l ls ih =>
    rw [spanLength, List.length_cons]
    split
    · exact Nat.le_add_left 1 _
    · exact Nat.succ_le_succ (ih _)

theorem spanLength_pos (b : BraceCount) {ls : List Line} (h : ls ≠ []) : 0 < spanLength b ls := by
  cases ls with
  | nil => exact absurd rfl h
  | cons l ls =>
    rw [spanLength]
    split
    · exact Nat.one_pos
    · exact Nat.succ_pos _

/-- Before its last line a function has not been closed. -/
theorem not_isClosed_of_lt_spanLength {b : BraceCount} {ls : List Line} {j : Nat} (hpos : 0 < j)
    (hj : j < spanLength b ls) : ((ls.take j).foldl BraceCount.stepLine b).isClosed = false := by
  induction ls generalizing b j with
  | nil => exact absurd hj (Nat.not_lt_zero j)
  | cons l ls ih =>
    obtain ⟨j, rfl⟩ := Nat.exists_eq_add_of_le' hpos
    rw [spanLength] at hj
    rw [List.take_succ_cons, List.foldl_cons]
    split at hj
    · omega
    · next hopen =>
      by_cases hzero : j = 0
      · rw [hzero, List.take_zero]
        exact Bool.eq_false_iff.2 hopen
      · exact ih (Nat.pos_of_ne_zero hzero) (by omega)

/-- The braces in the lines from `start` up to the line `k`, which is not counted. -/
def bracesBefore (lines : List Line) (start k : Nat) : BraceCount :=
  ((lines.drop start).take (k - start)).foldl BraceCount.stepLine {}

/-- **The lines of a function** are not none, and up to the last its braces stay open. -/
theorem functionSpan?_spec {lines : List Line} {name : List Char} {start stop : Nat}
    (h : functionSpan? lines name = some (start, stop)) :
    start < stop ∧ stop ≤ lines.length ∧
      ∀ j < stop, (bracesBefore lines start j).isClosed = false := by
  have hlt := functionSpan?_lt h
  rw [functionSpan?, Option.map_eq_some_iff] at h
  obtain ⟨i, -, heq⟩ := h
  obtain rfl : i = start := congrArg Prod.fst heq
  obtain rfl := congrArg Prod.snd heq
  have hne : lines.drop i ≠ [] := by
    rw [Ne, List.drop_eq_nil_iff]
    omega
  have hpos := spanLength_pos {} hne
  have hle := spanLength_le {} (lines.drop i)
  rw [List.length_drop] at hle
  refine ⟨by omega, by omega, fun j hj => ?_⟩
  rw [bracesBefore]
  by_cases hzero : j - i = 0
  · rw [hzero, List.take_zero]
    rfl
  · exact not_isClosed_of_lt_spanLength (Nat.pos_of_ne_zero hzero) (by omega)

/-- A line of a span stands where it stands in the text. -/
theorem getElem?_span (lines : List Line) {start stop j : Nat} (hge : start ≤ j)
    (hlt : j < stop) : ((lines.drop start).take (stop - start))[j - start]? = lines[j]? := by
  rw [List.getElem?_take_of_lt (by omega), List.getElem?_drop, Nat.add_sub_cancel' hge]

theorem mem_span_iff {lines : List Line} {start stop : Nat} {l : Line} :
    l ∈ (lines.drop start).take (stop - start) ↔
      ∃ j, start ≤ j ∧ j < stop ∧ lines[j]? = some l := by
  constructor
  · intro hl
    obtain ⟨m, hm⟩ := List.mem_iff_getElem?.1 hl
    have hlt : m < stop - start := by
      have hlen := (List.getElem?_eq_some_iff.1 hm).1
      rw [List.length_take] at hlen
      omega
    rw [List.getElem?_take_of_lt hlt, List.getElem?_drop] at hm
    exact ⟨start + m, by omega, by omega, hm⟩
  · rintro ⟨j, hge, hlt, hj⟩
    exact List.mem_of_getElem? ((getElem?_span lines hge hlt).trans hj)

/-! ### The body -/

/-- What is put before the line `k` lies in the body of the function that is defined in
the line `start`: a brace has been opened before it, and no line before it has closed all
that were. -/
structure InBody (lines : List Line) (start k : Nat) : Prop where
  opened : (bracesBefore lines start k).opened = true
  unclosed : ∀ j ≤ k, (bracesBefore lines start j).isClosed = false

/-- A brace is opened in a line of the function before the line `k`. -/
def OpensBefore (lines : List Line) (start k : Nat) : Prop :=
  ∃ j l, start ≤ j ∧ j < k ∧ lines[j]? = some l ∧ '\x7b' ∈ l

/-- Behind the line `i`, all braces of the function are closed. -/
def ClosesWith (lines : List Line) (start i : Nat) : Prop :=
  (bracesBefore lines start (i + 1)).isClosed = true

instance (lines : List Line) (start i : Nat) : Decidable (ClosesWith lines start i) :=
  inferInstanceAs (Decidable (_ = true))

theorem opened_bracesBefore_iff {lines : List Line} {start k : Nat} :
    (bracesBefore lines start k).opened = true ↔ OpensBefore lines start k := by
  rw [bracesBefore, BraceCount.opened_foldl, Bool.false_or, List.any_eq_true]
  constructor
  · rintro ⟨l, hl, hbrace⟩
    obtain ⟨j, hge, hlt, hj⟩ := mem_span_iff.1 hl
    exact ⟨j, l, hge, hlt, hj, List.contains_iff_mem.1 hbrace⟩
  · rintro ⟨j, l, hge, hlt, hj, hbrace⟩
    exact ⟨l, mem_span_iff.2 ⟨j, hge, hlt, hj⟩, List.contains_iff_mem.2 hbrace⟩

/-! ### Anchors -/

/-- A line holds a text when blanks do not count; a blank text is in no line. -/
def Mentions (text : String) (l : Line) : Prop :=
  squash text.toList ≠ [] ∧ squash text.toList <:+: squash l

/-- The first of the lines from `start` to `stop` that holds a text. -/
structure FirstMention (text : String) (lines : List Line) (start stop i : Nat) : Prop where
  within : start ≤ i ∧ i < stop
  mentioned : ∃ l, lines[i]? = some l ∧ Mentions text l
  first : ∀ j l, start ≤ j → j < i → lines[j]? = some l → ¬ Mentions text l

/-- An anchor leads to its line `i` and to the place before the line `k`: behind the line
that holds the previous line or, if there is none, before the one that holds the next. -/
inductive Anchor.Leads (a : Anchor) (lines : List Line) (start stop : Nat) : Nat → Nat → Prop
  | behind {i : Nat} : FirstMention a.previousLine lines start stop i →
      Leads a lines start stop i (i + 1)
  | before {i : Nat} :
      (∀ j l, start ≤ j → j < stop → lines[j]? = some l → ¬ Mentions a.previousLine l) →
      FirstMention a.nextLine lines start stop i → Leads a lines start stop i i

section

variable {lines : List Line} {start stop i k : Nat} {text : String}

theorem occurs_squash_iff {l : Line} (h : squash text.toList ≠ []) :
    occurs (squash text.toList) (squash l) = true ↔ Mentions text l := by
  rw [occurs_eq_true_iff]
  exact ⟨fun hin => ⟨h, hin⟩, fun hm => hm.2⟩

/-- No line is found where none holds the text. -/
theorem not_mentions_of_findInSpan?
    (h : findInSpan? (squash text.toList) start ((lines.drop start).take (stop - start)) = none)
    {j : Nat} {l : Line} (hge : start ≤ j) (hlt : j < stop) (hj : lines[j]? = some l) :
    ¬ Mentions text l := by
  intro hm
  rw [findInSpan?, if_neg (by simpa using hm.1), Option.map_eq_none_iff,
    List.findIdx?_eq_none_iff] at h
  have hmem : l ∈ (lines.drop start).take (stop - start) := mem_span_iff.2 ⟨j, hge, hlt, hj⟩
  exact Bool.eq_false_iff.1 (h l hmem) ((occurs_squash_iff hm.1).2 hm)

/-- The line that is found is the first one that holds the text. -/
theorem firstMention_of_findInSpan?
    (h : findInSpan? (squash text.toList) start ((lines.drop start).take (stop - start)) = some i) :
    FirstMention text lines start stop i := by
  rw [findInSpan?] at h
  by_cases hempty : (squash text.toList).isEmpty = true
  · rw [if_pos hempty] at h
    cases h
  · rw [if_neg hempty, Option.map_eq_some_iff] at h
    have hne : squash text.toList ≠ [] := by simpa using hempty
    obtain ⟨m, hm, rfl⟩ := h
    obtain ⟨hlt, hfound, hfirst⟩ := List.findIdx?_eq_some_iff_getElem.1 hm
    have hlen := hlt
    rw [List.length_take] at hlen
    have hwithin : start ≤ start + m ∧ start + m < stop := by omega
    refine ⟨hwithin, ⟨_, ?_, (occurs_squash_iff hne).1 hfound⟩, ?_⟩
    · rw [← getElem?_span lines hwithin.1 hwithin.2, Nat.add_sub_cancel_left]
      exact List.getElem?_eq_getElem hlt
    · intro j l hge hj hl hmention
      refine hfirst (j - start) (by omega) ?_
      have hspan := (getElem?_span lines hge (hj.trans hwithin.2)).trans hl
      rw [(List.getElem?_eq_some_iff.1 hspan).2]
      exact (occurs_squash_iff hne).2 hmention

/-- Looking for an anchor is being led to its place. -/
theorem leads_of_anchorAt? {a : Anchor}
    (h : anchorAt? a start ((lines.drop start).take (stop - start)) = some (i, k)) :
    a.Leads lines start stop i k := by
  rw [anchorAt?] at h
  cases hprevious : findInSpan? (squash a.previousLine.toList) start
      ((lines.drop start).take (stop - start)) with
  | some j =>
    rw [hprevious] at h
    obtain ⟨rfl, rfl⟩ := Prod.mk.inj (Option.some.inj h)
    exact .behind (firstMention_of_findInSpan? hprevious)
  | none =>
    rw [hprevious] at h
    obtain ⟨j, hnext, heq⟩ := Option.map_eq_some_iff.1 h
    obtain ⟨rfl, rfl⟩ := Prod.mk.inj heq
    exact .before (fun _ _ => not_mentions_of_findInSpan? hprevious)
      (firstMention_of_findInSpan? hnext)

/-- Where a line holds the previous line, it decides. -/
theorem Anchor.Leads.eq_of_firstMention {a : Anchor} {j : Nat}
    (h : a.Leads lines start stop i k) (hj : FirstMention a.previousLine lines start stop j) :
    i = j ∧ k = j + 1 := by
  obtain ⟨⟨hge, hlt⟩, ⟨l, hl, hmention⟩, hfirst⟩ := hj
  cases h with
  | behind hi =>
    obtain ⟨m, hm, hmention'⟩ := hi.mentioned
    rcases Nat.lt_trichotomy i j with hij | hij | hij
    · exact absurd hmention' (hfirst i m hi.within.1 hij hm)
    · exact ⟨hij, by rw [hij]⟩
    · exact absurd hmention (hi.first j l hge hij hl)
  | before hnone => exact absurd hmention (hnone j l hge hlt hl)

/-- **When the place of an anchor lies in the body:** a brace has been opened before it, and
the anchor line, if the statements go behind it, is not the closing one. -/
theorem inBody_iff {name : List Char} {a : Anchor}
    (hspan : functionSpan? lines name = some (start, stop)) (h : a.Leads lines start stop i k) :
    InBody lines start k ↔
      OpensBefore lines start k ∧ (k = i + 1 → ¬ ClosesWith lines start i) := by
  obtain ⟨-, -, hopen⟩ := functionSpan?_spec hspan
  constructor
  · rintro ⟨hopened, hunclosed⟩
    refine ⟨opened_bracesBefore_iff.1 hopened, ?_⟩
    rintro rfl hcloses
    rw [ClosesWith, hunclosed _ (Nat.le_refl _)] at hcloses
    cases hcloses
  · rintro ⟨hopens, hcloses⟩
    refine ⟨opened_bracesBefore_iff.2 hopens, fun j hj => ?_⟩
    cases h with
    | behind hfirst =>
      -- only behind its last line a function can be closed
      rcases Nat.lt_or_eq_of_le hj with hlt | rfl
      · exact hopen j (by have := hfirst.within; omega)
      · exact Bool.eq_false_iff.2 (hcloses rfl)
    | before _ hfirst => exact hopen j (by have := hfirst.within; omega)

end

/-! ### Patches that are applied -/

/-- **A patch that is applied is one block of lines in the text, and the block lies in the
body of its function exactly if a brace is opened before it and it does not stand behind
the closing line.** -/
theorem run_apply_inBody {ε : Type} {s t : PatchStore} {p : Patch} {w w' : World ε}
    {handle : Nat} (h : (s.apply p).run w = ((.ok handle, t), w')) :
    let newline := newlineOf s.source.toList
    let lines := terminated s.source.toList
    ∃ start stop i k, functionSpan? lines p.anchor.functionName.toList = some (start, stop) ∧
      p.anchor.Leads lines start stop i k ∧
      terminated t.source.toList = insertAt newline
        (blockOf (indentOf (lines.getD i [])) newline (statementLines p.statement)) k lines ∧
      (InBody lines start k ↔
        OpensBefore lines start k ∧ (k = i + 1 → ¬ ClosesWith lines start i)) := by
  intro newline lines
  rcases s.run_applyAll_cases [p] w with ⟨next, u, hnext, hrun, -⟩ | ⟨e, hrun⟩
  · rw [PatchStore.apply, hrun] at h
    obtain rfl : s.changed next = t := congrArg (·.1.2) h
    obtain ⟨d, hadd, hrest⟩ := Draft.addAll_cons_eq_ok.1 (Snapshot.draft_extend hnext)
    obtain rfl := Except.ok.inj hrest
    obtain ⟨_, _, -, -, hinsert, -⟩ := Draft.add_eq_ok hadd
    obtain ⟨start, stop, i, k, hspan, hanchor, -, hlines⟩ := insertPatch_eq_ok_placed hinsert
    have hleads := leads_of_anchorAt? hanchor
    exact ⟨start, stop, i, k, hspan, hleads, hlines, inBody_iff hspan hleads⟩
  · rw [PatchStore.apply, hrun] at h
    cases h

/-! ### A function and two anchors -/

/-- A harness with its braces on lines of their own. -/
def plainHarness : String :=
  "void harness()\n\x7b\n    size_t len;\n    parse_dns(len);\n\x7d\n"

/-- A world with that harness and nothing else. -/
def plainWorld : World Unit where
  files := FileSystem.put {} ["harness.c"] (.file (.text plainHarness))
  events := []
  outside := ()

/-- The store of that harness. -/
def plainStore : PatchStore := .ofText "harness.c" plainHarness .keepChanges

/-- That harness with a precondition at its start. -/
def guardedHarness : String :=
  "void harness()\n\x7b\n    size_t len;\n    __CPROVER_assume(len > 0);\n" ++
    "    parse_dns(len);\n\x7d\n"

/-- A precondition behind the first line that holds a text. -/
def patchBehind (previousLine : String) : Patch :=
  ⟨"__CPROVER_assume(len > 0);", { function := "harness", previousLine := previousLine }⟩

theorem run_apply_plainStore (p : Patch) (text : String)
    (h : (plainStore.current.extend [p]).toOption.map (·.source) = some text) :
    ∃ t w', (plainStore.apply p).run plainWorld = ((.ok 1, t), w') ∧ t.source = text := by
  obtain ⟨next, hext, htext⟩ := Snapshot.exists_extend_of_source h
  have hholds : Holds plainStore.path plainHarness plainWorld := rfl
  obtain ⟨w', hrun, -, -⟩ := PatchStore.run_applyAll rfl hext hholds
  exact ⟨_, w', hrun, htext⟩

theorem run_apply_inBody_plainStore :
    ∃ t w', (plainStore.apply (patchBehind "size_t len;")).run plainWorld = ((.ok 1, t), w') ∧
      t.source = guardedHarness ∧
      functionSpan? (terminated plainHarness.toList) "harness".toList = some (0, 5) ∧
      InBody (terminated plainHarness.toList) 0 3 := by
  obtain ⟨t, w', hrun, htext⟩ :=
    run_apply_plainStore (patchBehind "size_t len;") guardedHarness (by decide +kernel)
  obtain ⟨start, stop, i, k, hspan, hleads, -, hbody⟩ := run_apply_inBody hrun
  have hplain : functionSpan? (terminated plainHarness.toList) "harness".toList = some (0, 5) := by
    decide +kernel
  obtain ⟨rfl, rfl⟩ := Prod.mk.inj (Option.some.inj (hspan.symm.trans hplain))
  have hfirst : FirstMention "size_t len;" (terminated plainHarness.toList) 0 5 2 :=
    firstMention_of_findInSpan? (by decide +kernel)
  obtain ⟨rfl, rfl⟩ := hleads.eq_of_firstMention hfirst
  refine ⟨t, w', hrun, htext, hplain, hbody.2 ⟨?_, fun _ => by decide +kernel⟩⟩
  exact ⟨1, _, by decide, by decide, rfl, by decide⟩

/-- A closing brace as the previous line leads behind the function. -/
theorem not_inBody_closingBrace :
    ∃ t w', (plainStore.apply (patchBehind "\x7d")).run plainWorld = ((.ok 1, t), w') ∧
      t.source = plainHarness ++ "__CPROVER_assume(len > 0);\n" ∧
      functionSpan? (terminated plainHarness.toList) "harness".toList = some (0, 5) ∧
      (terminated plainHarness.toList).length = 5 ∧
      ¬ InBody (terminated plainHarness.toList) 0 5 := by
  obtain ⟨t, w', hrun, htext⟩ :=
    run_apply_plainStore (patchBehind "\x7d") (plainHarness ++ "__CPROVER_assume(len > 0);\n")
      (by decide +kernel)
  refine ⟨t, w', hrun, htext, by decide +kernel, by decide +kernel, fun hbody => ?_⟩
  exact absurd (hbody.unclosed 5 (Nat.le_refl 5)) (by decide +kernel)

end HarnessRepair
