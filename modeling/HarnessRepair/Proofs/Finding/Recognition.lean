import HarnessRepair.Proofs.Finding.Complaint
import HarnessRepair.Proofs.Patch.Reached
import HarnessRepair.Session.Judgement

/-!
# Findings are recognised under patches

A finding in the unpatched harness is seen at another line once patches stand above
it.  Bringing the report back gives the very finding, identity and message included,
and blames no statement for it.  A finding on an inserted line is not brought back,
and the statement that it lies on is blamed.

Both are said of a finding anywhere in a report: what the others come to does not
depend on it.

## Main definitions

* `ComesBackAs`, `Blames` — what becomes of one finding of a report.
* `Recognises` — what a store does to all of them.

## Main results

* `useStore_recognises` — **every store in use recognises the findings of its harness.**
-/

namespace HarnessRepair

open Text

/-! ### One finding of a report -/

section

variable (harnessFile : String) (s : PatchStore)

/-- Wherever a finding `g` stands in a report, the finding `f` stands in the report
that is brought back, and no statement is blamed for it. -/
def ComesBackAs (g f : Finding) : Prop :=
  ∀ before after,
    rebased harnessFile s (before ++ g :: after) =
        rebased harnessFile s before ++ f :: rebased harnessFile s after ∧
      introduced harnessFile s (before ++ g :: after) = introduced harnessFile s (before ++ after)

/-- Wherever a finding stands in a report, it is missing in the report that is brought
back, and a statement is blamed. -/
def Blames (g : Finding) (statement : String) : Prop :=
  ∀ before after,
    rebased harnessFile s (before ++ g :: after) =
        rebased harnessFile s before ++ rebased harnessFile s after ∧
      statement ∈ introduced harnessFile s (before ++ g :: after)

/-- A store whose text without patches is `base` tells the findings of that text from
those on inserted lines. -/
structure Recognises (base : String) : Prop where
  /-- What is said of a line of the base text comes back as said of that line. -/
  known : ∀ (c : Complaint) (l : Location), c.Countable → l.isIn harnessFile = true →
    (∃ old, lineAt? (terminated base.toList) l.line = some old) →
      ∃ line, s.currentLine l.line = .ok line ∧
        ComesBackAs harnessFile s (c.madeAt { l with line := line }) (c.madeAt l)
  /-- Findings in other files come back as they are. -/
  elsewhere : ∀ f : Finding, f.location.isIn harnessFile = false → ComesBackAs harnessFile s f f
  /-- Any other line of the harness holds a statement, and that one is blamed. -/
  added : ∀ (f : Finding) (l : Line), f.location.isIn harnessFile = true →
    lineAt? (terminated s.source.toList) f.location.line = some l →
    (∀ c old, lineAt? (terminated base.toList) c = some old →
        s.currentLine c ≠ .ok f.location.line) →
      ∃ a ∈ s.log, ∃ statement ∈ statementLines a.patch.statement,
        isBlankText (String.ofList statement) = false ∧
          Blames harnessFile s f (String.ofList statement)

end

section

variable {harnessFile : String} {s : PatchStore} {f g : Finding}

/-- Collecting texts keeps those that are there and takes up every new one. -/
theorem mem_foldl_addOnce {ss texts : List String} {t : String} :
    t ∈ ss.foldl addOnce texts ↔ t ∈ texts ∨ t ∈ ss := by
  induction ss generalizing texts with
  | nil => simp
  | cons s ss ih =>
    have hone : t ∈ addOnce texts s ↔ t ∈ texts ∨ t = s := by
      rw [addOnce]
      split
      · next hmem =>
        rw [List.contains_iff_mem] at hmem
        exact ⟨Or.inl, fun h => h.elim id fun heq => heq ▸ hmem⟩
      · rw [List.mem_append, List.mem_singleton]
    rw [List.foldl_cons, ih, hone, List.mem_cons, or_assoc]

theorem comesBackAs_of_rebase? (hback : rebase? harnessFile s g = some f)
    (hunder : statementUnder? harnessFile s g = none) : ComesBackAs harnessFile s g f := by
  intro before after
  constructor
  · rw [rebased, List.filterMap_append, List.filterMap_cons_some hback]
    rfl
  · rw [introduced, introduced, List.filterMap_append, List.filterMap_cons_none hunder,
      List.filterMap_append]

theorem blames_of_rebase? {statement : String} (hback : rebase? harnessFile s g = none)
    (hunder : statementUnder? harnessFile s g = some statement) :
    Blames harnessFile s g statement := by
  intro before after
  constructor
  · rw [rebased, List.filterMap_append, List.filterMap_cons_none hback]
    rfl
  · rw [introduced, mem_foldl_addOnce]
    refine Or.inr (List.mem_filterMap.2 ⟨g, ?_, hunder⟩)
    exact List.mem_append_right _ List.mem_cons_self

/-! ### By where the finding lies -/

/-- In another file. -/
theorem comesBackAs_self (h : f.location.isIn harnessFile = false) :
    ComesBackAs harnessFile s f f := by
  apply comesBackAs_of_rebase?
  · rw [rebase?, if_neg (by rw [h]; exact Bool.false_ne_true)]
  · rw [statementUnder?, h, Bool.false_and, if_neg Bool.false_ne_true]

/-- On a line that the store can follow back. -/
theorem comesBackAs_madeAt {c : Complaint} (hc : c.Countable) {l : Location}
    (hin : l.isIn harnessFile = true) {line : Nat} (hback : s.canonicalLine? line = some l.line) :
    ComesBackAs harnessFile s (c.madeAt { l with line := line }) (c.madeAt l) := by
  have hplace : (c.madeAt { l with line := line }).location = { l with line := line } :=
    c.location_madeAt _
  have hinside : (c.madeAt { l with line := line }).location.isIn harnessFile = true := by
    rw [hplace]
    exact hin
  apply comesBackAs_of_rebase?
  · rw [rebase?, if_pos hinside, hplace, hback]
    dsimp only
    split
    · next heq => rw [← heq]
    · rw [Complaint.relocated_madeAt hc]
  · rw [statementUnder?, hplace, hback, Option.isNone_some, Bool.and_false,
      if_neg Bool.false_ne_true]

/-- On a line that the store has put in. -/
theorem blames_of_inserted {statement : String} (hin : f.location.isIn harnessFile = true)
    (hback : s.canonicalLine? f.location.line = none)
    (hstatement : s.insertedStatementAt? f.location.line = some statement) :
    Blames harnessFile s f statement := by
  apply blames_of_rebase?
  · rw [rebase?, if_pos hin, hback]
  · rw [statementUnder?, hin, hback, Option.isNone_none, Bool.and_self, if_pos rfl, hstatement,
      Option.getD_some]

/-- Statement lines are not blank. -/
theorem isBlankText_of_mem_statementLines {statement : String} {l : List Char}
    (h : l ∈ statementLines statement) : isBlankText (String.ofList l) = false := by
  obtain ⟨c, hhead⟩ := Option.ne_none_iff_exists'.1
    (mt List.head?_eq_none_iff.1 (mem_statementLines h).1)
  have hblank : isBlank c = false := (isTrimmed_of_mem_statementLines h).1 c hhead
  rw [isBlankText, String.toList_ofList, List.all_eq_false]
  exact ⟨c, List.mem_of_head? hhead, by rw [hblank]; exact Bool.false_ne_true⟩

/-! ### Stores in use -/

/-- A store with the right line map recognises findings. -/
theorem LinesMapped.recognises {base : String} (h : LinesMapped base s) :
    Recognises harnessFile s base where
  known := by
    rintro c l hc hin ⟨old, hold⟩
    obtain ⟨line, hline, hback, -⟩ := h.carried l.line old hold
    exact ⟨line, hline, comesBackAs_madeAt hc hin hback⟩
  elsewhere := fun f hout => comesBackAs_self hout
  added := by
    intro f l hin hl hnone
    obtain ⟨hback, hstatement, a, ha, hmem⟩ := h.added _ l hl hnone
    exact ⟨a, ha, trimChars l, hmem, isBlankText_of_mem_statementLines hmem,
      blames_of_inserted hin hback hstatement⟩

variable {ε : Type} {path text : String} {w : World ε}

/-- **Every store in use recognises the findings of its harness**, whichever patches are
in force, as long as words can number the lines of its text. -/
theorem useStore_recognises (h : Holds path text w) (policy : RestorePolicy)
    (actions : List StoreAction) (harnessFile : String) :
    ∃ outcomes b w', (useStore path policy actions).run w = (.ok (outcomes, b), w') ∧
      ((terminated b.store.source.toList).length < wordLimit →
        Recognises harnessFile b.store
          ((Account.recordAll {} actions outcomes).current.base text)) := by
  obtain ⟨outcomes, b, w', hrun, hmapped⟩ := useStore_linesMapped h policy actions
  exact ⟨outcomes, b, w', hrun, fun hword => (hmapped hword).recognises⟩

theorem useStore_recognises_smallHistory :
    Holds "harness.c" smallHarness smallWorld ∧
      ∃ outcomes b w', (useStore "harness.c" .keepChanges smallHistory).run smallWorld =
          (.ok (outcomes, b), w') ∧
        (terminated b.store.source.toList).length < wordLimit ∧
        Recognises "src/harness.c" b.store
          ((Account.recordAll {} smallHistory outcomes).current.base smallHarness) := by
  obtain ⟨outcomes, b, w', hrun, hrecognises⟩ :=
    useStore_recognises holds_smallHarness .keepChanges smallHistory "src/harness.c"
  have hword := lines_smallHistory hrun
  exact ⟨holds_smallHarness, outcomes, b, w', hrun, hword, hrecognises hword⟩

end

end HarnessRepair
