import HarnessRepair.Proofs.Patch.Reached

/-!
# Places, read off the log

The log says of every patch at which line it went in, as the text was then.  That is
enough to follow any line through the patches that came later, and to tell the lines
that patches have put in from all others.  The line map of a store says the same.

## Main definitions

* `AppliedPatch.height` — how many lines a patch has put in.
* `standsAt` — where a line stands after some patches.
* `PutIn`, `PutInBy` — the lines that patches have put in, where they stand now.
* `Charted` — a list of inserted lines that agrees with a log.
* `Followed` — a text in which a log can be followed.

## Main results

* `Grown.charted` — **the line map of a text with some changes agrees with its log.**
* `Charted.canonicalLine?_eq_some_iff`, `canonicalLine?_eq_none_iff` — so the way back
  is the one that the log tells.
* `Grown.followed` — **the lines are where the log says.**
-/

namespace HarnessRepair

open Text

/-- How many lines a patch has put in. -/
def AppliedPatch.height (a : AppliedPatch) : Nat := (statementLines a.patch.statement).length

/-- Where a line stands after some patches have been applied, one after the other. -/
def standsAt (log : List AppliedPatch) (line : Nat) : Nat :=
  log.foldl (fun line a => moved a.line a.height line) line

/-- One of the patches has put in the line that stands here now. -/
def PutIn (log : List AppliedPatch) (line : Nat) : Prop :=
  ∃ before a after i, log = before ++ a :: after ∧ a.line ≤ i ∧ i < a.line + a.height ∧
    standsAt after i = line

/-- The patch `a` has put in the line that stands here now. -/
def PutInBy (a : AppliedPatch) (log : List AppliedPatch) (line : Nat) : Prop :=
  ∃ before after i, log = before ++ a :: after ∧ a.line ≤ i ∧ i < a.line + a.height ∧
    standsAt after i = line

variable {log : List AppliedPatch} {inserted : List Nat}

theorem standsAt_append (later : List AppliedPatch) (line : Nat) :
    standsAt (log ++ later) line = standsAt later (standsAt log line) := List.foldl_append

theorem putIn_iff {line : Nat} : PutIn log line ↔ ∃ a, PutInBy a log line :=
  ⟨fun ⟨before, a, after, h⟩ => ⟨a, before, after, h⟩,
    fun ⟨a, before, after, h⟩ => ⟨before, a, after, h⟩⟩

theorem not_putInBy_nil (a : AppliedPatch) (line : Nat) : ¬ PutInBy a [] line := by
  rintro ⟨before, after, i, hlog, -⟩
  simp at hlog

/-- A patch has put a line in as the last one, or as an earlier one, and the line has moved
since. -/
theorem putInBy_concat {a b : AppliedPatch} {line : Nat} :
    PutInBy b (log ++ [a]) line ↔ (b = a ∧ a.line ≤ line ∧ line < a.line + a.height) ∨
      ∃ j, PutInBy b log j ∧ moved a.line a.height j = line := by
  constructor
  · rintro ⟨before, after, i, hlog, hge, hlt, hline⟩
    rcases List.eq_nil_or_concat' after with rfl | ⟨between, d, rfl⟩
    · obtain ⟨-, hlast⟩ := List.append_inj' hlog rfl
      obtain rfl := (List.cons.inj hlast).1
      obtain rfl : i = line := hline
      exact Or.inl ⟨rfl, hge, hlt⟩
    · have hsplit : log ++ [a] = (before ++ b :: between) ++ [d] := by
        rw [hlog, List.append_assoc, List.cons_append]
      obtain ⟨rfl, hlast⟩ := List.append_inj' hsplit rfl
      obtain rfl := (List.cons.inj hlast).1
      rw [standsAt_append] at hline
      exact Or.inr ⟨standsAt between i, ⟨before, between, i, rfl, hge, hlt, rfl⟩, hline⟩
  · rintro (⟨rfl, hge, hlt⟩ | ⟨j, ⟨before, after, i, rfl, hge, hlt, rfl⟩, hline⟩)
    · exact ⟨log, [], line, rfl, hge, hlt, rfl⟩
    · refine ⟨before, after ++ [a], i, ?_, hge, hlt, ?_⟩
      · rw [List.append_assoc, List.cons_append]
      · rw [standsAt_append]
        exact hline

theorem not_putIn_nil (line : Nat) : ¬ PutIn [] line := by
  rw [putIn_iff]
  rintro ⟨a, h⟩
  exact not_putInBy_nil a line h

/-- A line has been put in by the last patch, or by an earlier one, and has moved since. -/
theorem putIn_concat {a : AppliedPatch} {line : Nat} :
    PutIn (log ++ [a]) line ↔ (a.line ≤ line ∧ line < a.line + a.height) ∨
      ∃ j, PutIn log j ∧ moved a.line a.height j = line := by
  simp only [putIn_iff, putInBy_concat, exists_or, exists_and_right, exists_eq, true_and]
  refine or_congr Iff.rfl ⟨?_, ?_⟩
  · rintro ⟨b, j, hput, hline⟩
    exact ⟨j, ⟨b, hput⟩, hline⟩
  · rintro ⟨j, ⟨b, hput⟩, hline⟩
    exact ⟨b, j, hput, hline⟩

/-- A list of inserted lines that agrees with a log. -/
structure Charted (log : List AppliedPatch) (inserted : List Nat) : Prop where
  ascending : Ascending inserted
  placeOf_eq : ∀ line, placeOf inserted line = standsAt log line
  mem_iff : ∀ line, line ∈ inserted ↔ PutIn log line

namespace Charted

theorem nil : Charted [] [] where
  ascending := List.Pairwise.nil
  placeOf_eq := fun _ => rfl
  mem_iff := fun line => iff_of_false List.not_mem_nil (not_putIn_nil line)

/-- One more patch. -/
theorem concat (h : Charted log inserted) (a : AppliedPatch) :
    Charted (log ++ [a]) (shiftInserted a.line a.height inserted) where
  ascending := ascending_shiftInserted h.ascending _ _
  placeOf_eq := by
    intro line
    rw [placeOf_shiftInserted h.ascending, h.placeOf_eq, standsAt_append]
    rfl
  mem_iff := by
    intro line
    rw [mem_shiftInserted h.ascending, putIn_concat]
    simp only [← h.mem_iff]
    constructor
    · rintro (⟨hmem, hlt⟩ | hblock | ⟨j, hj, hge, rfl⟩)
      · exact Or.inr ⟨line, hmem, by rw [moved, if_pos hlt]⟩
      · exact Or.inl hblock
      · exact Or.inr ⟨j, hj, by rw [moved, if_neg (by omega)]⟩
    · rintro (hblock | ⟨j, hj, rfl⟩)
      · exact Or.inr (Or.inl hblock)
      · rw [moved]
        by_cases hlt : j < a.line
        · rw [if_pos hlt]
          exact Or.inl ⟨hj, hlt⟩
        · rw [if_neg hlt]
          exact Or.inr (Or.inr ⟨j, hj, by omega, rfl⟩)

/-- Going back from a line leads to the line that has come to stand there. -/
theorem canonicalLine?_eq_some_iff (h : Charted log inserted) {line old : Nat} :
    canonicalLine? inserted line = some old ↔ standsAt log old = line := by
  rw [← h.placeOf_eq]
  constructor
  · intro hback
    rw [canonicalLine?_eq] at hback
    by_cases hmem : line ∈ inserted
    · rw [if_pos hmem] at hback
      cases hback
    · rw [if_neg hmem] at hback
      obtain rfl := Option.some.inj hback
      exact placeOf_unmapped h.ascending hmem
  · rintro rfl
    exact canonicalLine?_placeOf h.ascending old

/-- Only from the lines of the patches there is no way back. -/
theorem canonicalLine?_eq_none_iff (h : Charted log inserted) {line : Nat} :
    canonicalLine? inserted line = none ↔ PutIn log line := by
  rw [← h.mem_iff, canonicalLine?_eq]
  by_cases hmem : line ∈ inserted
  · rw [if_pos hmem]
    exact iff_of_true rfl hmem
  · rw [if_neg hmem]
    exact iff_of_false (fun hnone => by cases hnone) hmem

end Charted

/-- **The line map of a text with some changes agrees with its log.** -/
theorem Grown.charted {base : String} {changes : List (List Patch)} {s : Snapshot}
    (h : Grown { source := base } changes s) : Charted s.log s.inserted := by
  induction h with
  | start => exact Charted.nil
  | more _ hext ih =>
    refine Draft.addAll_induct (P := fun d => Charted d.log d.inserted) ?_
      (Snapshot.draft_extend hext) ih
    intro d p e hd hadd
    obtain ⟨k, indent, -, -, -, -, hlog, hinserted⟩ := Draft.add_eq_ok hadd
    rw [hlog, hinserted]
    exact hd.concat ⟨p, k + 1⟩

/-- The lines of a text are those of a text without patches and those that the patches of a
log have put in, where the log says. -/
structure Followed (base : List Line) (log : List AppliedPatch) (lines : List Line) : Prop where
  carried : ∀ n old, lineAt? base n = some old →
    ∃ l, lineAt? lines (standsAt log n) = some l ∧ Carries old l
  putIn : ∀ n, PutIn log n → ∃ l, lineAt? lines n = some l ∧
    ∃ a ∈ log, trimChars l ∈ statementLines a.patch.statement
  covered : ∀ n l, lineAt? lines n = some l →
    PutIn log n ∨ ∃ m old, lineAt? base m = some old ∧ standsAt log m = n

/-- **After any changes the lines are where the log says.** -/
theorem Grown.followed {base : String} {changes : List (List Patch)} {s : Snapshot}
    (h : Grown { source := base } changes s) :
    Followed (terminated base.toList) s.log (terminated s.source.toList) := by
  have hwoven := h.woven
  have hcharted := h.charted
  refine ⟨fun n old hold => ?_, fun n hput => ?_, fun n l hl => ?_⟩
  · rw [← hcharted.placeOf_eq]
    exact hwoven.carried n old hold
  · exact hwoven.statements n ((hcharted.mem_iff n).2 hput)
  · by_cases hput : PutIn s.log n
    · exact Or.inl hput
    · refine Or.inr ?_
      by_contra hnone
      refine hput ((hcharted.mem_iff n).1 (hwoven.mem_inserted hl fun m old hold hplace => ?_))
      exact hnone ⟨m, old, hold, (hcharted.placeOf_eq m).symm.trans hplace⟩

end HarnessRepair
