import HarnessRepair.Patch.LineMap
import Mathlib.Data.List.TakeWhile

/-!
# The two line maps are inverse to one another

One map goes back from a line of the current text by counting the inserted lines
before it; the other walks over the inserted lines and steps out of the way of
each.  On an ascending list they undo one another.  Inserting one more block
moves both by the same amount, from the block on.

## Main definitions

* `Ascending` — each number once, in order.
* `insertedBefore` — how many inserted lines come before a line.
* `placeOf` — `currentLine` without the limit of a word.
* `moved` — where a line goes when a block is inserted.

## Main results

* `placeOf_unmapped`, `unmapped_placeOf` — **each map undoes the other.**
* `placeOf_shiftInserted` — how a further block moves the lines.
-/

namespace HarnessRepair

/-- Each number once, in order. -/
def Ascending (ns : List Nat) : Prop := ns.Pairwise (· < ·)

/-- How many inserted lines come before a line. -/
def insertedBefore (inserted : List Nat) (line : Nat) : Nat := inserted.countP (· < line)

/-- The line of the current text that carries a line of the text without patches,
as a number without limit. -/
def placeOf : List Nat → Nat → Nat
  | [], line => line
  | i :: rest, line => placeOf rest (if i ≤ line then line + 1 else line)

/-- Where a line goes when `count` lines are inserted from the line `start` on. -/
def moved (start count line : Nat) : Nat := if line < start then line else line + count

/-! ### There, within a word -/

theorem le_placeOf (inserted : List Nat) (line : Nat) : line ≤ placeOf inserted line := by
  induction inserted generalizing line with
  | nil => exact Nat.le_refl _
  | cons i rest ih =>
    rw [placeOf]
    by_cases hi : i ≤ line
    · rw [if_pos hi]
      have := ih (line + 1)
      omega
    · rw [if_neg hi]
      exact ih line

theorem placeOf_le (inserted : List Nat) (line : Nat) :
    placeOf inserted line ≤ line + inserted.length := by
  induction inserted generalizing line with
  | nil => exact Nat.le_refl _
  | cons i rest ih =>
    rw [placeOf, List.length_cons]
    by_cases hi : i ≤ line
    · rw [if_pos hi]
      have := ih (line + 1)
      omega
    · rw [if_neg hi]
      have := ih line
      omega

/-- **A line that arrives below the limit of a word is exact**, and no other arrives. -/
theorem currentLine_eq {inserted : List Nat} {line : Nat} (h : line < Text.wordLimit) :
    currentLine inserted line =
      if placeOf inserted line < Text.wordLimit then .ok (placeOf inserted line)
      else .error .addition := by
  induction inserted generalizing line with
  | nil =>
    rw [placeOf, if_pos h]
    rfl
  | cons i rest ih =>
    have hbelow := le_placeOf rest (line + 1)
    rw [currentLine, placeOf]
    by_cases hi : i ≤ line
    · rw [if_pos hi, if_pos hi, addWords]
      by_cases hnext : line + 1 < Text.wordLimit
      · rw [if_pos hnext, ← ih hnext]
        rfl
      · rw [if_neg hnext, if_neg (by omega)]
        rfl
    · rw [if_neg hi, if_neg hi, ← ih h]
      rfl

theorem currentLine_eq_placeOf {inserted : List Nat} {line : Nat}
    (h : placeOf inserted line < Text.wordLimit) :
    currentLine inserted line = .ok (placeOf inserted line) := by
  rw [currentLine_eq (Nat.lt_of_le_of_lt (le_placeOf inserted line) h), if_pos h]

/-! ### The way back -/

/-- The way back, by counting. -/
theorem canonicalLine?_eq (inserted : List Nat) (line : Nat) :
    canonicalLine? inserted line =
      if line ∈ inserted then none else some (line - insertedBefore inserted line) := by
  rw [canonicalLine?, insertedBefore, List.countP_eq_length_filter]
  by_cases h : line ∈ inserted
  · rw [if_pos h, if_pos (List.contains_iff_mem.2 h)]
  · rw [if_neg h, if_neg fun hc => h (List.contains_iff_mem.1 hc)]

/-! ### Counting -/

theorem insertedBefore_cons (i : Nat) (rest : List Nat) (line : Nat) :
    insertedBefore (i :: rest) line = insertedBefore rest line + if i < line then 1 else 0 := by
  rw [insertedBefore, insertedBefore, List.countP_cons]
  by_cases h : i < line
  · rw [if_pos h, if_pos (by simpa using h)]
  · rw [if_neg h, if_neg (by simpa using h)]

theorem insertedBefore_eq_zero {inserted : List Nat} {line : Nat}
    (h : ∀ i ∈ inserted, line ≤ i) : insertedBefore inserted line = 0 := by
  rw [insertedBefore, List.countP_eq_zero]
  intro i hi hlt
  have := h i hi
  simp at hlt
  omega

theorem insertedBefore_eq_length {inserted : List Nat} {line : Nat}
    (h : ∀ i ∈ inserted, i < line) : insertedBefore inserted line = inserted.length := by
  rw [insertedBefore, List.countP_eq_length]
  intro i hi
  exact decide_eq_true (h i hi)

/-- Between `a` and a line there is only room for so many inserted lines. -/
theorem insertedBefore_le {inserted : List Nat} (hasc : Ascending inserted) {a : Nat}
    (ha : ∀ i ∈ inserted, a ≤ i) (line : Nat) : insertedBefore inserted line ≤ line - a := by
  induction inserted generalizing a with
  | nil => exact Nat.zero_le _
  | cons i rest ih =>
    obtain ⟨hi, hrest⟩ := List.pairwise_cons.1 hasc
    have hai : a ≤ i := ha i List.mem_cons_self
    have hbound := ih hrest (a := i + 1) fun j hj => hi j hj
    rw [insertedBefore_cons]
    by_cases hlt : i < line
    · rw [if_pos hlt]
      omega
    · rw [if_neg hlt]
      omega

/-- The way back never leaves the numbers. -/
theorem insertedBefore_le_self {inserted : List Nat} (hasc : Ascending inserted) (line : Nat) :
    insertedBefore inserted line ≤ line :=
  insertedBefore_le hasc (a := 0) (fun _ _ => Nat.zero_le _) line

/-! ### There and back -/

theorem placeOf_of_lt {inserted : List Nat} {line : Nat} (h : ∀ i ∈ inserted, line < i) :
    placeOf inserted line = line := by
  induction inserted with
  | nil => rfl
  | cons i rest ih =>
    rw [List.forall_mem_cons] at h
    rw [placeOf, if_neg (by omega), ih h.2]

/-- A line never lands on an inserted one, and moves by as many as come before it. -/
theorem placeOf_spec {inserted : List Nat} (hasc : Ascending inserted) (line : Nat) :
    placeOf inserted line ∉ inserted ∧
      placeOf inserted line = line + insertedBefore inserted (placeOf inserted line) := by
  induction inserted generalizing line with
  | nil => exact ⟨List.not_mem_nil, rfl⟩
  | cons i rest ih =>
    obtain ⟨hi, hrest⟩ := List.pairwise_cons.1 hasc
    rw [placeOf, insertedBefore_cons, List.mem_cons, not_or]
    by_cases hle : i ≤ line
    · obtain ⟨hmem, heq⟩ := ih hrest (line + 1)
      have hge := le_placeOf rest (line + 1)
      rw [if_pos hle]
      refine ⟨⟨by omega, hmem⟩, ?_⟩
      rw [if_pos (by omega)]
      omega
    · -- all inserted lines lie behind
      have hall : ∀ j ∈ rest, line < j := fun j hj => by
        have := hi j hj
        omega
      rw [if_neg hle, placeOf_of_lt hall]
      refine ⟨⟨by omega, fun hmem => absurd (hall line hmem) (by omega)⟩, ?_⟩
      rw [if_neg (by omega), insertedBefore_eq_zero fun j hj => (hall j hj).le, Nat.add_zero]

/-- A line stays where it is exactly if all inserted lines lie behind it. -/
theorem placeOf_eq_self_iff {inserted : List Nat} (hasc : Ascending inserted) (line : Nat) :
    placeOf inserted line = line ↔ ∀ i ∈ inserted, line < i := by
  refine ⟨fun heq i hi => ?_, placeOf_of_lt⟩
  obtain ⟨hmem, hcount⟩ := placeOf_spec hasc line
  rw [heq] at hmem hcount
  have hnone : insertedBefore inserted line = 0 := by omega
  rw [insertedBefore, List.countP_eq_zero] at hnone
  have hge : line ≤ i := by simpa using hnone i hi
  have hne : i ≠ line := fun h => hmem (h ▸ hi)
  omega

/-- **The way there undoes the way back.** -/
theorem placeOf_unmapped {inserted : List Nat} (hasc : Ascending inserted) {line : Nat}
    (hmem : line ∉ inserted) : placeOf inserted (line - insertedBefore inserted line) = line := by
  induction inserted generalizing line with
  | nil => rfl
  | cons i rest ih =>
    obtain ⟨hi, hrest⟩ := List.pairwise_cons.1 hasc
    rw [List.mem_cons, not_or] at hmem
    rw [insertedBefore_cons, placeOf]
    by_cases hlt : i < line
    · -- the inserted lines behind `i` leave room for `i` itself
      have hroom := insertedBefore_le hrest (a := i + 1) (fun j hj => hi j hj) line
      have hback : line - (insertedBefore rest line + 1) + 1 = line - insertedBefore rest line := by
        omega
      rw [if_pos hlt, if_pos (by omega), hback, ih hrest hmem.2]
    · have hall : ∀ j ∈ rest, line < j := fun j hj => by
        have := hi j hj
        omega
      have hnone : insertedBefore rest line = 0 :=
        insertedBefore_eq_zero fun j hj => (hall j hj).le
      rw [if_neg hlt, hnone, if_neg (by omega)]
      exact placeOf_of_lt hall

/-- **The way back undoes the way there.** -/
theorem unmapped_placeOf {inserted : List Nat} (hasc : Ascending inserted) (line : Nat) :
    placeOf inserted line - insertedBefore inserted (placeOf inserted line) = line := by
  have h := (placeOf_spec hasc line).2
  omega

/-- A line that is not inserted comes from a line of the text without patches. -/
theorem unmapped_le {inserted : List Nat} (hasc : Ascending inserted) {count line : Nat}
    (hcount : ∀ i ∈ inserted, i ≤ count) (hmem : line ∉ inserted) (hline : line ≤ count) :
    line - insertedBefore inserted line + inserted.length ≤ count := by
  -- the inserted lines behind `line` find room between it and the last line
  have hbehind : Ascending (inserted.filter fun i => !decide (i < line)) := hasc.filter _
  have hafter : ∀ i ∈ inserted.filter fun i => !decide (i < line), line + 1 ≤ i := by
    intro i hi
    obtain ⟨hi, hge⟩ := List.mem_filter.1 hi
    have hne : i ≠ line := fun h => hmem (h ▸ hi)
    simp at hge
    omega
  have hroom := insertedBefore_le hbehind hafter (count + 1)
  rw [insertedBefore_eq_length (by
    intro i hi
    have := hcount i (List.mem_filter.1 hi).1
    omega)] at hroom
  have hsplit : inserted.length = insertedBefore inserted line +
      (inserted.filter fun i => !decide (i < line)).length := by
    rw [insertedBefore, List.length_eq_countP_add_countP (· < line),
      ← List.countP_eq_length_filter]
    simp only [decide_eq_true_eq, decide_not]
  have hle := insertedBefore_le_self hasc line
  omega

/-! ### One more block -/

theorem takeWhile_lt {inserted : List Nat} (hasc : Ascending inserted) (start : Nat) :
    inserted.takeWhile (· < start) = inserted.filter (· < start) := by
  induction inserted with
  | nil => rfl
  | cons i rest ih =>
    obtain ⟨hi, hrest⟩ := List.pairwise_cons.1 hasc
    by_cases h : i < start
    · rw [List.takeWhile_cons_of_pos (by simpa using h), List.filter_cons_of_pos (by simpa using h),
        ih hrest]
    · have hnone : rest.filter (· < start) = [] := by
        rw [List.filter_eq_nil_iff]
        intro j hj hlt
        have := hi j hj
        simp at hlt
        omega
      rw [List.takeWhile_cons_of_neg (by simpa using h), List.filter_cons_of_neg (by simpa using h),
        hnone]

theorem dropWhile_lt {inserted : List Nat} (hasc : Ascending inserted) (start : Nat) :
    inserted.dropWhile (· < start) = inserted.filter (start ≤ ·) := by
  induction inserted with
  | nil => rfl
  | cons i rest ih =>
    obtain ⟨hi, hrest⟩ := List.pairwise_cons.1 hasc
    by_cases h : i < start
    · rw [List.dropWhile_cons_of_pos (by simpa using h),
        List.filter_cons_of_neg (by simpa using h), ih hrest]
    · have hall : (i :: rest).filter (start ≤ ·) = i :: rest := by
        rw [List.filter_eq_self]
        intro j hj
        rcases List.mem_cons.1 hj with rfl | hj
        · simpa using h
        · have := hi j hj
          simp
          omega
      rw [List.dropWhile_cons_of_neg (by simpa using h), hall]

/-- The inserted lines before a block stay, those behind it move. -/
theorem shiftInserted_eq {inserted : List Nat} (hasc : Ascending inserted) (start count : Nat) :
    shiftInserted start count inserted =
      inserted.filter (· < start) ++ List.range' start count ++
        (inserted.filter (start ≤ ·)).map (· + count) := by
  rw [shiftInserted, takeWhile_lt hasc, dropWhile_lt hasc]

theorem mem_shiftInserted {inserted : List Nat} (hasc : Ascending inserted)
    {start count line : Nat} :
    line ∈ shiftInserted start count inserted ↔
      (line ∈ inserted ∧ line < start) ∨ (start ≤ line ∧ line < start + count) ∨
        ∃ i ∈ inserted, start ≤ i ∧ line = i + count := by
  rw [shiftInserted_eq hasc, List.mem_append, List.mem_append, List.mem_filter,
    List.mem_range'_1, List.mem_map, or_assoc]
  simp only [decide_eq_true_eq, List.mem_filter, and_assoc]
  refine or_congr Iff.rfl (or_congr Iff.rfl (exists_congr fun i => ?_))
  rw [eq_comm (a := line)]

theorem ascending_shiftInserted {inserted : List Nat} (hasc : Ascending inserted)
    (start count : Nat) : Ascending (shiftInserted start count inserted) := by
  rw [shiftInserted_eq hasc, Ascending, List.pairwise_append, List.pairwise_append]
  refine ⟨⟨hasc.filter _, List.pairwise_lt_range' .., ?_⟩, ?_, ?_⟩
  · intro i hi j hj
    have hlt := (List.mem_filter.1 hi).2
    have hge := (List.mem_range'_1.1 hj).1
    simp at hlt
    omega
  · rw [List.pairwise_map]
    exact (hasc.filter _).imp fun h => by omega
  · intro i hi j hj
    obtain ⟨k, hk, rfl⟩ := List.mem_map.1 hj
    have hge := (List.mem_filter.1 hk).2
    simp at hge
    rcases List.mem_append.1 hi with hi | hi
    · have hlt := (List.mem_filter.1 hi).2
      simp at hlt
      omega
    · have := (List.mem_range'_1.1 hi).2
      omega

/-- A line is inserted exactly if it was so before it moved. -/
theorem moved_mem_shiftInserted {inserted : List Nat} (hasc : Ascending inserted)
    (start count line : Nat) :
    moved start count line ∈ shiftInserted start count inserted ↔ line ∈ inserted := by
  rw [mem_shiftInserted hasc, moved]
  by_cases h : line < start
  · rw [if_pos h]
    constructor
    · rintro (⟨hmem, -⟩ | ⟨hge, -⟩ | ⟨i, -, hge, heq⟩)
      · exact hmem
      · omega
      · omega
    · exact fun hmem => Or.inl ⟨hmem, h⟩
  · rw [if_neg h]
    constructor
    · rintro (⟨-, hlt⟩ | ⟨-, hlt⟩ | ⟨i, hi, -, heq⟩)
      · omega
      · omega
      · have hli : line = i := by omega
        rw [hli]
        exact hi
    · exact fun hmem => Or.inr (Or.inr ⟨line, hmem, by omega, rfl⟩)

/-- Before a line that moved there are more inserted lines by the length of the block. -/
theorem insertedBefore_shiftInserted {inserted : List Nat} (hasc : Ascending inserted)
    (start count line : Nat) :
    insertedBefore (shiftInserted start count inserted) (moved start count line) =
      insertedBefore inserted line + if line < start then 0 else count := by
  have hbefore : (inserted.filter (· < start)).countP (· < moved start count line) +
      (inserted.filter (start ≤ ·)).countP ((· < moved start count line) ∘ (· + count)) =
        inserted.countP (· < line) := by
    rw [List.countP_filter, List.countP_filter, moved]
    induction inserted with
    | nil => rfl
    | cons i rest ih =>
      have hrest := ih (List.pairwise_cons.1 hasc).2
      rw [List.countP_cons, List.countP_cons, List.countP_cons]
      by_cases h : line < start
      · simp only [h, if_true] at hrest ⊢
        grind
      · simp only [h, if_false] at hrest ⊢
        grind
  have hblock : insertedBefore (List.range' start count) (moved start count line) =
      if line < start then 0 else count := by
    rw [moved]
    by_cases h : line < start
    · rw [if_pos h, if_pos h]
      exact insertedBefore_eq_zero fun i hi => by
        have := (List.mem_range'_1.1 hi).1
        omega
    · rw [if_neg h, if_neg h, insertedBefore_eq_length, List.length_range']
      intro i hi
      have := (List.mem_range'_1.1 hi).2
      omega
  rw [insertedBefore] at hblock
  rw [shiftInserted_eq hasc, insertedBefore, List.countP_append, List.countP_append,
    List.countP_map, hblock, insertedBefore, ← hbefore]
  omega

/-- **A further block moves every line from its start on.** -/
theorem placeOf_shiftInserted {inserted : List Nat} (hasc : Ascending inserted)
    (start count line : Nat) :
    placeOf (shiftInserted start count inserted) line =
      moved start count (placeOf inserted line) := by
  obtain ⟨hmem, heq⟩ := placeOf_spec hasc line
  have hnew : moved start count (placeOf inserted line) ∉ shiftInserted start count inserted :=
    fun h => hmem ((moved_mem_shiftInserted hasc start count _).1 h)
  have hback := placeOf_unmapped (ascending_shiftInserted hasc start count) hnew
  rw [insertedBefore_shiftInserted hasc] at hback
  have hline : moved start count (placeOf inserted line) -
      (insertedBefore inserted (placeOf inserted line) +
        if placeOf inserted line < start then 0 else count) = line := by
    rw [moved]
    by_cases h : placeOf inserted line < start
    · rw [if_pos h, if_pos h]
      omega
    · rw [if_neg h, if_neg h]
      omega
  rw [hline] at hback
  exact hback

end HarnessRepair
