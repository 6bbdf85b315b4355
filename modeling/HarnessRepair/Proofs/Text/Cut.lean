import HarnessRepair.Text.Lines

/-!
# Lists of lines that a text is cut into

Cutting a text into lines and joining lines into a text are inverse to one
another, as long as every line but the last has its line feed and none has
another.  So a change made on the lines of a text can be read off the text again.

## Main definitions

* `IsClosed`, `IsOpen` — lines with and without a line feed at the end.
* `IsCut` — the lists of lines that are the lines of a text.

## Main results

* `isCut_terminated`, `terminated_flatten` — **`IsCut` says exactly which lists
  come from cutting a text.**
* `isCut_append_iff` — where two lists of lines may be joined.
-/

namespace HarnessRepair.Text

/-- A line that a line feed ends. -/
def IsClosed (l : List Char) : Prop := ∃ body, '\n' ∉ body ∧ l = body ++ ['\n']

/-- A line that no line feed ends. -/
def IsOpen (l : List Char) : Prop := l ≠ [] ∧ '\n' ∉ l

/-- The lines of a text: only the last one may be open. -/
def IsCut : List (List Char) → Prop
  | [] => True
  | [l] => IsClosed l ∨ IsOpen l
  | l :: m :: ls => IsClosed l ∧ IsCut (m :: ls)

/-! ### Closed and open lines -/

theorem IsClosed.getLast? {l : List Char} (h : IsClosed l) : l.getLast? = some '\n' := by
  obtain ⟨body, -, rfl⟩ := h
  rw [List.getLast?_concat]

theorem IsOpen.getLast?_ne {l : List Char} (h : IsOpen l) : l.getLast? ≠ some '\n' := by
  intro hl
  exact h.2 (List.mem_of_getLast? hl)

theorem not_isOpen_of_isClosed {l : List Char} (h : IsClosed l) : ¬ IsOpen l :=
  fun ho => ho.getLast?_ne h.getLast?

/-- What is put in front of a closed line may not hold a line feed. -/
theorem IsClosed.append_left {l : List Char} (h : IsClosed l) {a : List Char} (ha : '\n' ∉ a) :
    IsClosed (a ++ l) := by
  obtain ⟨body, hb, rfl⟩ := h
  refine ⟨a ++ body, ?_, by rw [List.append_assoc]⟩
  rw [List.mem_append, not_or]
  exact ⟨ha, hb⟩

/-! ### Joining lists of lines -/

theorem isCut_cons {l : List Char} {ls : List (List Char)} (hne : ls ≠ []) :
    IsCut (l :: ls) ↔ IsClosed l ∧ IsCut ls := by
  cases ls with
  | nil => exact absurd rfl hne
  | cons m ls => rfl

/-- A list of lines is a cut when its parts are and the first has no open line, unless
nothing comes behind it. -/
theorem isCut_append_iff {xs ys : List (List Char)} (hne : ys ≠ []) :
    IsCut (xs ++ ys) ↔ (∀ l ∈ xs, IsClosed l) ∧ IsCut ys := by
  induction xs with
  | nil => simp
  | cons x xs ih =>
    have hxy : xs ++ ys ≠ [] := by
      intro h
      exact hne (List.append_eq_nil_iff.1 h).2
    rw [List.cons_append, isCut_cons hxy, ih, List.forall_mem_cons, and_assoc]

/-- Closed lines are a cut. -/
theorem isCut_of_closed {ls : List (List Char)} (h : ∀ l ∈ ls, IsClosed l) : IsCut ls := by
  induction ls with
  | nil => trivial
  | cons l ls ih =>
    rw [List.forall_mem_cons] at h
    by_cases hne : ls = []
    · subst hne
      exact Or.inl h.1
    · exact (isCut_cons hne).2 ⟨h.1, ih h.2⟩

/-- Closed lines may stand in front of any cut. -/
theorem isCut_append {xs ys : List (List Char)} (hx : ∀ l ∈ xs, IsClosed l) (hy : IsCut ys) :
    IsCut (xs ++ ys) := by
  by_cases hne : ys = []
  · rw [hne, List.append_nil]
    exact isCut_of_closed hx
  · exact (isCut_append_iff hne).2 ⟨hx, hy⟩

/-- A closed line may stand in front of any cut. -/
theorem isCut_cons_of_closed {l : List Char} {ls : List (List Char)} (hl : IsClosed l)
    (hls : IsCut ls) : IsCut (l :: ls) := by
  by_cases hne : ls = []
  · rw [hne]
    exact Or.inl hl
  · exact (isCut_cons hne).2 ⟨hl, hls⟩

theorem IsCut.closed_or_open {ls : List (List Char)} (h : IsCut ls) {l : List Char}
    (hl : l ∈ ls) : IsClosed l ∨ IsOpen l := by
  induction ls with
  | nil => cases hl
  | cons m ls ih =>
    by_cases hne : ls = []
    · subst hne
      rw [List.mem_singleton] at hl
      rw [hl]
      exact h
    · obtain ⟨hm, hls⟩ := (isCut_cons hne).1 h
      rcases List.mem_cons.1 hl with rfl | hl
      · exact Or.inl hm
      · exact ih hls hl

/-- An open line is the last one. -/
theorem IsCut.length_of_open {ls : List (List Char)} (h : IsCut ls) {i : Nat} {l : List Char}
    (hi : ls[i]? = some l) (ho : IsOpen l) : i + 1 = ls.length := by
  induction ls generalizing i with
  | nil => cases hi
  | cons m ls ih =>
    by_cases hne : ls = []
    · subst hne
      obtain ⟨hlt, -⟩ := List.getElem?_eq_some_iff.1 hi
      rw [List.length_singleton] at hlt ⊢
      omega
    · obtain ⟨hm, hls⟩ := (isCut_cons hne).1 h
      cases i with
      | zero =>
        rw [List.getElem?_cons_zero] at hi
        obtain rfl := Option.some.inj hi
        exact absurd ho (not_isOpen_of_isClosed hm)
      | succ i =>
        rw [List.getElem?_cons_succ] at hi
        rw [List.length_cons, ih hls hi]

/-- The first lines of a cut are one. -/
theorem IsCut.take {ls : List (List Char)} (h : IsCut ls) (k : Nat) : IsCut (ls.take k) := by
  by_cases hne : ls.drop k = []
  · have hk : ls.take k = ls := List.take_of_length_le (List.drop_eq_nil_iff.1 hne)
    rw [hk]
    exact h
  · rw [← List.take_append_drop k ls, isCut_append_iff hne] at h
    exact isCut_of_closed h.1

/-- The last lines of a cut are one. -/
theorem IsCut.drop {ls : List (List Char)} (h : IsCut ls) (k : Nat) : IsCut (ls.drop k) := by
  by_cases hne : ls.drop k = []
  · rw [hne]
    trivial
  · rw [← List.take_append_drop k ls, isCut_append_iff hne] at h
    exact h.2

/-- Some of the lines of a cut, in their order, are one. -/
theorem IsCut.sublist {ls ms : List (List Char)} (h : IsCut ls) (hs : ms.Sublist ls) :
    IsCut ms := by
  induction hs with
  | slnil => trivial
  | @cons ms ls l hs ih =>
    by_cases hne : ls = []
    · subst hne
      rw [List.sublist_nil.1 hs]
      trivial
    · exact ih ((isCut_cons hne).1 h).2
  | @cons_cons ms ls l hs ih =>
    by_cases hne : ls = []
    · subst hne
      rw [List.sublist_nil.1 hs]
      exact h
    · obtain ⟨hl, hls⟩ := (isCut_cons hne).1 h
      exact isCut_cons_of_closed hl (ih hls)

/-! ### Cutting and joining -/

/-- Cutting a text gives a cut. -/
theorem isCut_terminated (cs : List Char) : IsCut (terminated cs) := by
  induction cs with
  | nil => trivial
  | cons c cs ih =>
    rw [terminated]
    by_cases hc : c = '\n'
    · rw [if_pos hc]
      have hclosed : IsClosed [c] := ⟨[], List.not_mem_nil, by rw [hc]; rfl⟩
      exact isCut_cons_of_closed hclosed ih
    · rw [if_neg hc]
      have hmem : '\n' ∉ [c] := fun h => hc (List.mem_singleton.1 h).symm
      cases ht : terminated cs with
      | nil => exact Or.inr ⟨List.cons_ne_nil _ _, hmem⟩
      | cons l ls =>
        -- the character goes in front of the first line
        rw [ht] at ih
        by_cases hne : ls = []
        · subst hne
          rcases ih with hl | hl
          · exact Or.inl (hl.append_left hmem)
          · refine Or.inr ⟨List.cons_ne_nil _ _, ?_⟩
            rw [List.mem_cons, not_or]
            exact ⟨Ne.symm hc, hl.2⟩
        · obtain ⟨hl, hls⟩ := (isCut_cons hne).1 ih
          exact (isCut_cons hne).2 ⟨hl.append_left hmem, hls⟩

/-- A closed line in front of a text is its first line. -/
theorem terminated_append {l : List Char} (hl : IsClosed l) (cs : List Char) :
    terminated (l ++ cs) = l :: terminated cs := by
  obtain ⟨body, hb, rfl⟩ := hl
  induction body with
  | nil => rw [List.nil_append, List.singleton_append, terminated, if_pos rfl]
  | cons c body ih =>
    rw [List.mem_cons, not_or] at hb
    rw [List.cons_append, List.cons_append, terminated, if_neg (Ne.symm hb.1), ih hb.2]

/-- A text without line feeds is one open line. -/
theorem terminated_of_open {l : List Char} (hl : IsOpen l) : terminated l = [l] := by
  obtain ⟨hne, hl⟩ := hl
  induction l with
  | nil => exact absurd rfl hne
  | cons c cs ih =>
    rw [List.mem_cons, not_or] at hl
    rw [terminated, if_neg (Ne.symm hl.1)]
    by_cases hcs : cs = []
    · rw [hcs]
      rfl
    · rw [ih hcs hl.2]

/-- **Cutting undoes joining.** -/
theorem terminated_flatten {ls : List (List Char)} (h : IsCut ls) :
    terminated ls.flatten = ls := by
  induction ls with
  | nil => rfl
  | cons l ls ih =>
    by_cases hne : ls = []
    · subst hne
      rw [List.flatten_singleton]
      rcases h with hl | hl
      · rw [← List.append_nil l, terminated_append hl]
        simp [terminated]
      · exact terminated_of_open hl
    · obtain ⟨hl, hls⟩ := (isCut_cons hne).1 h
      rw [List.flatten_cons, terminated_append hl, ih hls]

end HarnessRepair.Text
