import HarnessRepair.Patch.Insertion
import HarnessRepair.Proofs.Text.Cut
import Mathlib.Data.List.DropRight

/-!
# Trimmed texts

What trimming leaves starts and ends with characters that are not blank, and
blanks around such a text are what trimming takes away.  The statement lines of a
patch are such texts, and none of them holds a line feed.

## Main definitions

* `IsTrimmed` — no blank at either end.

## Main results

* `trimChars_blanks` — **trimming takes away the blanks around a trimmed text.**
* `isTrimmed_of_mem_statementLines`, `newline_notMem_of_mem_statementLines` —
  what the statement lines of a patch look like.
-/

namespace HarnessRepair.Text

/-- No blank at either end. -/
def IsTrimmed (cs : List Char) : Prop :=
  (∀ c ∈ cs.head?, isBlank c = false) ∧ ∀ c ∈ cs.getLast?, isBlank c = false

/-! ### Trimming the end -/

/-- Trimming the end is dropping the blanks from behind. -/
theorem trimEndChars_eq_rdropWhile (cs : List Char) : trimEndChars cs = cs.rdropWhile isBlank := by
  induction cs with
  | nil => rfl
  | cons c cs ih =>
    rw [trimEndChars, ih, List.rdropWhile, List.rdropWhile, List.reverse_cons,
      List.dropWhile_append]
    cases h : cs.reverse.dropWhile isBlank with
    | nil =>
      rw [List.reverse_nil, List.isEmpty_nil, if_pos rfl, List.dropWhile_cons]
      by_cases hc : isBlank c = true
      · rw [if_pos hc, if_pos hc]
        rfl
      · rw [if_neg hc, if_neg hc]
        rfl
    | cons d ds =>
      rw [List.isEmpty_cons, if_neg Bool.false_ne_true, List.reverse_append]
      split
      · next heq => exact absurd (List.reverse_eq_nil_iff.1 heq) (List.cons_ne_nil d ds)
      · rfl

theorem trimEndChars_append_blanks (cs : List Char) {bs : List Char}
    (hb : ∀ c ∈ bs, isBlank c = true) : trimEndChars (cs ++ bs) = trimEndChars cs := by
  have hr : ∀ c ∈ bs.reverse, isBlank c = true := fun c hc => hb c (List.mem_reverse.1 hc)
  rw [trimEndChars_eq_rdropWhile, trimEndChars_eq_rdropWhile, List.rdropWhile, List.rdropWhile,
    List.reverse_append, List.dropWhile_append_of_pos hr]

/-- A text whose last character is not blank keeps its end. -/
theorem trimEndChars_of_getLast? {cs : List Char} (h : ∀ c ∈ cs.getLast?, isBlank c = false) :
    trimEndChars cs = cs := by
  rw [trimEndChars_eq_rdropWhile, List.rdropWhile_eq_self_iff]
  intro hne
  rw [h _ (List.getLast?_eq_some_getLast hne)]
  exact Bool.false_ne_true

/-- What is left does not end in a blank. -/
theorem getLast?_trimEndChars (cs : List Char) :
    ∀ c ∈ (trimEndChars cs).getLast?, isBlank c = false := by
  intro c hc
  rw [trimEndChars_eq_rdropWhile] at hc
  have hne : cs.rdropWhile isBlank ≠ [] := by
    intro h
    rw [h] at hc
    cases hc
  rw [List.getLast?_eq_some_getLast hne] at hc
  obtain rfl := Option.some.inj hc
  exact Bool.eq_false_iff.2 (List.rdropWhile_last_not isBlank cs hne)

/-- What is left is how the text starts. -/
theorem trimEndChars_isPrefix (cs : List Char) : trimEndChars cs <+: cs := by
  rw [trimEndChars_eq_rdropWhile]
  exact List.rdropWhile_prefix isBlank cs

/-! ### Trimming both ends -/

theorem head?_trimStartChars (cs : List Char) :
    ∀ c ∈ (trimStartChars cs).head?, isBlank c = false := by
  intro c hc
  have h := List.head?_dropWhile_not isBlank cs
  rw [trimStartChars] at hc
  rw [Option.mem_def.1 hc] at h
  simpa using h

theorem isTrimmed_trimChars (cs : List Char) : IsTrimmed (trimChars cs) := by
  refine ⟨?_, getLast?_trimEndChars _⟩
  intro c hc
  rw [trimChars, Option.mem_def] at hc
  obtain ⟨tail, htail⟩ := trimEndChars_isPrefix (trimStartChars cs)
  refine head?_trimStartChars cs c ?_
  rw [← htail, Option.mem_def, List.head?_append, hc]
  rfl

theorem mem_of_mem_trimChars {cs : List Char} {c : Char} (h : c ∈ trimChars cs) : c ∈ cs :=
  (List.dropWhile_sublist _).subset ((trimEndChars_isPrefix _).subset h)

/-- **Trimming takes away the blanks around a trimmed text.** -/
theorem trimChars_blanks {cs : List Char} (hne : cs ≠ []) (ht : IsTrimmed cs)
    {as bs : List Char} (ha : ∀ c ∈ as, isBlank c = true) (hb : ∀ c ∈ bs, isBlank c = true) :
    trimChars (as ++ cs ++ bs) = cs := by
  have hstart : trimStartChars (as ++ cs ++ bs) = cs ++ bs := by
    rw [trimStartChars, List.append_assoc, List.dropWhile_append_of_pos ha]
    cases cs with
    | nil => exact absurd rfl hne
    | cons c cs =>
      have hc : ¬ isBlank c = true := by
        rw [ht.1 c rfl]
        exact Bool.false_ne_true
      rw [List.cons_append, List.dropWhile_cons_of_neg hc]
  rw [trimChars, hstart, trimEndChars_append_blanks cs hb, trimEndChars_of_getLast? ht.2]

/-- A line terminator consists of blanks, so trimming does not see it. -/
theorem trimChars_append_blanks (cs : List Char) {bs : List Char}
    (hb : ∀ c ∈ bs, isBlank c = true) : trimChars (cs ++ bs) = trimChars cs := by
  rw [trimChars, trimChars, trimStartChars, trimStartChars, List.dropWhile_append]
  by_cases h : (cs.dropWhile isBlank).isEmpty = true
  · rw [if_pos h, List.isEmpty_iff.1 h]
    rw [List.dropWhile_eq_nil_iff.2 hb]
  · rw [if_neg h, trimEndChars_append_blanks _ hb]

/-! ### Statement lines -/

theorem newline_notMem_withoutTerminator {l : List Char} (h : IsClosed l ∨ IsOpen l) :
    '\n' ∉ withoutTerminator l := by
  unfold withoutTerminator
  rcases h with ⟨body, hb, rfl⟩ | ⟨-, ho⟩
  · rw [List.reverse_append, List.reverse_singleton, List.singleton_append]
    have hr : '\n' ∉ body.reverse := fun h => hb (List.mem_reverse.1 h)
    split
    · next rest heq =>
      have hbody : body.reverse = '\r' :: rest := (List.cons.inj heq).2
      rw [hbody, List.mem_cons, not_or] at hr
      exact fun h => hr.2 (List.mem_reverse.1 h)
    · next rest _ heq =>
      have hbody : body.reverse = rest := (List.cons.inj heq).2
      rw [hbody] at hr
      exact fun h => hr (List.mem_reverse.1 h)
    · next _ hne => exact absurd rfl (hne body.reverse)
  · have hr : '\n' ∉ l.reverse := fun h => ho (List.mem_reverse.1 h)
    split
    · next heq => rw [heq] at hr; exact absurd List.mem_cons_self hr
    · next heq => rw [heq] at hr; exact absurd List.mem_cons_self hr
    · exact ho

theorem mem_statementLines {statement : String} {s : List Char}
    (h : s ∈ statementLines statement) :
    s ≠ [] ∧ ∃ l ∈ terminated statement.toList, s = trimChars (withoutTerminator l) := by
  rw [statementLines, List.mem_filter, List.mem_map] at h
  obtain ⟨⟨l, hl, rfl⟩, hne⟩ := h
  rw [lineChars, List.mem_map] at hl
  obtain ⟨m, hm, rfl⟩ := hl
  refine ⟨?_, m, hm, rfl⟩
  intro h0
  rw [h0] at hne
  cases hne

theorem isTrimmed_of_mem_statementLines {statement : String} {s : List Char}
    (h : s ∈ statementLines statement) : IsTrimmed s := by
  obtain ⟨-, l, -, rfl⟩ := mem_statementLines h
  exact isTrimmed_trimChars _

theorem newline_notMem_of_mem_statementLines {statement : String} {s : List Char}
    (h : s ∈ statementLines statement) : '\n' ∉ s := by
  obtain ⟨-, l, hl, rfl⟩ := mem_statementLines h
  have hcut := (isCut_terminated statement.toList).closed_or_open hl
  exact fun hm => newline_notMem_withoutTerminator hcut (mem_of_mem_trimChars hm)

end HarnessRepair.Text
