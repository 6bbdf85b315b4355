import HarnessRepair.Proofs.Text.Newline
import HarnessRepair.Proofs.Text.Trim

/-!
# Lines that are joined again

Lines that have lost their terminators may be joined by line feeds, and the text is cut
between them again.  Two things go missing on the way.  A last line that is empty leaves
nothing behind, for no line feed ends it; and a carriage return at the end of any other line
is now taken for a part of the terminator.

## Main results

* `terminated_intercalate` — **the lines of a text that was joined from lines.**
* `withoutTerminator_append_newline_iff` — which lines read as they did before.
* `getLast?_of_mem_lineChars` — if carriage returns come in pairs, all of them do.
-/

namespace HarnessRepair.Text

/-! ### Terminators -/

/-- What is left of a line that a line feed ends. -/
theorem withoutTerminator_append_newline (l : List Char) :
    withoutTerminator (l ++ ['\n']) = if l.getLast? = some '\r' then l.dropLast else l := by
  rcases List.eq_nil_or_concat l with rfl | ⟨front, c, rfl⟩
  · rfl
  · rw [List.concat_eq_append, List.getLast?_concat, List.dropLast_concat, withoutTerminator,
      List.reverse_append, List.reverse_append]
    by_cases hc : c = '\r'
    · subst hc
      rw [if_pos rfl]
      exact List.reverse_reverse front
    · rw [if_neg fun h => hc (Option.some.inj h)]
      split
      · next heq => exact absurd (List.cons.inj (List.cons.inj heq).2).1 hc
      · next rest _ heq =>
        obtain rfl : [c] ++ front.reverse = rest := (List.cons.inj heq).2
        rw [List.reverse_append, List.reverse_reverse]
        rfl
      · next hne => exact absurd rfl (hne ([c] ++ front.reverse))

/-- A line that a line feed ends reads as it did without, unless the last character is taken
for a part of the terminator. -/
theorem withoutTerminator_append_newline_iff {l : List Char} :
    withoutTerminator (l ++ ['\n']) = l ↔ l.getLast? ≠ some '\r' := by
  rw [withoutTerminator_append_newline]
  by_cases h : l.getLast? = some '\r'
  · rw [if_pos h]
    refine iff_of_false (fun heq => ?_) (not_not_intro h)
    have hlength := congrArg List.length heq
    obtain ⟨front, rfl⟩ := List.getLast?_eq_some_iff.1 h
    rw [List.dropLast_concat, List.length_append] at hlength
    exact absurd hlength (by simp)
  · rw [if_neg h]
    exact iff_of_true rfl h

/-- A line without a line feed has no terminator. -/
theorem withoutTerminator_of_notMem {l : List Char} (h : '\n' ∉ l) : withoutTerminator l = l := by
  have hr : '\n' ∉ l.reverse := fun hm => h (List.mem_reverse.1 hm)
  unfold withoutTerminator
  split
  · next heq => exact absurd (heq ▸ List.mem_cons_self) hr
  · next heq => exact absurd (heq ▸ List.mem_cons_self) hr
  · rfl

theorem newline_notMem_of_mem_lineChars {cs l : List Char} (h : l ∈ lineChars cs) : '\n' ∉ l := by
  obtain ⟨t, ht, rfl⟩ := List.mem_map.1 h
  exact newline_notMem_withoutTerminator ((isCut_terminated cs).closed_or_open ht)

/-- If carriage returns come in pairs with line feeds, no line reads as if it ended in one. -/
theorem getLast?_of_mem_lineChars {cs l : List Char} (hpaired : ReturnsPaired cs)
    (h : l ∈ lineChars cs) : l.getLast? ≠ some '\r' := by
  obtain ⟨t, ht, rfl⟩ := List.mem_map.1 h
  rcases (isCut_terminated cs).closed_or_open ht with ⟨body, -, rfl⟩ | hopen
  · rw [withoutTerminator_append_newline]
    split
    · next hbody =>
      -- another return before this one would have no line feed behind it
      intro hlast
      obtain ⟨front, rfl⟩ := List.getLast?_eq_some_iff.1 hbody
      rw [List.dropLast_concat] at hlast
      obtain ⟨start, rfl⟩ := List.getLast?_eq_some_iff.1 hlast
      obtain ⟨before, after, htext⟩ := List.append_of_mem ht
      have hcs : cs = (before.flatten ++ start) ++ '\r' :: ('\r' :: '\n' :: after.flatten) := by
        rw [← flatten_terminated cs, htext, List.flatten_append, List.flatten_cons]
        simp only [List.append_assoc, List.cons_append, List.nil_append]
      rw [hcs] at hpaired
      exact absurd (Option.some.inj hpaired.head?) (by decide)
    · next hbody => exact hbody
  · rw [withoutTerminator_of_notMem hopen.2]
    exact returnFree_terminated hpaired t ht

/-! ### Joining -/

/-- **The lines of a text that was joined from lines.**  Each of them is there, but for a last
one that is empty. -/
theorem terminated_intercalate {ls : List (List Char)} (hls : ∀ l ∈ ls, '\n' ∉ l) {z : List Char}
    (hz : '\n' ∉ z) :
    terminated (['\n'].intercalate (ls ++ [z])) =
      ls.map (· ++ ['\n']) ++ if z = [] then [] else [z] := by
  induction ls with
  | nil =>
    rw [List.nil_append, List.intercalate_singleton, List.map_nil, List.nil_append]
    by_cases hempty : z = []
    · rw [if_pos hempty, hempty]
      rfl
    · rw [if_neg hempty]
      exact terminated_of_open ⟨hempty, hz⟩
  | cons l ls ih =>
    rw [List.forall_mem_cons] at hls
    have hclosed : IsClosed (l ++ ['\n']) := ⟨l, hls.1, rfl⟩
    rw [List.cons_append, List.intercalate_cons_of_ne_nil (by simp), terminated_append hclosed,
      ih hls.2]
    rfl

end HarnessRepair.Text
