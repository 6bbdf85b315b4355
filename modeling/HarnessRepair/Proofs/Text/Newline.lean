import HarnessRepair.Patch.Insertion
import HarnessRepair.Proofs.Text.Cut

/-!
# The terminator of new lines

New lines end the way the lines of the text do: with a carriage return in front
of the line feed as soon as one line of the text has it.  Since the pair stands
at the end of a line, the choice can be read off the lines one by one, and stays
the same as lines are added that were ended by that choice.

## Main definitions

* `IsNewline` — the two terminators.
* `EndsInPair` — a line ended by both characters.
* `ReturnsPaired` — every carriage return has a line feed behind it.
* `ReturnFree` — no line has a carriage return at its end.

## Main results

* `newlineOf_flatten` — **the terminator is decided by the lines.**
* `returnFree_terminated` — texts in which carriage returns come in pairs.
-/

namespace HarnessRepair

open Text

/-- A text is found where it stands. -/
theorem Text.occurs_eq_true_iff {needle cs : List Char} :
    occurs needle cs = true ↔ needle <:+: cs := by
  rw [occurs, Option.isSome_iff_exists]
  constructor
  · rintro ⟨⟨before, rest⟩, h⟩
    exact ⟨before, rest, (splitAtFirst?_eq_some h).symm⟩
  · intro h
    induction cs with
    | nil =>
      rw [List.infix_nil.1 h]
      exact ⟨([], []), rfl⟩
    | cons c cs ih =>
      rw [splitAtFirst?]
      cases hp : stripPrefix? needle (c :: cs) with
      | some rest => exact ⟨([], rest), rfl⟩
      | none =>
        -- the needle does not stand at the front
        rcases List.infix_cons_iff.1 h with ⟨rest, hrest⟩ | htail
        · rw [stripPrefix?_eq_some_iff.2 hrest.symm] at hp
          cases hp
        · obtain ⟨⟨before, rest⟩, hs⟩ := ih htail
          rw [hs]
          exact ⟨(c :: before, rest), rfl⟩

/-! ### The two terminators -/

/-- A line feed, or a carriage return and a line feed. -/
def IsNewline (newline : List Char) : Prop := newline = ['\n'] ∨ newline = ['\r', '\n']

theorem isNewline_newlineOf (cs : List Char) : IsNewline (newlineOf cs) := by
  rw [newlineOf]
  by_cases h : occurs ['\r', '\n'] cs = true
  · rw [if_pos h]
    exact Or.inr rfl
  · rw [if_neg h]
    exact Or.inl rfl

theorem IsNewline.blank {newline : List Char} (h : IsNewline newline) :
    ∀ c ∈ newline, isBlank c = true := by
  rcases h with rfl | rfl
  · exact List.forall_mem_singleton.2 (by decide)
  · exact List.forall_mem_cons.2 ⟨by decide, List.forall_mem_singleton.2 (by decide)⟩

/-- A terminator closes a text without line feeds. -/
theorem IsNewline.isClosed_append {newline : List Char} (h : IsNewline newline) {l : List Char}
    (hl : '\n' ∉ l) : IsClosed (l ++ newline) := by
  rcases h with rfl | rfl
  · exact ⟨l, hl, rfl⟩
  · refine ⟨l ++ ['\r'], ?_, by rw [List.append_assoc]; rfl⟩
    rw [List.mem_append, not_or]
    exact ⟨hl, by decide⟩

/-! ### Pairs at the ends of lines -/

/-- A line ended by a carriage return and a line feed. -/
def EndsInPair (l : List Char) : Prop := ['\r', '\n'] <:+ l

theorem EndsInPair.getLast? {l : List Char} (h : EndsInPair l) : l.getLast? = some '\n' := by
  obtain ⟨body, rfl⟩ := h
  rw [List.getLast?_append]
  rfl

/-- A line feed ends the line in which it stands. -/
theorem pair_infix_closed {l : List Char} (h : IsClosed l) :
    ['\r', '\n'] <:+: l ↔ EndsInPair l := by
  refine ⟨?_, List.IsSuffix.isInfix⟩
  rintro ⟨before, after, rfl⟩
  obtain ⟨body, hb, hl⟩ := h
  rcases List.eq_nil_or_concat after with rfl | ⟨after, c, rfl⟩
  · exact ⟨before, (List.append_nil _).symm⟩
  · -- otherwise the line feed stands in the body
    have hbody : body = before ++ ['\r', '\n'] ++ after := by
      rw [List.concat_eq_append, ← List.append_assoc] at hl
      exact (List.append_inj_left' hl rfl).symm
    refine absurd ?_ hb
    rw [hbody]
    simp

/-- **The pairs of a text are at the ends of its lines.** -/
theorem pair_infix_flatten {ls : List (List Char)} (h : IsCut ls) :
    ['\r', '\n'] <:+: ls.flatten ↔ ∃ l ∈ ls, EndsInPair l := by
  induction ls with
  | nil => simp
  | cons l ls ih =>
    by_cases hne : ls = []
    · subst hne
      rw [List.flatten_singleton]
      have hsingle : (∃ m ∈ [l], EndsInPair m) ↔ EndsInPair l := by simp
      rw [hsingle]
      rcases h with hl | hl
      · exact pair_infix_closed hl
      · refine ⟨fun hi => absurd (hi.subset ?_) hl.2, List.IsSuffix.isInfix⟩
        simp
    · obtain ⟨hl, hls⟩ := (isCut_cons hne).1 h
      have hsplit : (∃ m ∈ l :: ls, EndsInPair m) ↔ EndsInPair l ∨ ∃ m ∈ ls, EndsInPair m := by
        simp
      rw [List.flatten_cons, List.infix_append_iff_ne_nil, hsplit, pair_infix_closed hl, ih hls]
      refine or_congr Iff.rfl ⟨?_, Or.inl⟩
      rintro (hin | ⟨a, b, ha, hb, hab, hsuffix, -⟩)
      · exact hin
      · -- a closed line does not end in the carriage return alone
        obtain ⟨rfl, rfl⟩ : a = ['\r'] ∧ b = ['\n'] := by
          cases a with
          | nil => exact absurd rfl ha
          | cons c a =>
            cases a with
            | nil =>
              obtain ⟨rfl, rfl⟩ := List.cons.inj hab
              exact ⟨rfl, rfl⟩
            | cons d a =>
              have hlen := congrArg List.length hab
              have hpos := List.length_pos_iff.2 hb
              simp only [List.length_append, List.length_cons, List.length_nil] at hlen
              omega
        have hlast : l.getLast? = some '\r' := by
          obtain ⟨body, rfl⟩ := hsuffix
          rw [List.getLast?_append]
          rfl
        rw [hl.getLast?] at hlast
        exact absurd (Option.some.inj hlast) (by decide)

/-- **The terminator is decided by the lines.** -/
theorem newlineOf_flatten {ls : List (List Char)} (h : IsCut ls) :
    (∃ l ∈ ls, EndsInPair l) ∧ newlineOf ls.flatten = ['\r', '\n'] ∨
      (∀ l ∈ ls, ¬ EndsInPair l) ∧ newlineOf ls.flatten = ['\n'] := by
  rw [newlineOf]
  by_cases hp : ∃ l ∈ ls, EndsInPair l
  · left
    rw [if_pos (occurs_eq_true_iff.2 ((pair_infix_flatten h).2 hp))]
    exact ⟨hp, rfl⟩
  · right
    rw [if_neg fun ho => hp ((pair_infix_flatten h).1 (occurs_eq_true_iff.1 ho))]
    exact ⟨fun l hl hpl => hp ⟨l, hl, hpl⟩, rfl⟩

/-! ### Carriage returns without a line feed -/

/-- Every carriage return of a text has a line feed behind it. -/
def ReturnsPaired : List Char → Prop
  | [] => True
  | c :: cs => (c = '\r' → cs.head? = some '\n') ∧ ReturnsPaired cs

instance decidableReturnsPaired : (cs : List Char) → Decidable (ReturnsPaired cs)
  | [] => inferInstanceAs (Decidable True)
  | c :: cs =>
    have := decidableReturnsPaired cs
    inferInstanceAs (Decidable ((c = '\r' → cs.head? = some '\n') ∧ ReturnsPaired cs))

theorem ReturnsPaired.head? {before after : List Char}
    (h : ReturnsPaired (before ++ '\r' :: after)) : after.head? = some '\n' := by
  induction before with
  | nil => exact h.1 rfl
  | cons c before ih => exact ih h.2

/-- No line has a carriage return at its end. -/
def ReturnFree (ls : List (List Char)) : Prop := ∀ l ∈ ls, l.getLast? ≠ some '\r'

theorem returnFree_terminated {cs : List Char} (h : ReturnsPaired cs) :
    ReturnFree (terminated cs) := by
  intro l hl hlast
  have hcut := isCut_terminated cs
  -- such a line is open, so the text ends with it
  have ho : IsOpen l := by
    rcases hcut.closed_or_open hl with hc | ho
    · rw [hc.getLast?] at hlast
      exact absurd (Option.some.inj hlast) (by decide)
    · exact ho
  obtain ⟨i, hi, rfl⟩ := List.mem_iff_getElem.1 hl
  have hend := hcut.length_of_open (List.getElem?_eq_getElem hi) ho
  have htail : (terminated cs).drop i = [(terminated cs)[i]] := by
    rw [List.drop_eq_getElem_cons hi, hend, List.drop_length]
  obtain ⟨body, hbody⟩ := List.getLast?_eq_some_iff.1 hlast
  have htext : cs = (((terminated cs).take i).flatten ++ body) ++ '\r' :: [] := by
    have hsplit := congrArg List.flatten (List.take_append_drop i (terminated cs))
    rw [flatten_terminated, List.flatten_append, htail, List.flatten_singleton, hbody] at hsplit
    rw [List.append_assoc]
    exact hsplit.symm
  rw [htext] at h
  cases h.head?

theorem ReturnFree.sublist {ls ms : List (List Char)} (h : ReturnFree ls)
    (hs : ms.Sublist ls) : ReturnFree ms :=
  fun l hl => h l (hs.subset hl)

end HarnessRepair
