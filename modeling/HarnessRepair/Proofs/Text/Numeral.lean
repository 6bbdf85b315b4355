import HarnessRepair.Proofs.Text.Trim
import HarnessRepair.Text.Blank
import HarnessRepair.Text.Numeral
import Mathlib.Data.List.Basic

/-!
# Numbers in texts

A number that is written in decimal is read as itself, by itself and as the first
word of a text.  A text with a number in front of each line has the same lines.

## Main definitions

* `numberedLine` — a line under its number.

## Main results

* `unsigned?_toString` — **a word that is written is read as itself.**
* `head?_words_append` — the first word of a text that starts with one.
* `terminated_numbered` — **the lines of a text under numbers.**
-/

namespace HarnessRepair.Text

/-! ### Digits -/

theorem digit?_of_isDigit {c : Char} (h : c.isDigit = true) :
    digit? c = some (c.toNat - '0'.toNat) := by
  rw [Char.isDigit, Bool.and_eq_true, decide_eq_true_eq, decide_eq_true_eq] at h
  exact if_pos ⟨h.1, h.2⟩

/-- Digits are read as the library evaluates them. -/
theorem natOfDigitsFrom?_of_isDigit {cs : List Char} (h : ∀ c ∈ cs, c.isDigit = true)
    (acc : Nat) : natOfDigitsFrom? acc cs = some (Nat.ofDigitChars 10 cs acc) := by
  induction cs generalizing acc with
  | nil => rfl
  | cons c cs ih =>
    rw [natOfDigitsFrom?, digit?_of_isDigit (h c List.mem_cons_self), Option.bind_some,
      ih (fun d hd => h d (List.mem_cons_of_mem c hd)), Nat.ofDigitChars_cons, Nat.mul_comm acc]

theorem isDigit_of_mem_toString {n : Nat} {c : Char} (h : c ∈ (toString n).toList) :
    c.isDigit = true := by
  rw [Nat.toString_eq_repr, Nat.toList_repr] at h
  exact Nat.isDigit_of_mem_toDigits (by decide) (by decide) h

theorem toList_toString_ne_nil (n : Nat) : (toString n).toList ≠ [] := by
  rw [Nat.toString_eq_repr, Nat.toList_repr]
  exact Nat.toDigits_ne_nil

theorem natOfDigits?_toString (n : Nat) : natOfDigits? (toString n).toList = some n := by
  have hread := natOfDigitsFrom?_of_isDigit (fun _ => isDigit_of_mem_toString (n := n)) 0
  rw [natOfDigits?.eq_2 _ (toList_toString_ne_nil n), hread, Nat.toString_eq_repr,
    Nat.toList_repr, Nat.ofDigitChars_ten_toDigits]

/-- A larger number is not written with fewer digits. -/
theorem length_toString_le {m n : Nat} (h : m ≤ n) :
    (toString m).length ≤ (toString n).length := by
  have hpos : 0 < (toString n).length := Nat.length_repr_pos
  have hbelow : n < 10 ^ (toString n).length := (Nat.length_repr_le_iff hpos).1 (Nat.le_refl _)
  exact (Nat.length_repr_le_iff hpos).2 (Nat.lt_of_le_of_lt h hbelow)

/-- A number can be told from how it is written. -/
theorem toString_inj {m n : Nat} (h : (toString m).toList = (toString n).toList) : m = n := by
  have hread := natOfDigits?_toString m
  rw [h, natOfDigits?_toString] at hread
  exact (Option.some.inj hread).symm

/-- A number that is written is read as itself, if it is below the limit. -/
theorem unsigned?_toString_eq (limit n : Nat) :
    unsigned? limit (toString n) = (some n).filter (· < limit) := by
  rw [unsigned?]
  split
  · next cs heq =>
    -- a sign is not a digit
    have hsign : '+' ∈ (toString n).toList := heq ▸ List.mem_cons_self
    exact absurd (isDigit_of_mem_toString hsign) (by decide)
  · rw [natOfDigits?_toString]

/-- **A number below the limit that is written is read as itself.** -/
theorem unsigned?_toString {limit n : Nat} (h : n < limit) :
    unsigned? limit (toString n) = some n := by
  rw [unsigned?_toString_eq, Option.filter_some, if_pos (decide_eq_true h)]

/-- Any other is not read. -/
theorem unsigned?_toString_of_le {limit n : Nat} (h : limit ≤ n) :
    unsigned? limit (toString n) = none := by
  rw [unsigned?_toString_eq, Option.filter_some, if_neg (by simpa using h)]

/-! ### The first word -/

theorem isBlank_of_isDigit {c : Char} (h : c.isDigit = true) : isBlank c = false := by
  rw [Char.isDigit, Bool.and_eq_true, decide_eq_true_eq, decide_eq_true_eq] at h
  have hlow : 48 ≤ c.toNat := h.1
  have hhigh : c.toNat ≤ 57 := h.2
  simp only [isBlank, Bool.or_eq_false_iff, Bool.and_eq_false_iff, decide_eq_false_iff_not,
    beq_eq_false_iff_ne]
  omega

/-- A text that starts with a word and a blank has that word in front. -/
theorem head?_wordsOfChars_append {w : List Char} (hne : w ≠ [])
    (hw : ∀ c ∈ w, isBlank c = false) {b : Char} (hb : isBlank b = true) (rest : List Char) :
    (wordsOfChars (w ++ b :: rest)).head? = some w := by
  induction w with
  | nil => exact absurd rfl hne
  | cons c w ih =>
    have hc : ¬ isBlank c = true := by
      rw [hw c List.mem_cons_self]
      exact Bool.false_ne_true
    cases w with
    | nil =>
      rw [List.singleton_append, wordsOfChars, if_neg hc]
      rw [if_pos hb]
      rfl
    | cons d w =>
      have hd : ¬ isBlank d = true := by
        rw [hw d (List.mem_cons_of_mem c List.mem_cons_self)]
        exact Bool.false_ne_true
      have hhead := ih (List.cons_ne_nil d w) fun x hx => hw x (List.mem_cons_of_mem c hx)
      rw [List.cons_append, List.cons_append, wordsOfChars, if_neg hc]
      rw [if_neg hd]
      rw [List.cons_append] at hhead
      cases hwords : wordsOfChars (d :: (w ++ b :: rest)) with
      | nil =>
        rw [hwords] at hhead
        cases hhead
      | cons v vs =>
        rw [hwords] at hhead
        obtain rfl := Option.some.inj hhead
        rfl

theorem head?_words_append {w : String} (hne : w.toList ≠ [])
    (hw : ∀ c ∈ w.toList, isBlank c = false) {s : String} {b : Char} {rest : List Char}
    (hs : s.toList = w.toList ++ b :: rest) (hb : isBlank b = true) :
    (words s).head? = some w := by
  rw [words, List.head?_map, hs, head?_wordsOfChars_append hne hw hb, Option.map_some,
    String.ofList_toList]

/-! ### Lines under numbers -/

/-- One line of a text under its number, with the line feed that ends it. -/
def numberedLine (width n : Nat) (l : List Char) : List Char :=
  (padLeft width (toString n)).toList ++ ": ".toList ++ withoutTerminator l ++ ['\n']

/-- A line under its number is one line. -/
theorem isClosed_numberedLine (width n : Nat) {l : List Char} (h : IsClosed l ∨ IsOpen l) :
    IsClosed (numberedLine width n l) := by
  refine ⟨(padLeft width (toString n)).toList ++ ": ".toList ++ withoutTerminator l, ?_, rfl⟩
  rw [padLeft, String.toList_append, String.toList_ofList]
  simp only [List.mem_append, not_or]
  refine ⟨⟨⟨fun hpad => ?_, fun hdigit => ?_⟩, by decide⟩, newline_notMem_withoutTerminator h⟩
  · exact absurd (List.eq_of_mem_replicate hpad) (by decide)
  · exact absurd (isDigit_of_mem_toString hdigit) (by decide)

/-- What stands under a number is the line, whatever the number and the width are. -/
theorem numberedLine_inj {width width' n n' : Nat} {l l' : List Char}
    (h : numberedLine width n l = numberedLine width' n' l') :
    withoutTerminator l = withoutTerminator l' := by
  -- no colon stands in front of the one behind the number
  have hbehind : ∀ (width n : Nat) (l : List Char),
      (numberedLine width n l).dropWhile (· != ':') =
        ": ".toList ++ withoutTerminator l ++ ['\n'] := by
    intro width n l
    rw [numberedLine, List.append_assoc, List.append_assoc, List.dropWhile_append_of_pos]
    · rw [← List.append_assoc]
      rfl
    · intro c hc
      rw [padLeft, String.toList_append, String.toList_ofList, List.mem_append] at hc
      rcases hc with hpad | hdigit
      · rw [List.eq_of_mem_replicate hpad]
        rfl
      · rw [bne_iff_ne]
        rintro rfl
        exact absurd (isDigit_of_mem_toString hdigit) (by decide)
  have hsame := congrArg (List.dropWhile (· != ':')) h
  rw [hbehind, hbehind] at hsame
  exact List.append_cancel_left (List.append_cancel_right hsame)

/-- **Each line of a text stands under its number**, and these are the lines. -/
theorem terminated_numberedFrom (width : Nat) {ls : List (List Char)}
    (h : ∀ l ∈ ls, IsClosed l ∨ IsOpen l) (n : Nat) :
    terminated (numberedFrom width n ((ls.map withoutTerminator).map String.ofList)).toList =
      ls.mapIdx fun i l => numberedLine width (n + i) l := by
  induction ls generalizing n with
  | nil => rfl
  | cons l ls ih =>
    rw [List.forall_mem_cons] at h
    have hfirst : (numberedFrom width n
        (((l :: ls).map withoutTerminator).map String.ofList)).toList =
          numberedLine width n l ++
            (numberedFrom width (n + 1) ((ls.map withoutTerminator).map String.ofList)).toList := by
      rw [List.map_cons, List.map_cons, numberedFrom, numberedLine]
      simp only [String.toList_append, String.toList_ofList]
      rfl
    have hnext : (fun i l => numberedLine width (n + 1 + i) l) =
        fun i l => numberedLine width (n + (i + 1)) l := by
      funext i l
      rw [Nat.add_assoc, Nat.add_comm 1 i]
    rw [hfirst, terminated_append (isClosed_numberedLine width n h.1), ih h.2, List.mapIdx_cons,
      hnext]
    rfl

/-- So the lines of a text under numbers are its lines, each under its own. -/
theorem terminated_numbered (s : String) (first : Nat) :
    terminated (numbered s first).toList =
      (terminated s.toList).mapIdx fun i l =>
        numberedLine (toString (first + (lines s).length)).length (first + i) l :=
  terminated_numberedFrom _ (fun _ hl => (isCut_terminated s.toList).closed_or_open hl) first

end HarnessRepair.Text
