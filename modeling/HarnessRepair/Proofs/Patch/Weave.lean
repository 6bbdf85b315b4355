import HarnessRepair.Proofs.Patch.Growth
import HarnessRepair.Proofs.Patch.LineMap

/-!
# Old lines and inserted lines

The text with patches is woven from the lines of the text without them and from
the lines of the patches.  The numbers of the latter are kept; they say where each
old line has gone.

## Main definitions

* `lineAt?` — the line with a number.
* `Woven` — old lines stand where the line map puts them, and statements of the
  log in between.

## Main results

* `lineAt?_insertAt_moved`, `lineAt?_insertAt_block` — where a block puts the lines.
* `Woven.add` — **a patch keeps a text woven.**
* `Grown.woven` — so do any number of changes.
-/

namespace HarnessRepair

open Text

/-- The line with a number; the first line has the number 1. -/
def lineAt? (ls : List Line) : Nat → Option Line
  | 0 => none
  | n + 1 => ls[n]?

theorem lineAt?_of_pos (ls : List Line) {n : Nat} (h : 1 ≤ n) : lineAt? ls n = ls[n - 1]? := by
  obtain ⟨m, rfl⟩ := Nat.exists_eq_add_of_le' h
  rfl

theorem lineAt?_bounds {ls : List Line} {n : Nat} {l : Line} (h : lineAt? ls n = some l) :
    1 ≤ n ∧ n ≤ ls.length := by
  cases n with
  | zero => cases h
  | succ n =>
    obtain ⟨hlt, -⟩ := List.getElem?_eq_some_iff.1 h
    omega

theorem exists_lineAt? (ls : List Line) {n : Nat} (hpos : 1 ≤ n) (hle : n ≤ ls.length) :
    ∃ l, lineAt? ls n = some l := by
  rw [lineAt?_of_pos ls hpos]
  exact ⟨_, List.getElem?_eq_getElem (by omega)⟩

theorem mem_of_lineAt? {ls : List Line} {n : Nat} {l : Line} (h : lineAt? ls n = some l) :
    l ∈ ls := by
  rw [lineAt?_of_pos ls (lineAt?_bounds h).1] at h
  exact List.mem_of_getElem? h

/-! ### Where a block puts the lines -/

variable {newline : List Char} {block lines : List Line} {k : Nat}

/-- A line in front of a block stays, and may be ended; a line behind it moves. -/
theorem lineAt?_insertAt_moved (newline : List Char) (block : List Line)
    (hk : k ≤ lines.length) {n : Nat} {l : Line} (hl : lineAt? lines n = some l) :
    ∃ m, lineAt? (insertAt newline block k lines) (moved (k + 1) block.length n) = some m ∧
      (m = l ∨ m = terminate newline l) := by
  obtain ⟨hpos, hle⟩ := lineAt?_bounds hl
  obtain ⟨i, rfl⟩ := Nat.exists_eq_add_of_le' hpos
  have hi : lines[i]? = some l := hl
  rw [moved]
  by_cases h : i + 1 < k + 1
  · rw [if_pos h, lineAt?, getElem?_insertAt_before hk (by omega), hi]
    by_cases hlast : i + 1 = k
    · rw [if_pos hlast]
      exact ⟨_, rfl, Or.inr rfl⟩
    · rw [if_neg hlast]
      exact ⟨_, rfl, Or.inl rfl⟩
  · have hnext : i + 1 + block.length = i + block.length + 1 := by omega
    rw [if_neg h, hnext, lineAt?, getElem?_insertAt_behind hk (by omega)]
    exact ⟨l, hi, Or.inl rfl⟩

/-- The lines of a block stand in a row. -/
theorem lineAt?_insertAt_block (hk : k ≤ lines.length) {n : Nat} (hge : k + 1 ≤ n)
    (hlt : n < k + 1 + block.length) :
    lineAt? (insertAt newline block k lines) n = block[n - (k + 1)]? := by
  obtain ⟨i, rfl⟩ := Nat.exists_eq_add_of_le hge
  have hnext : k + 1 + i = k + i + 1 := by omega
  rw [Nat.add_sub_cancel_left, hnext, lineAt?, getElem?_insertAt_block hk (by omega)]

/-! ### Woven lines -/

/-- A line that carries an old line: it may have been ended since, if it was not. -/
def Carries (old l : Line) : Prop :=
  ∃ tail, l = old ++ tail ∧ (tail = [] ∨ IsOpen old ∧ IsNewline tail)

theorem Carries.refl (l : Line) : Carries l l := ⟨[], (List.append_nil l).symm, Or.inl rfl⟩

/-- A line stays a carrier when it is ended. -/
theorem Carries.terminate {old l : Line} (hn : IsNewline newline) (hold : IsClosed old ∨ IsOpen old)
    (h : Carries old l) : Carries old (terminate newline l) := by
  obtain ⟨tail, rfl, htail⟩ := h
  rcases terminate_eq newline (old ++ tail) with ⟨heq, -⟩ | ⟨heq, hne⟩
  · rw [heq]
    exact ⟨tail, rfl, htail⟩
  · rw [heq]
    rcases htail with rfl | ⟨ho, htail⟩
    · -- the line has not been ended yet
      rw [List.append_nil] at hne ⊢
      refine ⟨newline, rfl, Or.inr ⟨?_, hn⟩⟩
      rcases hold with hc | ho
      · exact absurd hc.getLast? hne
      · exact ho
    · exact absurd (htail.isClosed_append ho.2).getLast? hne

/-- Lines woven from those of `base` and from statements of the log. -/
structure Woven (base : List Line) (d : Draft) : Prop where
  cut : IsCut d.lines
  ascending : Ascending d.inserted
  within : ∀ i ∈ d.inserted, 1 ≤ i ∧ i ≤ d.lines.length
  length_eq : d.lines.length = base.length + d.inserted.length
  /-- Every old line stands where the line map puts it. -/
  carried : ∀ c old, lineAt? base c = some old →
    ∃ l, lineAt? d.lines (placeOf d.inserted c) = some l ∧ Carries old l
  /-- Every inserted line is a statement line of a patch in the log. -/
  statements : ∀ i ∈ d.inserted, ∃ l, lineAt? d.lines i = some l ∧
    ∃ a ∈ d.log, trimChars l ∈ statementLines a.patch.statement

/-- Lines without patches. -/
theorem woven_base {base : List Line} (h : IsCut base) : Woven base ⟨base, [], []⟩ where
  cut := h
  ascending := List.Pairwise.nil
  within := fun i hi => by cases hi
  length_eq := rfl
  carried := fun c old hold => ⟨old, hold, Carries.refl old⟩
  statements := fun i hi => by cases hi

/-- **A patch keeps a text woven.** -/
theorem Woven.add {base : List Line} (hbase : IsCut base) (hn : IsNewline newline) {d e : Draft}
    {p : Patch} (hd : Woven base d) (h : d.add newline p = .ok e) : Woven base e := by
  have hcut := Draft.isCut_add hn hd.cut h
  obtain ⟨k, indent, hk, hi, -, hlines, hlog, hinserted⟩ := Draft.add_eq_ok h
  have hlen := length_blockOf indent newline (statementLines p.statement)
  -- from here on the block is only its length and what stands in it
  have hblock : ∀ l ∈ blockOf indent newline (statementLines p.statement),
      trimChars l ∈ statementLines p.statement := fun l hl => (mem_blockOf hn hi hl).2
  revert hblock hlen hlines
  generalize blockOf indent newline (statementLines p.statement) = block
  intro hlines hlen hblock
  rw [← hlen] at hinserted
  have hlength : e.lines.length = d.lines.length + block.length := by
    rw [hlines, length_insertAt hk]
  have hold : ∀ old n, lineAt? base n = some old → IsClosed old ∨ IsOpen old :=
    fun old n hn => hbase.closed_or_open (mem_of_lineAt? hn)
  refine
    { cut := hcut
      ascending := hinserted ▸ ascending_shiftInserted hd.ascending _ _
      within := ?_
      length_eq := ?_
      carried := ?_
      statements := ?_ }
  · intro i hi
    rw [hinserted, mem_shiftInserted hd.ascending] at hi
    rcases hi with ⟨hi, -⟩ | ⟨hge, hlt⟩ | ⟨j, hj, -, rfl⟩
    · have := hd.within i hi
      omega
    · omega
    · have := hd.within j hj
      omega
  · rw [hlength, hinserted, length_shiftInserted, hd.length_eq]
    omega
  · intro c old hc
    obtain ⟨l, hl, hcarries⟩ := hd.carried c old hc
    obtain ⟨m, hm, hml⟩ := lineAt?_insertAt_moved newline block hk hl
    rw [hinserted, placeOf_shiftInserted hd.ascending, hlines]
    refine ⟨m, hm, ?_⟩
    rcases hml with rfl | rfl
    · exact hcarries
    · exact hcarries.terminate hn (hold old c hc)
  · intro i hi
    rw [hinserted, mem_shiftInserted hd.ascending] at hi
    rw [hlines, hlog]
    have hearlier : ∀ j ∈ d.inserted, ∃ l,
        lineAt? (insertAt newline block k d.lines) (moved (k + 1) block.length j) = some l ∧
          ∃ a ∈ d.log ++ [⟨p, k + 1⟩], trimChars l ∈ statementLines a.patch.statement := by
      intro j hj
      obtain ⟨l, hl, a, ha, hs⟩ := hd.statements j hj
      obtain ⟨m, hm, hml⟩ := lineAt?_insertAt_moved newline block hk hl
      refine ⟨m, hm, a, List.mem_append_left _ ha, ?_⟩
      rcases hml with rfl | rfl
      · exact hs
      · rcases terminate_eq newline l with ⟨heq, -⟩ | ⟨heq, -⟩
        · rwa [heq]
        · rwa [heq, trimChars_append_blanks l hn.blank]
    rcases hi with ⟨hi, hlt⟩ | ⟨hge, hlt⟩ | ⟨j, hj, hge, rfl⟩
    · have := hearlier i hi
      rwa [moved, if_pos hlt] at this
    · rw [lineAt?_insertAt_block hk hge hlt]
      have hb : i - (k + 1) < block.length := by omega
      refine ⟨block[i - (k + 1)], List.getElem?_eq_getElem hb, ⟨p, k + 1⟩,
        List.mem_append_right _ (List.mem_singleton_self _), ?_⟩
      exact hblock _ (List.getElem_mem hb)
    · have := hearlier j hj
      rwa [moved, if_neg (by omega)] at this

/-- **Any number of changes keep a text woven.** -/
theorem Grown.woven {base : String} {changes : List (List Patch)} {s : Snapshot}
    (h : Grown { source := base } changes s) : Woven (terminated base.toList) s.draft := by
  have hbase := isCut_terminated base.toList
  induction h with
  | start => exact woven_base hbase
  | more _ hext ih =>
    refine Draft.addAll_induct (P := Woven (terminated base.toList)) ?_
      (Snapshot.draft_extend hext) ih
    exact fun d p e hd hadd => hd.add hbase (isNewline_newlineOf _) hadd

end HarnessRepair
