import HarnessRepair.Proofs.Patch.Placement
import HarnessRepair.Proofs.Patch.Weave

/-!
# The lines of a function around a block

A block of lines that hold no brace and define nothing leaves the functions of a text what
they are.  Their old lines stay their lines and take nothing else in, but for the block
itself, and that only if it stands between two lines of the function, or behind the last line
of a text in which the function has no end.

## Main definitions

* `LineOf` — the line with a number is one of the lines of a function.
* `Flat` — a block that holds no brace and does not define a function.
* `comesFrom` — the place among the old lines that a place among the new ones was.

## Main results

* `definesName_append_blanks`, `DefinesName.of_indented` — blanks at either end do not make a
  line a definition.
* `bracesBefore_insertAt` — **the braces are counted as without the block.**
* `FunctionSpan.insertAt` — where the function starts and ends then.
* `LineOf.of_moved`, `LineOf.of_block` — **which lines are its lines then.**
-/

namespace HarnessRepair

open Text

/-- The line with the number `n` is one of the lines of the function `name`. -/
def LineOf (name : List Char) (lines : List Line) (n : Nat) : Prop :=
  ∃ start stop, FunctionSpan name lines start stop ∧ start < n ∧ n ≤ stop

/-- A block that holds no brace, and in which no line defines the function `name`. -/
structure Flat (name : List Char) (block : List Line) : Prop where
  braceless : ∀ l ∈ block, '\x7b' ∉ l ∧ '\x7d' ∉ l
  undefining : ∀ l ∈ block, ¬ DefinesName name l

/-! ### Blanks around a line -/

section

variable {name : List Char} {l : Line}

theorem head?_call (name gap rest rest' : List Char) :
    (name ++ gap ++ '(' :: rest).head? = (name ++ gap ++ '(' :: rest').head? := by
  simp only [List.head?_append, List.head?_cons]

/-- Blanks behind a line do not matter. -/
theorem definesName_append_blanks {tail : List Char} (htail : ∀ c ∈ tail, isBlank c = true) :
    DefinesName name (l ++ tail) ↔ DefinesName name l := by
  rw [DefinesName, DefinesName, trimEndChars_append_blanks l htail]
  refine and_congr_left' ⟨?_, ?_⟩
  · rintro ⟨front, gap, rest, hsplit, hfront, hgap, hboundary⟩
    -- the parenthesis is no blank, so it stands before the tail
    obtain ⟨rest', rfl⟩ : ∃ rest', l = front ++ (name ++ gap ++ '(' :: rest') := by
      have hcut : l ++ tail = (front ++ (name ++ gap) ++ ['(']) ++ rest := by simp [hsplit]
      rcases List.append_eq_append_iff.1 hcut with ⟨more, hmore, rfl⟩ | ⟨rest', rfl, -⟩
      · rcases List.eq_nil_or_concat' more with rfl | ⟨init, c, rfl⟩
        · exact ⟨[], by simpa using hmore.symm⟩
        · rw [← List.append_assoc l] at hmore
          obtain ⟨-, hlast⟩ := List.append_inj' hmore rfl
          obtain rfl : '(' = c := by simpa using hlast
          exact absurd (htail '(' (by simp)) (by decide)
      · exact ⟨rest', by simp⟩
    rw [head?_call name gap rest rest'] at hboundary
    exact ⟨front, gap, rest', rfl, hfront, hgap, hboundary⟩
  · rintro ⟨front, gap, rest, rfl, hfront, hgap, hboundary⟩
    rw [head?_call name gap rest (rest ++ tail)] at hboundary
    exact ⟨front, gap, rest ++ tail, by simp, hfront, hgap, hboundary⟩

/-- A text that is trimmed at its end still is with something in front. -/
theorem trimEndChars_append {cs : List Char} (h : trimEndChars cs ≠ []) (front : List Char) :
    trimEndChars (front ++ cs) = front ++ trimEndChars cs := by
  induction front with
  | nil => rfl
  | cons c front ih =>
    rw [List.cons_append, trimEndChars, ih, List.cons_append]
    cases hkept : front ++ trimEndChars cs with
    | nil => exact absurd (List.append_eq_nil_iff.1 hkept).2 h
    | cons d ds => rfl

theorem not_isWordChar_of_indent {c : Char} (h : c = ' ' ∨ c = '\t') : isWordChar c = false := by
  rcases h with rfl | rfl
  · decide
  · decide

/-- Where a word may start behind an indentation, it may start without. -/
theorem isBoundary_indented {indent : List Char} (hi : ∀ c ∈ indent, c = ' ' ∨ c = '\t')
    (front : List Char) (after : Option Char) :
    isBoundary (indent ++ front).getLast? after = isBoundary front.getLast? after := by
  rw [isBoundary, isBoundary, List.getLast?_append]
  cases front.getLast? with
  | some c => rw [Option.some_or]
  | none =>
    rw [Option.none_or, Option.any_none]
    cases hlast : indent.getLast? with
    | none => rfl
    | some c => rw [Option.any_some, not_isWordChar_of_indent (hi c (List.mem_of_getLast? hlast))]

/-- A line that defines a function does so without its indentation. -/
theorem DefinesName.of_indented {indent : List Char} (hi : ∀ c ∈ indent, c = ' ' ∨ c = '\t')
    (h : DefinesName name (indent ++ l)) : DefinesName name l := by
  obtain ⟨⟨front, gap, rest, hsplit, hfront, hgap, hboundary⟩, hend⟩ := h
  constructor
  · -- no word starts within the indentation
    obtain ⟨front', rfl, rfl⟩ : ∃ front', front = indent ++ front' ∧
        l = front' ++ (name ++ gap ++ '(' :: rest) := by
      rcases List.append_eq_append_iff.1 hsplit with ⟨front', hf, hl⟩ | ⟨more, hin, hcall⟩
      · exact ⟨front', hf, hl⟩
      · cases more with
        | nil => exact ⟨[], by simpa using hin.symm, by simpa using hcall.symm⟩
        | cons c more =>
          have hc : c ∈ indent := by simp [hin]
          have hfront' : ∀ d ∈ front, d = ' ' ∨ d = '\t' := fun d hd => hi d (by simp [hin, hd])
          have hstart := isBoundary_indented hfront' [] (some c)
          rw [List.append_nil, List.getLast?_nil, isBoundary, isBoundary, Option.any_none,
            Option.any_some, not_isWordChar_of_indent (hi c hc)] at hstart
          rw [hcall, List.cons_append, List.head?_cons, isBoundary, Option.any_some,
            not_isWordChar_of_indent (hi c hc), hstart] at hboundary
          cases hboundary
    rw [isBoundary_indented hi] at hboundary
    exact ⟨front', gap, rest, rfl, fun c hc => hfront c (List.mem_append_right _ hc), hgap,
      hboundary⟩
  · intro hlast
    have hne : trimEndChars l ≠ [] := by
      intro hnil
      rw [hnil] at hlast
      cases hlast
    rw [trimEndChars_append hne, List.getLast?_append, hlast] at hend
    exact hend rfl

end

/-! ### Braces -/

theorem IsNewline.braceless {newline : List Char} (h : IsNewline newline) :
    '\x7b' ∉ newline ∧ '\x7d' ∉ newline := by
  rcases h with rfl | rfl
  · decide
  · decide

namespace BraceCount

theorem stepLine_of_braceless (b : BraceCount) {l : Line} (h : '\x7b' ∉ l ∧ '\x7d' ∉ l) :
    b.stepLine l = b := by
  rw [stepLine]
  induction l with
  | nil => rfl
  | cons c l ih =>
    simp only [List.mem_cons, not_or] at h
    rw [List.foldl_cons, step, if_neg (Ne.symm h.1.1), if_neg (Ne.symm h.2.1)]
    exact ih ⟨h.1.2, h.2.2⟩

/-- Ending a line opens and closes nothing. -/
theorem stepLine_terminate {newline : List Char} (hn : IsNewline newline) (b : BraceCount)
    (l : Line) : b.stepLine (terminate newline l) = b.stepLine l := by
  rcases terminate_eq newline l with ⟨heq, -⟩ | ⟨heq, -⟩
  · rw [heq]
  · rw [heq, stepLine, List.foldl_append]
    exact stepLine_of_braceless _ hn.braceless

end BraceCount

section

variable {newline : List Char} {block lines : List Line} {k : Nat}

theorem bracesBefore_of_le {start j : Nat} (h : j ≤ start) : bracesBefore lines start j = {} := by
  rw [bracesBefore, Nat.sub_eq_zero_of_le h, List.take_zero]
  rfl

/-- One more line. -/
theorem bracesBefore_succ {start j : Nat} (h : start ≤ j) :
    bracesBefore lines start (j + 1) =
      lines[j]?.toList.foldl BraceCount.stepLine (bracesBefore lines start j) := by
  rw [bracesBefore, Nat.succ_sub h, List.take_add_one, List.foldl_append, List.getElem?_drop,
    Nat.add_sub_cancel' h]
  rfl

/-- The place among the old lines that a place among the new ones was: within the block it is
the place of the block. -/
def comesFrom (k count j : Nat) : Nat := max (min j k) (j - count)

/-- **The braces are counted as without the block.** -/
theorem bracesBefore_insertAt (hn : IsNewline newline) (hk : k ≤ lines.length)
    (hblock : ∀ l ∈ block, '\x7b' ∉ l ∧ '\x7d' ∉ l) (start j : Nat) :
    bracesBefore (insertAt newline block k lines) (moved k block.length start) j =
      bracesBefore lines start (comesFrom k block.length j) := by
  induction j with
  | zero =>
    have hzero : comesFrom k block.length 0 = 0 := by simp [comesFrom]
    rw [hzero, bracesBefore_of_le (Nat.zero_le _), bracesBefore_of_le (Nat.zero_le _)]
  | succ j ih =>
    by_cases hstart : j + 1 ≤ moved k block.length start
    · have hle : comesFrom k block.length (j + 1) ≤ start := by
        unfold moved at hstart
        unfold comesFrom
        split at hstart <;> omega
      rw [bracesBefore_of_le hstart, bracesBefore_of_le hle]
    · have hge : moved k block.length start ≤ j := by omega
      rw [bracesBefore_succ hge, ih]
      -- the next line stands before the block, in it, or behind it
      by_cases hbefore : j < k
      · have hfrom : comesFrom k block.length j = j := by unfold comesFrom; omega
        have hfrom' : comesFrom k block.length (j + 1) = j + 1 := by unfold comesFrom; omega
        have hle : start ≤ j := by
          unfold moved at hge
          split at hge <;> omega
        rw [hfrom, hfrom', bracesBefore_succ hle, getElem?_insertAt_before hk hbefore]
        cases lines[j]? with
        | none => simp
        | some l =>
          split
          · simp [BraceCount.stepLine_terminate hn]
          · rfl
      · by_cases hwithin : j < k + block.length
        · have hfrom : comesFrom k block.length j = k := by unfold comesFrom; omega
          have hfrom' : comesFrom k block.length (j + 1) = k := by unfold comesFrom; omega
          obtain ⟨i, rfl⟩ := Nat.exists_eq_add_of_le (Nat.not_lt.1 hbefore)
          have hi : i < block.length := by omega
          rw [hfrom, hfrom', getElem?_insertAt_block hk hi, List.getElem?_eq_getElem hi]
          exact BraceCount.stepLine_of_braceless _ (hblock _ (List.getElem_mem hi))
        · have hlength : block.length ≤ j := by omega
          obtain ⟨i, rfl⟩ := Nat.exists_eq_add_of_le' hlength
          have hfrom : comesFrom k block.length (i + block.length) = i := by
            unfold comesFrom
            omega
          have hfrom' : comesFrom k block.length (i + block.length + 1) = i + 1 := by
            unfold comesFrom
            omega
          have hle : start ≤ i := by
            unfold moved at hge
            split at hge <;> omega
          rw [hfrom, hfrom', bracesBefore_succ hle, getElem?_insertAt_behind hk (by omega)]

/-- A line of the new text is one of the block, or an old one that has moved. -/
theorem lineAt?_insertAt_cases (hk : k ≤ lines.length) {n : Nat} {l : Line}
    (hl : lineAt? (insertAt newline block k lines) n = some l) :
    (k + 1 ≤ n ∧ n < k + 1 + block.length ∧ block[n - (k + 1)]? = some l) ∨
      ∃ m old, moved (k + 1) block.length m = n ∧ lineAt? lines m = some old ∧
        (l = old ∨ l = terminate newline old) := by
  obtain ⟨hpos, hle⟩ := lineAt?_bounds hl
  rw [length_insertAt hk] at hle
  have hold : ∀ m, 1 ≤ m → m ≤ lines.length → moved (k + 1) block.length m = n →
      ∃ old, lineAt? lines m = some old ∧ (l = old ∨ l = terminate newline old) := by
    intro m hm hmle hmoved
    obtain ⟨i, rfl⟩ := Nat.exists_eq_add_of_le' hm
    have hold : lineAt? lines (i + 1) = some lines[i] := List.getElem?_eq_getElem hmle
    obtain ⟨l', hl', hsame⟩ := lineAt?_insertAt_moved newline block hk hold
    rw [hmoved, hl] at hl'
    obtain rfl := Option.some.inj hl'
    exact ⟨lines[i], hold, hsame⟩
  by_cases hbefore : n < k + 1
  · refine Or.inr ⟨n, ?_⟩
    have hmoved : moved (k + 1) block.length n = n := by rw [moved, if_pos hbefore]
    obtain ⟨old, hold'⟩ := hold n hpos (by omega) hmoved
    exact ⟨old, hmoved, hold'⟩
  · by_cases hwithin : n < k + 1 + block.length
    · rw [lineAt?_insertAt_block hk (by omega) hwithin] at hl
      exact Or.inl ⟨by omega, hwithin, hl⟩
    · refine Or.inr ⟨n - block.length, ?_⟩
      have hmoved : moved (k + 1) block.length (n - block.length) = n := by
        rw [moved, if_neg (by omega)]
        omega
      obtain ⟨old, hold'⟩ := hold (n - block.length) (by omega) (by omega) hmoved
      exact ⟨old, hmoved, hold'⟩

end

/-! ### Where a function starts and ends -/

section

variable {name : List Char} {newline : List Char} {block lines : List Line} {start stop k n : Nat}

theorem definesName_terminate (hn : IsNewline newline) {l l' : Line}
    (h : l' = l ∨ l' = terminate newline l) : DefinesName name l' ↔ DefinesName name l := by
  rcases h with rfl | rfl
  · rfl
  · rcases terminate_eq newline l with ⟨heq, -⟩ | ⟨heq, -⟩
    · rw [heq]
    · rw [heq]
      exact definesName_append_blanks hn.blank

/-- A line that defines the function behind a flat block did so before. -/
theorem Flat.defined_before (hq : Flat name block) (hn : IsNewline newline)
    (hk : k ≤ lines.length) {l : Line} (hl : lineAt? (insertAt newline block k lines) n = some l)
    (hdefines : DefinesName name l) :
    ∃ m old, moved (k + 1) block.length m = n ∧ lineAt? lines m = some old ∧
      DefinesName name old := by
  rcases lineAt?_insertAt_cases hk hl with ⟨-, -, hblock⟩ | ⟨m, old, hmoved, hold, hsame⟩
  · exact absurd hdefines (hq.undefining l (List.mem_of_getElem? hblock))
  · exact ⟨m, old, hmoved, hold, (definesName_terminate hn hsame).1 hdefines⟩

/-- How far a function reaches that takes a block in unless it has been closed before. -/
theorem FunctionSpan.exists_stop (h : FunctionSpan name lines start stop)
    (hk : k ≤ lines.length) (count : Nat) :
    ∃ stop',
      (∀ j < stop', (bracesBefore lines start (comesFrom k count j)).isClosed = false) ∧
      (stop' = lines.length + count ∨
        (bracesBefore lines start (comesFrom k count stop')).isClosed = true) ∧
      (stop' = stop ∧ stop ≤ k ∨
        stop' = stop + count ∧ (k < stop ∨ k = stop ∧ stop = lines.length)) := by
  by_cases hafter : k < stop
  · refine ⟨stop + count, fun j hj => h.unclosed _ ?_, ?_, Or.inr ⟨rfl, Or.inl hafter⟩⟩
    · unfold comesFrom
      omega
    · have hfrom : comesFrom k count (stop + count) = stop := by
        unfold comesFrom
        omega
      rw [hfrom]
      exact h.closed.imp_left (congrArg (· + count))
  · by_cases hclosed : (bracesBefore lines start stop).isClosed = true
    · have hfrom : ∀ j ≤ stop, comesFrom k count j = j := by
        intro j hj
        unfold comesFrom
        omega
      refine ⟨stop, fun j hj => ?_, Or.inr ?_, Or.inl ⟨rfl, Nat.not_lt.1 hafter⟩⟩
      · rw [hfrom j hj.le]
        exact h.unclosed j hj
      · rw [hfrom stop (Nat.le_refl stop)]
        exact hclosed
    · -- the function has no end, so it takes the block in
      have hlast : stop = lines.length := h.closed.resolve_right hclosed
      have hplace : k = stop := by omega
      refine ⟨stop + count, fun j hj => ?_, Or.inl (by rw [hlast]),
        Or.inr ⟨rfl, Or.inr ⟨hplace, hlast⟩⟩⟩
      have hfrom : comesFrom k count j ≤ stop := by
        unfold comesFrom
        omega
      rcases Nat.lt_or_eq_of_le hfrom with hlt | heq
      · exact h.unclosed _ hlt
      · rw [heq]
        exact Bool.eq_false_iff.2 hclosed

/-- **Where a function starts and ends with a flat block in the text.** -/
theorem FunctionSpan.insertAt (h : FunctionSpan name lines start stop) (hn : IsNewline newline)
    (hk : k ≤ lines.length) (hq : Flat name block) :
    ∃ stop', FunctionSpan name (insertAt newline block k lines) (moved k block.length start) stop' ∧
      (stop' = stop ∧ stop ≤ k ∨
        stop' = stop + block.length ∧ (k < stop ∨ k = stop ∧ stop = lines.length)) := by
  have hcount := bracesBefore_insertAt hn hk hq.braceless start
  obtain ⟨hlt, hle⟩ := h.within
  obtain ⟨stop', hunclosed, hclosed, hend⟩ := h.exists_stop hk block.length
  obtain ⟨l, hl, hdefines⟩ := h.defined
  have hdefined : lineAt? lines (start + 1) = some l := hl
  obtain ⟨l', hl', hsame⟩ := lineAt?_insertAt_moved newline block hk hdefined
  have hmoved : moved (k + 1) block.length (start + 1) = moved k block.length start + 1 := by
    unfold moved
    split <;> split <;> omega
  rw [hmoved] at hl'
  refine ⟨stop', ⟨⟨l', hl', (definesName_terminate hn hsame).2 hdefines⟩, ?_, ?_, ?_, ?_⟩, hend⟩
  · intro j m hj hm hmdefines
    have hline : lineAt? (HarnessRepair.insertAt newline block k lines) (j + 1) = some m := hm
    obtain ⟨i, old, hi, hold, holddefines⟩ := hq.defined_before hn hk hline hmdefines
    obtain ⟨i, rfl⟩ := Nat.exists_eq_add_of_le' (lineAt?_bounds hold).1
    refine h.first i old ?_ hold holddefines
    unfold moved at hi hj
    split at hi <;> split at hj <;> omega
  · intro j hj
    rw [hcount]
    exact hunclosed j hj
  · rw [length_insertAt hk]
    unfold moved
    split <;> omega
  · rw [length_insertAt hk, hcount]
    exact hclosed

/-- Behind a flat block there is a function only where there was one before. -/
theorem LineOf.exists_span (h : LineOf name (insertAt newline block k lines) n)
    (hn : IsNewline newline) (hk : k ≤ lines.length) (hq : Flat name block) :
    ∃ start stop stop', FunctionSpan name lines start stop ∧
      moved k block.length start < n ∧ n ≤ stop' ∧
      (stop' = stop ∧ stop ≤ k ∨
        stop' = stop + block.length ∧ (k < stop ∨ k = stop ∧ stop = lines.length)) := by
  obtain ⟨start', stop'', hspan', hgt, hle⟩ := h
  obtain ⟨l, hl, hdefines⟩ := hspan'.defined
  have hline : lineAt? (insertAt newline block k lines) (start' + 1) = some l := hl
  obtain ⟨m, old, -, hold, hdefines'⟩ := hq.defined_before hn hk hline hdefines
  cases hfound : functionSpan? lines name with
  | none =>
    obtain ⟨i, rfl⟩ := Nat.exists_eq_add_of_le' (lineAt?_bounds hold).1
    exact absurd hdefines' (functionSpan?_eq_none_iff.1 hfound old (List.mem_of_getElem? hold))
  | some found =>
    have hspan := functionSpan?_eq_some_iff.1 hfound
    obtain ⟨stop', hspan'', hend⟩ := hspan.insertAt hn hk hq
    obtain ⟨rfl, rfl⟩ := hspan'.unique hspan''
    exact ⟨found.1, found.2, _, hspan, hgt, hle, hend⟩

/-- **No old line becomes a line of the function.** -/
theorem LineOf.of_moved (hn : IsNewline newline) (hk : k ≤ lines.length) (hq : Flat name block)
    (h : LineOf name (insertAt newline block k lines) (moved (k + 1) block.length n)) :
    LineOf name lines n := by
  obtain ⟨start, stop, stop', hspan, hgt, hle, hend⟩ := h.exists_span hn hk hq
  refine ⟨start, stop, hspan, ?_, ?_⟩
  · unfold moved at hgt
    split at hgt <;> split at hgt <;> omega
  · unfold moved at hle
    split at hle <;> omega

/-- **A block is part of the function only where the line before it is, and the line behind it
if there is one.** -/
theorem LineOf.of_block (hn : IsNewline newline) (hk : k ≤ lines.length) (hq : Flat name block)
    (h : LineOf name (insertAt newline block k lines) n) (hge : k + 1 ≤ n)
    (hlt : n < k + 1 + block.length) :
    LineOf name lines k ∧ (LineOf name lines (k + 1) ∨ k = lines.length) := by
  obtain ⟨start, stop, stop', hspan, hgt, hle, hend⟩ := h.exists_span hn hk hq
  have hstart : start < k := by
    unfold moved at hgt
    split at hgt <;> omega
  refine ⟨⟨start, stop, hspan, hstart, by omega⟩, ?_⟩
  by_cases hafter : k < stop
  · exact Or.inl ⟨start, stop, hspan, by omega, hafter⟩
  · exact Or.inr (by omega)

end

end HarnessRepair
