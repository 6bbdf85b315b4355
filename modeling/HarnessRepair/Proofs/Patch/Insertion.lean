import HarnessRepair.Proofs.Text.Newline
import HarnessRepair.Proofs.Text.Trim

/-!
# What inserting a patch does to the lines

However a patch finds its place, it puts one block of lines somewhere between the
lines of the text, and at most ends the line in front of the block.  Everything
else that is proved about patches follows from where the old lines and the lines
of the block are afterwards.

## Main results

* `insertPatch_eq_ok` — a patch that fits is one block at one place.
* `getElem?_insertAt_before`, `_block`, `_behind` — **where the lines are then.**
* `isCut_insertAt` — they are the lines of the new text.
* `newlineOf_insertAt` — the new text asks for the same terminator.
* `sublist_insertAt` — no character is taken away.
-/

namespace HarnessRepair

open Text

/-! ### Finding the place -/

theorem findInSpan?_lt {needle : List Char} {start i : Nat} {span : List Line}
    (h : findInSpan? needle start span = some i) : i < start + span.length := by
  rw [findInSpan?] at h
  by_cases hn : needle.isEmpty = true
  · rw [if_pos hn] at h
    cases h
  · rw [if_neg hn, Option.map_eq_some_iff] at h
    obtain ⟨j, hj, rfl⟩ := h
    have hlt := (List.findIdx?_eq_some_iff_getElem.1 hj).1
    omega

/-- Statements go behind the anchor line or before it, so not past the span. -/
theorem anchorAt?_le {a : Anchor} {start anchor line : Nat} {span : List Line}
    (h : anchorAt? a start span = some (anchor, line)) : line ≤ start + span.length := by
  rw [anchorAt?] at h
  cases hp : findInSpan? (squash a.previousLine.toList) start span with
  | some i =>
    rw [hp] at h
    have hlt := findInSpan?_lt hp
    obtain rfl : i + 1 = line := congrArg Prod.snd (Option.some.inj h)
    omega
  | none =>
    rw [hp] at h
    dsimp only at h
    rw [Option.map_eq_some_iff] at h
    obtain ⟨i, hi, heq⟩ := h
    have hlt := findInSpan?_lt hi
    obtain rfl : i = line := congrArg Prod.snd heq
    omega

theorem functionSpan?_lt {lines : List Line} {name : List Char} {start stop : Nat}
    (h : functionSpan? lines name = some (start, stop)) : start < lines.length := by
  rw [functionSpan?, Option.map_eq_some_iff] at h
  obtain ⟨i, hi, heq⟩ := h
  obtain rfl : i = start := congrArg Prod.fst heq
  exact (List.findIdx?_eq_some_iff_getElem.1 hi).1

/-- An indentation consists of blanks. -/
theorem mem_indentOf {line : Line} {c : Char} (h : c ∈ indentOf line) : c = ' ' ∨ c = '\t' := by
  have hall := List.all_eq_true.1 (List.all_takeWhile (l := line)
    (p := fun c => c == ' ' || c == '\t')) c h
  simpa using hall

theorem isBlank_of_indent {c : Char} (h : c = ' ' ∨ c = '\t') : isBlank c = true := by
  rcases h with rfl | rfl
  · decide
  · decide

/-- A patch that fits has found its function and its anchor line. -/
theorem insertPatch_eq_ok_placed {newline : List Char} {lines out : List Line} {p : Patch}
    {line : Nat} (h : insertPatch newline lines p = .ok (out, line)) :
    ∃ start stop i k, functionSpan? lines p.anchor.functionName.toList = some (start, stop) ∧
      anchorAt? p.anchor start ((lines.drop start).take (stop - start)) = some (i, k) ∧
      line = k + 1 ∧ out = insertAt newline
        (blockOf (indentOf (lines.getD i [])) newline (statementLines p.statement)) k lines := by
  unfold insertPatch at h
  dsimp only at h
  split at h
  · cases h
  · next start stop hspan =>
    split at h
    · cases h
    · split at h
      · cases h
      · next i k hanchor =>
        injection h with h
        obtain ⟨rfl, rfl⟩ := Prod.mk.inj h
        exact ⟨start, stop, i, k, hspan, hanchor, rfl, rfl⟩

/-- **A patch that fits is one block at one place.** -/
theorem insertPatch_eq_ok {newline : List Char} {lines out : List Line} {p : Patch} {line : Nat}
    (h : insertPatch newline lines p = .ok (out, line)) :
    ∃ k indent, k ≤ lines.length ∧ (∀ c ∈ indent, c = ' ' ∨ c = '\t') ∧ line = k + 1 ∧
      out = insertAt newline (blockOf indent newline (statementLines p.statement)) k lines := by
  obtain ⟨start, stop, i, k, hspan, hanchor, rfl, rfl⟩ := insertPatch_eq_ok_placed h
  refine ⟨k, indentOf (lines.getD i []), ?_, fun c hc => mem_indentOf hc, rfl, rfl⟩
  have hle := anchorAt?_le hanchor
  have hlt := functionSpan?_lt hspan
  rw [List.length_take, List.length_drop] at hle
  omega

/-! ### The block -/

/-- The lines of a block are ended, and trimmed they are the statement lines. -/
theorem mem_blockOf {indent newline : List Char} (hn : IsNewline newline)
    (hi : ∀ c ∈ indent, c = ' ' ∨ c = '\t') {statement : String} {l : Line}
    (hl : l ∈ blockOf indent newline (statementLines statement)) :
    IsClosed l ∧ trimChars l ∈ statementLines statement := by
  rw [blockOf, List.mem_map] at hl
  obtain ⟨s, hs, rfl⟩ := hl
  have hblank : ∀ c ∈ indent, isBlank c = true := fun c hc => isBlank_of_indent (hi c hc)
  constructor
  · refine hn.isClosed_append ?_
    rw [List.mem_append, not_or]
    refine ⟨fun hmem => ?_, newline_notMem_of_mem_statementLines hs⟩
    rcases hi _ hmem with h | h
    · exact absurd h (by decide)
    · exact absurd h (by decide)
  · rw [trimChars_blanks (mem_statementLines hs).1 (isTrimmed_of_mem_statementLines hs) hblank
      hn.blank]
    exact hs

theorem length_blockOf (indent newline : List Char) (statements : List (List Char)) :
    (blockOf indent newline statements).length = statements.length := List.length_map _

/-- A line of a block ends in a pair exactly if its terminator is one. -/
theorem endsInPair_of_mem_blockOf {indent : List Char} {statement : String} {l : Line}
    (hl : l ∈ blockOf indent ['\n'] (statementLines statement)) : ¬ EndsInPair l := by
  rw [blockOf, List.mem_map] at hl
  obtain ⟨s, hs, rfl⟩ := hl
  rintro ⟨body, hbody⟩
  -- the carriage return would be the last character of the statement, and it is blank
  have hpair : ['\r', '\n'] = ['\r'] ++ ['\n'] := rfl
  rw [hpair, ← List.append_assoc] at hbody
  have hend := List.append_inj_left' hbody rfl
  have hlast : s.getLast? = some '\r' := by
    have h := congrArg List.getLast? hend
    rw [List.getLast?_concat, List.getLast?_append] at h
    cases hg : s.getLast? with
    | none => exact absurd (List.getLast?_eq_none_iff.1 hg) (mem_statementLines hs).1
    | some c =>
      rw [hg] at h
      exact h.symm
  have hblank := (isTrimmed_of_mem_statementLines hs).2 '\r' hlast
  exact absurd hblank (by decide)

/-! ### Ending the line in front -/

theorem terminate_eq (newline : List Char) (l : Line) :
    terminate newline l = l ∧ l.getLast? = some '\n' ∨
      terminate newline l = l ++ newline ∧ l.getLast? ≠ some '\n' := by
  rw [terminate]
  by_cases h : l.getLast? = some '\n'
  · rw [if_pos h]
    exact Or.inl ⟨rfl, h⟩
  · rw [if_neg h]
    exact Or.inr ⟨rfl, h⟩

theorem isClosed_terminate {newline : List Char} (hn : IsNewline newline) {l : Line}
    (hl : IsClosed l ∨ IsOpen l) : IsClosed (terminate newline l) := by
  rcases hl with hc | ho
  · rw [terminate_of_getLast? hc.getLast?]
    exact hc
  · rw [terminate, if_neg ho.getLast?_ne]
    exact hn.isClosed_append ho.2

theorem terminateLast_nil (newline : List Char) : terminateLast newline [] = [] := rfl

theorem terminateLast_concat (newline : List Char) (ls : List Line) (l : Line) :
    terminateLast newline (ls ++ [l]) = ls ++ [terminate newline l] := by
  rw [terminateLast, List.getLast?_concat, List.dropLast_concat]

theorem length_terminateLast (newline : List Char) (ls : List Line) :
    (terminateLast newline ls).length = ls.length := by
  rcases List.eq_nil_or_concat ls with rfl | ⟨init, l, rfl⟩
  · rfl
  · rw [List.concat_eq_append, terminateLast_concat, List.length_append, List.length_append,
      List.length_singleton, List.length_singleton]

theorem closed_terminateLast {newline : List Char} (hn : IsNewline newline) {ls : List Line}
    (h : IsCut ls) : ∀ l ∈ terminateLast newline ls, IsClosed l := by
  rcases List.eq_nil_or_concat ls with rfl | ⟨init, l, rfl⟩
  · intro l hl
    cases hl
  · rw [List.concat_eq_append] at h ⊢
    rw [terminateLast_concat, List.forall_mem_append, List.forall_mem_singleton]
    obtain ⟨hinit, hl⟩ := (isCut_append_iff (List.cons_ne_nil l [])).1 h
    exact ⟨hinit, isClosed_terminate hn hl⟩

theorem sublist_terminateLast (newline : List Char) (ls : List Line) :
    ls.flatten.Sublist (terminateLast newline ls).flatten := by
  rcases List.eq_nil_or_concat ls with rfl | ⟨init, l, rfl⟩
  · exact List.Sublist.refl _
  · rw [List.concat_eq_append, terminateLast_concat, List.flatten_append, List.flatten_append,
      List.flatten_singleton, List.flatten_singleton]
    refine (List.Sublist.refl _).append ?_
    rcases terminate_eq newline l with ⟨h, -⟩ | ⟨h, -⟩
    · rw [h]
    · rw [h]
      exact List.sublist_append_left l newline

theorem getElem?_terminateLast (newline : List Char) (ls : List Line) (i : Nat) :
    (terminateLast newline ls)[i]? =
      if i + 1 = ls.length then ls[i]?.map (terminate newline) else ls[i]? := by
  rcases List.eq_nil_or_concat ls with rfl | ⟨init, l, rfl⟩
  · rw [terminateLast_nil, List.getElem?_nil]
    by_cases h : i + 1 = ([] : List Line).length
    · rw [if_pos h]
      rfl
    · rw [if_neg h]
  · rw [List.concat_eq_append, terminateLast_concat, List.length_append, List.length_singleton]
    by_cases h : i + 1 = init.length + 1
    · obtain rfl : i = init.length := by omega
      rw [if_pos h, List.getElem?_concat_length, List.getElem?_concat_length]
      rfl
    · rw [if_neg h]
      by_cases hi : i < init.length
      · rw [List.getElem?_append_left hi, List.getElem?_append_left hi]
      · rw [List.getElem?_eq_none (by simp; omega), List.getElem?_eq_none (by simp; omega)]

/-! ### Where the lines are -/

variable {newline : List Char} {block lines : List Line} {k : Nat}

theorem length_insertAt (hk : k ≤ lines.length) :
    (insertAt newline block k lines).length = lines.length + block.length := by
  rw [insertAt, List.length_append, List.length_append, length_terminateLast, List.length_take,
    List.length_drop]
  omega

theorem getElem?_insertAt_before (hk : k ≤ lines.length) {i : Nat} (hi : i < k) :
    (insertAt newline block k lines)[i]? =
      if i + 1 = k then lines[i]?.map (terminate newline) else lines[i]? := by
  have hlen : (terminateLast newline (lines.take k)).length = k := by
    rw [length_terminateLast, List.length_take]
    omega
  rw [insertAt, List.append_assoc, List.getElem?_append_left (by omega), getElem?_terminateLast,
    ← length_terminateLast newline, hlen, List.getElem?_take_of_lt hi]

theorem getElem?_insertAt_block (hk : k ≤ lines.length) {i : Nat} (hi : i < block.length) :
    (insertAt newline block k lines)[k + i]? = block[i]? := by
  have hlen : (terminateLast newline (lines.take k)).length = k := by
    rw [length_terminateLast, List.length_take]
    omega
  rw [insertAt, List.append_assoc, List.getElem?_append_right (by omega), hlen,
    Nat.add_sub_cancel_left, List.getElem?_append_left hi]

theorem getElem?_insertAt_behind (hk : k ≤ lines.length) {i : Nat} (hi : k ≤ i) :
    (insertAt newline block k lines)[i + block.length]? = lines[i]? := by
  have hlen : (terminateLast newline (lines.take k) ++ block).length = k + block.length := by
    rw [List.length_append, length_terminateLast, List.length_take]
    omega
  rw [insertAt, List.getElem?_append_right (by omega), hlen, List.getElem?_drop]
  congr 1
  omega

/-! ### The new text -/

/-- The lines are the lines of the new text. -/
theorem isCut_insertAt (hn : IsNewline newline) (hb : ∀ l ∈ block, IsClosed l)
    (h : IsCut lines) : IsCut (insertAt newline block k lines) := by
  rw [insertAt]
  refine isCut_append ?_ (h.drop k)
  rw [List.forall_mem_append]
  exact ⟨closed_terminateLast hn (h.take k), hb⟩

/-- Inserting takes no character away. -/
theorem sublist_insertAt (newline : List Char) (block lines : List Line) (k : Nat) :
    lines.flatten.Sublist (insertAt newline block k lines).flatten := by
  have hsplit := congrArg List.flatten (List.take_append_drop k lines)
  rw [List.flatten_append] at hsplit
  rw [insertAt, List.flatten_append, List.flatten_append, ← hsplit]
  refine List.Sublist.append ?_ (List.Sublist.refl _)
  exact (sublist_terminateLast newline _).trans (List.sublist_append_left _ _)

/-- No line is left with a carriage return at its end. -/
theorem returnFree_insertAt (hn : IsNewline newline) (hb : ∀ l ∈ block, IsClosed l)
    (h : IsCut lines) (hr : ReturnFree lines) :
    ReturnFree (insertAt newline block k lines) := by
  have hclosed : ∀ l, IsClosed l → l.getLast? ≠ some '\r' := by
    intro l hl hlast
    rw [hl.getLast?] at hlast
    exact absurd (Option.some.inj hlast) (by decide)
  intro l hl
  rw [insertAt, List.mem_append, List.mem_append] at hl
  rcases hl with (hl | hl) | hl
  · exact hclosed l (closed_terminateLast hn (h.take k) l hl)
  · exact hclosed l (hb l hl)
  · exact hr l (List.mem_of_mem_drop hl)

/-- A line ended by a pair stays as it is. -/
theorem endsInPair_insertAt {l : Line} (hl : l ∈ lines) (hp : EndsInPair l) :
    l ∈ insertAt newline block k lines := by
  rw [← List.take_append_drop k lines, List.mem_append] at hl
  rw [insertAt, List.mem_append, List.mem_append]
  rcases hl with hl | hl
  · refine Or.inl (Or.inl ?_)
    rcases List.eq_nil_or_concat (lines.take k) with heq | ⟨init, m, heq⟩
    · rw [heq] at hl
      cases hl
    · rw [heq, List.concat_eq_append] at hl ⊢
      rw [terminateLast_concat]
      rcases List.mem_append.1 hl with hl | hl
      · exact List.mem_append_left _ hl
      · obtain rfl := List.mem_singleton.1 hl
        rw [terminate_of_getLast? hp.getLast?]
        exact List.mem_append_right _ (List.mem_singleton_self l)
  · exact Or.inr hl

/-- Where no line is ended by a pair, and none has a carriage return at its end, line
feeds make no pair. -/
theorem not_endsInPair_insertAt (hr : ReturnFree lines) (hp : ∀ l ∈ lines, ¬ EndsInPair l)
    (hb : ∀ l ∈ block, ¬ EndsInPair l) :
    ∀ l ∈ insertAt ['\n'] block k lines, ¬ EndsInPair l := by
  have hterminate : ∀ l ∈ lines, ¬ EndsInPair (terminate ['\n'] l) := by
    intro l hl
    rcases terminate_eq ['\n'] l with ⟨heq, -⟩ | ⟨heq, -⟩
    · rw [heq]
      exact hp l hl
    · rw [heq]
      rintro ⟨body, hbody⟩
      have hpair : ['\r', '\n'] = ['\r'] ++ ['\n'] := rfl
      rw [hpair, ← List.append_assoc] at hbody
      have hend := List.append_inj_left' hbody rfl
      exact hr l hl (by rw [← hend, List.getLast?_concat])
  intro l hl
  rw [insertAt, List.mem_append, List.mem_append] at hl
  rcases hl with (hl | hl) | hl
  · rcases List.eq_nil_or_concat (lines.take k) with heq | ⟨init, m, heq⟩
    · rw [heq] at hl
      cases hl
    · have hmem : ∀ x ∈ init ++ [m], x ∈ lines := by
        intro x hx
        rw [← List.concat_eq_append, ← heq] at hx
        exact List.mem_of_mem_take hx
      rw [List.forall_mem_append, List.forall_mem_singleton] at hmem
      rw [heq, List.concat_eq_append, terminateLast_concat] at hl
      rcases List.mem_append.1 hl with hl | hl
      · exact hp l (hmem.1 l hl)
      · rw [List.mem_singleton.1 hl]
        exact hterminate m hmem.2
  · exact hb l hl
  · exact hp l (List.mem_of_mem_drop hl)

/-- **The new text asks for the terminator of the old one.** -/
theorem newlineOf_insertAt {indent : List Char} {statement : String}
    (hi : ∀ c ∈ indent, c = ' ' ∨ c = '\t') (hn : newline = newlineOf lines.flatten)
    (h : IsCut lines) (hr : ReturnFree lines) :
    newlineOf (insertAt newline
      (blockOf indent newline (statementLines statement)) k lines).flatten = newline := by
  have hnewline : IsNewline newline := hn ▸ isNewline_newlineOf _
  have hcut : IsCut (insertAt newline
      (blockOf indent newline (statementLines statement)) k lines) :=
    isCut_insertAt hnewline (fun l hl => (mem_blockOf hnewline hi hl).1) h
  rcases newlineOf_flatten h with ⟨⟨l, hl, hp⟩, heq⟩ | ⟨hnone, heq⟩
  · -- a line with a pair is there still
    rcases newlineOf_flatten hcut with ⟨-, hout⟩ | ⟨hout, -⟩
    · rw [hout, hn, heq]
    · exact absurd hp (hout l (endsInPair_insertAt hl hp))
  · rw [heq] at hn
    subst hn
    rcases newlineOf_flatten hcut with ⟨⟨l, hl, hp⟩, -⟩ | ⟨-, hout⟩
    · exact absurd hp (not_endsInPair_insertAt hr hnone
        (fun l hl => endsInPair_of_mem_blockOf hl) l hl)
    · exact hout

end HarnessRepair
