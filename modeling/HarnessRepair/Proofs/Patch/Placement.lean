import HarnessRepair.Proofs.Patch.Body

/-!
# Where a patch fits, and why it does not

Three questions decide on a patch, in this order: whether its function is defined,
whether one of its statements stands in the lines of the function already, and whether
one of these lines is the one that its anchor speaks of.  They are put here without
the program: what a definition looks like, how far a function reaches, and which line
of it an anchor means.

## Main definitions

* `DefinesName` — a line that defines a function.
* `FunctionSpan` — the lines of a function.
* `Repeats` — a statement that stands in the lines of a function.
* `Misfit` — why a patch does not fit, in the order in which the questions are asked.
* `Fits` — the lines of the function, the anchor line and the place of a patch that fits.

## Main results

* `definesFunction_eq_true_iff`, `functionSpan?_eq_some_iff` — **the program finds these
  definitions and these lines.**
* `insertPatch_eq_error_iff`, `insertPatch_eq_ok_iff` — **it refuses the patches that do
  not fit, and puts the others where they fit.**
* `fits_or_misfit` — every patch is one or the other.
-/

namespace HarnessRepair

open Text

/-! ### Definitions of functions -/

/-- A line that defines the function `name`: behind nothing but words, blanks and
asterisks the name starts on a word boundary, blanks and an opening parenthesis follow,
and the line does not end in a semicolon. -/
def DefinesName (name : List Char) (line : Line) : Prop :=
  (∃ front gap rest, line = front ++ (name ++ gap ++ '(' :: rest) ∧
    (∀ c ∈ front, mayPrecedeName c = true) ∧ (∀ c ∈ gap, isBlank c = true) ∧
    isBoundary front.getLast? (name ++ gap ++ '(' :: rest).head? = true) ∧
  (trimEndChars line).getLast? ≠ some ';'

theorem head?_trimStartChars_iff {c : Char} (hc : isBlank c = false) (cs : List Char) :
    (trimStartChars cs).head? = some c ↔
      ∃ gap rest, cs = gap ++ c :: rest ∧ ∀ d ∈ gap, isBlank d = true := by
  constructor
  · intro h
    obtain ⟨rest, hrest⟩ := List.head?_eq_some_iff.1 h
    refine ⟨cs.takeWhile isBlank, rest, ?_, fun d hd => List.mem_takeWhile_imp hd⟩
    rw [← hrest, trimStartChars, List.takeWhile_append_dropWhile]
  · rintro ⟨gap, rest, rfl, hgap⟩
    rw [trimStartChars, List.dropWhile_append_of_pos hgap,
      List.dropWhile_cons_of_neg (by rw [hc]; exact Bool.false_ne_true), List.head?_cons]

theorem startsCall_eq_true_iff {name cs : List Char} :
    startsCall name cs = true ↔
      ∃ gap rest, cs = name ++ gap ++ '(' :: rest ∧ ∀ c ∈ gap, isBlank c = true := by
  rw [startsCall]
  cases hstrip : stripPrefix? name cs with
  | none =>
    refine iff_of_false Bool.false_ne_true ?_
    rintro ⟨gap, rest, rfl, -⟩
    rw [List.append_assoc, stripPrefix?_eq_some_iff.2 rfl] at hstrip
    cases hstrip
  | some rest =>
    obtain rfl := stripPrefix?_eq_some_iff.1 hstrip
    dsimp only
    rw [beq_iff_eq, head?_trimStartChars_iff (by decide)]
    simp only [List.append_assoc, List.append_cancel_left_eq]

/-- What stands in front of the rest of a text, once its first character is passed. -/
theorem getLast?_cons_or (c : Char) (front : List Char) (before : Option Char) :
    (c :: front).getLast?.or before = front.getLast?.or (some c) := by
  rw [List.getLast?_cons, Option.some_or]
  cases front.getLast? with
  | none => rfl
  | some d => rfl

/-- The name may be looked for behind any characters that may precede it. -/
theorem definesFrom_eq_true_iff {name : List Char} {before : Option Char} {cs : List Char} :
    definesFrom name before cs = true ↔
      ∃ front tail, cs = front ++ tail ∧ (∀ c ∈ front, mayPrecedeName c = true) ∧
        startsCall name tail = true ∧ isBoundary (front.getLast?.or before) tail.head? = true := by
  induction cs generalizing before with
  | nil =>
    rw [definesFrom, Bool.and_eq_true]
    constructor
    · rintro ⟨hboundary, hcall⟩
      exact ⟨[], [], rfl, nofun, hcall, hboundary⟩
    · rintro ⟨front, tail, hcs, -, hcall, hboundary⟩
      obtain ⟨rfl, rfl⟩ := List.append_eq_nil_iff.1 hcs.symm
      exact ⟨hboundary, hcall⟩
  | cons c cs ih =>
    rw [definesFrom, Bool.or_eq_true, Bool.and_eq_true, Bool.and_eq_true, ih]
    constructor
    · rintro (⟨hboundary, hcall⟩ | ⟨hc, front, tail, rfl, hfront, hcall, hboundary⟩)
      · exact ⟨[], c :: cs, rfl, nofun, hcall, hboundary⟩
      · refine ⟨c :: front, tail, rfl, List.forall_mem_cons.2 ⟨hc, hfront⟩, hcall, ?_⟩
        rw [getLast?_cons_or]
        exact hboundary
    · rintro ⟨front, tail, hcs, hfront, hcall, hboundary⟩
      cases front with
      | nil =>
        obtain rfl : c :: cs = tail := hcs
        exact Or.inl ⟨hboundary, hcall⟩
      | cons d front =>
        obtain ⟨rfl, rfl⟩ := List.cons.inj hcs
        obtain ⟨hc, hfront⟩ := List.forall_mem_cons.1 hfront
        rw [getLast?_cons_or] at hboundary
        exact Or.inr ⟨hc, front, tail, rfl, hfront, hcall, hboundary⟩

/-- **A line is taken for a definition exactly if it looks like one.** -/
theorem definesFunction_eq_true_iff {name : List Char} {line : Line} :
    definesFunction name line = true ↔ DefinesName name line := by
  rw [definesFunction, Bool.and_eq_true, bne_iff_ne, definesFrom_eq_true_iff, DefinesName]
  refine and_congr ?_ Iff.rfl
  constructor
  · rintro ⟨front, tail, rfl, hfront, hcall, hboundary⟩
    obtain ⟨gap, rest, rfl, hgap⟩ := startsCall_eq_true_iff.1 hcall
    rw [Option.or_none] at hboundary
    exact ⟨front, gap, rest, rfl, hfront, hgap, hboundary⟩
  · rintro ⟨front, gap, rest, rfl, hfront, hgap, hboundary⟩
    refine ⟨front, _, rfl, hfront, startsCall_eq_true_iff.2 ⟨gap, rest, rfl, hgap⟩, ?_⟩
    rw [Option.or_none]
    exact hboundary

instance (name : List Char) (line : Line) : Decidable (DefinesName name line) :=
  decidable_of_iff _ definesFunction_eq_true_iff

/-! ### The lines of a function -/

/-- The lines of the function `name`, from `start` to before `stop`: from the first line
that defines it to the first that closes all braces opened since, or to the end of the
text if there is none. -/
structure FunctionSpan (name : List Char) (lines : List Line) (start stop : Nat) : Prop where
  defined : ∃ l, lines[start]? = some l ∧ DefinesName name l
  first : ∀ j l, j < start → lines[j]? = some l → ¬ DefinesName name l
  unclosed : ∀ j < stop, (bracesBefore lines start j).isClosed = false
  within : start < stop ∧ stop ≤ lines.length
  closed : stop = lines.length ∨ (bracesBefore lines start stop).isClosed = true

section

variable {name : List Char} {lines : List Line} {start stop : Nat}

/-- A text has the lines of a function in one place only. -/
theorem FunctionSpan.unique {start' stop' : Nat} (h : FunctionSpan name lines start stop)
    (h' : FunctionSpan name lines start' stop') : start = start' ∧ stop = stop' := by
  obtain ⟨l, hl, hdefines⟩ := h.defined
  obtain ⟨l', hl', hdefines'⟩ := h'.defined
  have hstart : start = start' := by
    rcases Nat.lt_trichotomy start start' with hlt | heq | hlt
    · exact absurd hdefines (h'.first start l hlt hl)
    · exact heq
    · exact absurd hdefines' (h.first start' l' hlt hl')
  subst hstart
  refine ⟨rfl, ?_⟩
  -- where one of them ends, the other has not been closed
  have hends : ∀ {a b : Nat}, FunctionSpan name lines start a → FunctionSpan name lines start b →
      ¬ a < b := by
    intro a b ha hb hlt
    rcases ha.closed with hend | hclosed
    · have := hb.within.2
      omega
    · rw [hb.unclosed a hlt] at hclosed
      cases hclosed
  have hle := hends h h'
  have hge := hends h' h
  omega

/-- The lines that are counted reach to where the braces close, or to the end. -/
theorem isClosed_spanLength (b : BraceCount) (ls : List Line) :
    spanLength b ls = ls.length ∨
      ((ls.take (spanLength b ls)).foldl BraceCount.stepLine b).isClosed = true := by
  induction ls generalizing b with
  | nil => exact Or.inl rfl
  | cons l ls ih =>
    rw [spanLength]
    by_cases hclosed : (b.stepLine l).isClosed = true
    · rw [if_pos hclosed]
      exact Or.inr hclosed
    · rw [if_neg hclosed, List.length_cons, List.take_succ_cons, List.foldl_cons]
      exact (ih (b.stepLine l)).imp_left (congrArg (· + 1))

theorem functionSpan_of_functionSpan? (h : functionSpan? lines name = some (start, stop)) :
    FunctionSpan name lines start stop := by
  obtain ⟨hlt, hle, hunclosed⟩ := functionSpan?_spec h
  rw [functionSpan?, Option.map_eq_some_iff] at h
  obtain ⟨i, hi, heq⟩ := h
  obtain ⟨rfl, rfl⟩ := Prod.mk.inj heq
  obtain ⟨hilt, hdefines, hfirst⟩ := List.findIdx?_eq_some_iff_getElem.1 hi
  refine ⟨⟨lines[i], List.getElem?_eq_getElem hilt, definesFunction_eq_true_iff.1 hdefines⟩,
    ?_, hunclosed, ⟨hlt, hle⟩, ?_⟩
  · intro j l hj hl hdefines
    refine hfirst j hj ?_
    rw [(List.getElem?_eq_some_iff.1 hl).2]
    exact definesFunction_eq_true_iff.2 hdefines
  · rcases isClosed_spanLength {} (lines.drop i) with hall | hclosed
    · left
      rw [hall, List.length_drop]
      omega
    · right
      rw [bracesBefore, Nat.add_sub_cancel_left]
      exact hclosed

/-- Where no line defines a function, it has no lines. -/
theorem functionSpan?_eq_none_iff :
    functionSpan? lines name = none ↔ ∀ l ∈ lines, ¬ DefinesName name l := by
  rw [functionSpan?, Option.map_eq_none_iff, List.findIdx?_eq_none_iff]
  refine forall₂_congr fun l _ => ?_
  rw [← definesFunction_eq_true_iff, Bool.not_eq_true]

/-- **The lines that are found are those of the function.** -/
theorem functionSpan?_eq_some_iff :
    functionSpan? lines name = some (start, stop) ↔ FunctionSpan name lines start stop := by
  refine ⟨functionSpan_of_functionSpan?, fun h => ?_⟩
  cases hfound : functionSpan? lines name with
  | none =>
    obtain ⟨l, hl, hdefines⟩ := h.defined
    exact absurd hdefines (functionSpan?_eq_none_iff.1 hfound l (List.mem_of_getElem? hl))
  | some found =>
    obtain ⟨hstart, hstop⟩ := h.unique (functionSpan_of_functionSpan? hfound)
    rw [hstart, hstop]

end

/-! ### Statements and anchors -/

/-- A statement stands in the lines from `start` to before `stop`, if blanks do not count. -/
def Repeats (lines : List Line) (start stop : Nat) (statement : List Char) : Prop :=
  ∃ j l, start ≤ j ∧ j < stop ∧ lines[j]? = some l ∧ squash l = squash statement

section

variable {lines : List Line} {start stop i k : Nat} {statements : List (List Char)}

theorem any_squash_eq_true_iff {s : List Char} :
    (((lines.drop start).take (stop - start)).any fun l => squash l == squash s) = true ↔
      Repeats lines start stop s := by
  rw [List.any_eq_true]
  constructor
  · rintro ⟨l, hl, hsame⟩
    obtain ⟨j, hge, hlt, hj⟩ := mem_span_iff.1 hl
    exact ⟨j, l, hge, hlt, hj, beq_iff_eq.1 hsame⟩
  · rintro ⟨j, l, hge, hlt, hj, hsame⟩
    exact ⟨l, mem_span_iff.2 ⟨j, hge, hlt, hj⟩, beq_iff_eq.2 hsame⟩

theorem duplicate?_eq_none_iff :
    duplicate? ((lines.drop start).take (stop - start)) statements = none ↔
      ∀ s ∈ statements, ¬ Repeats lines start stop s := by
  rw [duplicate?, List.find?_eq_none]
  exact forall₂_congr fun s _ => not_congr any_squash_eq_true_iff

theorem duplicate?_eq_some_iff {s : List Char} :
    duplicate? ((lines.drop start).take (stop - start)) statements = some s ↔
      ∃ before after, statements = before ++ s :: after ∧
        (∀ r ∈ before, ¬ Repeats lines start stop r) ∧ Repeats lines start stop s := by
  rw [duplicate?, List.find?_eq_some_iff_append, any_squash_eq_true_iff]
  constructor
  · rintro ⟨hrepeats, before, after, hsplit, hbefore⟩
    refine ⟨before, after, hsplit, fun r hr hrep => ?_, hrepeats⟩
    have hnot := hbefore r hr
    rw [any_squash_eq_true_iff.2 hrep] at hnot
    cases hnot
  · rintro ⟨before, after, hsplit, hbefore, hrepeats⟩
    refine ⟨hrepeats, before, after, hsplit, fun r hr => ?_⟩
    rw [Bool.not_eq_true', Bool.eq_false_iff, Ne, any_squash_eq_true_iff]
    exact hbefore r hr

/-- No line of a function is one that its anchor speaks of. -/
theorem anchorAt?_eq_none_iff {a : Anchor} :
    anchorAt? a start ((lines.drop start).take (stop - start)) = none ↔
      ∀ j l, start ≤ j → j < stop → lines[j]? = some l →
        ¬ Mentions a.previousLine l ∧ ¬ Mentions a.nextLine l := by
  rw [anchorAt?]
  cases hprevious : findInSpan? (squash a.previousLine.toList) start
      ((lines.drop start).take (stop - start)) with
  | some j =>
    refine iff_of_false (Option.some_ne_none _) fun h => ?_
    obtain ⟨⟨hge, hlt⟩, ⟨l, hl, hmentions⟩, -⟩ := firstMention_of_findInSpan? hprevious
    exact (h j l hge hlt hl).1 hmentions
  | none =>
    dsimp only
    rw [Option.map_eq_none_iff]
    constructor
    · intro hnext j l hge hlt hl
      exact ⟨not_mentions_of_findInSpan? hprevious hge hlt hl,
        not_mentions_of_findInSpan? hnext hge hlt hl⟩
    · intro h
      cases hnext : findInSpan? (squash a.nextLine.toList) start
          ((lines.drop start).take (stop - start)) with
      | none => rfl
      | some j =>
        obtain ⟨⟨hge, hlt⟩, ⟨l, hl, hmentions⟩, -⟩ := firstMention_of_findInSpan? hnext
        exact absurd hmentions (h j l hge hlt hl).2

/-- There is one line at most that is the first to hold a text. -/
theorem FirstMention.unique {text : String} {i' : Nat} (h : FirstMention text lines start stop i)
    (h' : FirstMention text lines start stop i') : i = i' := by
  obtain ⟨l, hl, hmentions⟩ := h.mentioned
  obtain ⟨l', hl', hmentions'⟩ := h'.mentioned
  rcases Nat.lt_trichotomy i i' with hlt | heq | hlt
  · exact absurd hmentions (h'.first i l h.within.1 hlt hl)
  · exact heq
  · exact absurd hmentions' (h.first i' l' h'.within.1 hlt hl')

/-- An anchor leads to one place at most. -/
theorem Anchor.Leads.unique {a : Anchor} {i' k' : Nat} (h : a.Leads lines start stop i k)
    (h' : a.Leads lines start stop i' k') : i = i' ∧ k = k' := by
  cases h' with
  | behind hfirst => exact h.eq_of_firstMention hfirst
  | before hnone' hfirst' =>
    cases h with
    | behind hfirst =>
      obtain ⟨l, hl, hmentions⟩ := hfirst.mentioned
      exact absurd hmentions (hnone' _ l hfirst.within.1 hfirst.within.2 hl)
    | before _ hfirst =>
      have heq := hfirst.unique hfirst'
      exact ⟨heq, heq⟩

/-- The anchor line is one of the lines of the function. -/
theorem Anchor.Leads.within {a : Anchor} (h : a.Leads lines start stop i k) :
    start ≤ i ∧ i < stop := by
  cases h with
  | behind hfirst => exact hfirst.within
  | before _ hfirst => exact hfirst.within

/-- The place lies before the anchor line or behind it. -/
theorem Anchor.Leads.place {a : Anchor} (h : a.Leads lines start stop i k) :
    k = i ∨ k = i + 1 := by
  cases h with
  | behind => exact Or.inr rfl
  | before => exact Or.inl rfl

/-- The anchor line speaks of what the anchor does. -/
theorem Anchor.Leads.mentioned {a : Anchor} (h : a.Leads lines start stop i k) :
    ∃ l, lines[i]? = some l ∧ (Mentions a.previousLine l ∨ Mentions a.nextLine l) := by
  cases h with
  | behind hfirst =>
    obtain ⟨l, hl, hmentions⟩ := hfirst.mentioned
    exact ⟨l, hl, Or.inl hmentions⟩
  | before _ hfirst =>
    obtain ⟨l, hl, hmentions⟩ := hfirst.mentioned
    exact ⟨l, hl, Or.inr hmentions⟩

end

/-! ### Patches -/

/-- Why a patch does not fit into some lines: its function is not defined; or it is, and
the first of its statements that stand in the lines of the function is this one; or none
does, and no line of the function is one that the anchor speaks of. -/
inductive Misfit (p : Patch) (lines : List Line) : PatchError → Prop
  | undefined : (∀ l ∈ lines, ¬ DefinesName p.anchor.functionName.toList l) →
      Misfit p lines (.functionNotFound p.anchor.functionName)
  | repeated {start stop : Nat} {before : List (List Char)} {s : List Char}
      {after : List (List Char)} :
      FunctionSpan p.anchor.functionName.toList lines start stop →
      statementLines p.statement = before ++ s :: after →
      (∀ r ∈ before, ¬ Repeats lines start stop r) → Repeats lines start stop s →
      Misfit p lines (.duplicate (String.ofList s))
  | astray {start stop : Nat} : FunctionSpan p.anchor.functionName.toList lines start stop →
      (∀ s ∈ statementLines p.statement, ¬ Repeats lines start stop s) →
      (∀ j l, start ≤ j → j < stop → lines[j]? = some l →
        ¬ Mentions p.anchor.previousLine l ∧ ¬ Mentions p.anchor.nextLine l) →
      Misfit p lines (.anchorNotFound p.anchor.functionName p.anchor.previousLine
        p.anchor.nextLine)

/-- A patch fits into some lines: the lines `start` to before `stop` are those of its
function, they hold none of its statements, and its anchor leads to the line `i` and to the
place before the line `k`. -/
structure Fits (p : Patch) (lines : List Line) (start stop i k : Nat) : Prop where
  span : FunctionSpan p.anchor.functionName.toList lines start stop
  fresh : ∀ s ∈ statementLines p.statement, ¬ Repeats lines start stop s
  leads : p.anchor.Leads lines start stop i k

section

variable {newline : List Char} {lines out : List Line} {p : Patch} {line : Nat}

/-- A patch fits in one place at most. -/
theorem Fits.unique {start stop i k start' stop' i' k' : Nat} (h : Fits p lines start stop i k)
    (h' : Fits p lines start' stop' i' k') :
    start = start' ∧ stop = stop' ∧ i = i' ∧ k = k' := by
  obtain ⟨rfl, rfl⟩ := h.span.unique h'.span
  obtain ⟨rfl, rfl⟩ := h.leads.unique h'.leads
  exact ⟨rfl, rfl, rfl, rfl⟩

/-- A patch that fits is put in its place. -/
theorem insertPatch_of_fits {start stop i k : Nat} (h : Fits p lines start stop i k) :
    insertPatch newline lines p = .ok (insertAt newline
      (blockOf (indentOf (lines.getD i [])) newline (statementLines p.statement)) k lines,
        k + 1) := by
  obtain ⟨hspan, hfresh, hleads⟩ := h
  have hanchor : anchorAt? p.anchor start ((lines.drop start).take (stop - start)) =
      some (i, k) := by
    cases hfound : anchorAt? p.anchor start ((lines.drop start).take (stop - start)) with
    | none =>
      obtain ⟨l, hl, hmentions⟩ := hleads.mentioned
      obtain ⟨hge, hlt⟩ := hleads.within
      obtain ⟨hprevious, hnext⟩ := anchorAt?_eq_none_iff.1 hfound i l hge hlt hl
      exact (hmentions.elim hprevious hnext).elim
    | some found =>
      obtain ⟨hi, hk⟩ := hleads.unique (leads_of_anchorAt? hfound)
      rw [hi, hk]
  rw [insertPatch, functionSpan?_eq_some_iff.2 hspan]
  dsimp only
  rw [duplicate?_eq_none_iff.2 hfresh]
  dsimp only
  rw [hanchor]

/-- A patch that does not fit is refused, and the refusal says why. -/
theorem insertPatch_of_misfit {e : PatchError} (h : Misfit p lines e) :
    insertPatch newline lines p = .error e := by
  rw [insertPatch]
  dsimp only
  cases h with
  | undefined hnone => rw [functionSpan?_eq_none_iff.2 hnone]
  | repeated hspan hsplit hbefore hrepeats =>
    rw [functionSpan?_eq_some_iff.2 hspan]
    dsimp only
    rw [duplicate?_eq_some_iff.2 ⟨_, _, hsplit, hbefore, hrepeats⟩]
  | astray hspan hfresh hnone =>
    rw [functionSpan?_eq_some_iff.2 hspan]
    dsimp only
    rw [duplicate?_eq_none_iff.2 hfresh]
    dsimp only
    rw [anchorAt?_eq_none_iff.2 hnone]

/-- **Every patch fits, or there is a reason why it does not.** -/
theorem fits_or_misfit (p : Patch) (lines : List Line) :
    (∃ start stop i k, Fits p lines start stop i k) ∨ ∃ e, Misfit p lines e := by
  cases hspan : functionSpan? lines p.anchor.functionName.toList with
  | none => exact Or.inr ⟨_, .undefined (functionSpan?_eq_none_iff.1 hspan)⟩
  | some span =>
    obtain ⟨start, stop⟩ := span
    have hspan := functionSpan?_eq_some_iff.1 hspan
    cases hduplicate : duplicate? ((lines.drop start).take (stop - start))
        (statementLines p.statement) with
    | some s =>
      obtain ⟨before, after, hsplit, hbefore, hrepeats⟩ := duplicate?_eq_some_iff.1 hduplicate
      exact Or.inr ⟨_, .repeated hspan hsplit hbefore hrepeats⟩
    | none =>
      have hfresh := duplicate?_eq_none_iff.1 hduplicate
      cases hanchor : anchorAt? p.anchor start ((lines.drop start).take (stop - start)) with
      | none => exact Or.inr ⟨_, .astray hspan hfresh (anchorAt?_eq_none_iff.1 hanchor)⟩
      | some place =>
        exact Or.inl ⟨start, stop, place.1, place.2, hspan, hfresh, leads_of_anchorAt? hanchor⟩

/-- **Exactly the patches that fit are put in, each in its place.** -/
theorem insertPatch_eq_ok_iff :
    insertPatch newline lines p = .ok (out, line) ↔
      ∃ start stop i k, Fits p lines start stop i k ∧ line = k + 1 ∧ out = insertAt newline
        (blockOf (indentOf (lines.getD i [])) newline (statementLines p.statement)) k lines := by
  constructor
  · intro h
    rcases fits_or_misfit p lines with ⟨start, stop, i, k, hfits⟩ | ⟨e, hmisfit⟩
    · rw [insertPatch_of_fits hfits] at h
      obtain ⟨rfl, rfl⟩ := Prod.mk.inj (Except.ok.inj h)
      exact ⟨start, stop, i, k, hfits, rfl, rfl⟩
    · rw [insertPatch_of_misfit hmisfit] at h
      cases h
  · rintro ⟨start, stop, i, k, hfits, rfl, rfl⟩
    exact insertPatch_of_fits hfits

/-- **Exactly the patches that do not fit are refused, and the refusal says why.** -/
theorem insertPatch_eq_error_iff {e : PatchError} :
    insertPatch newline lines p = .error e ↔ Misfit p lines e := by
  refine ⟨fun h => ?_, insertPatch_of_misfit⟩
  rcases fits_or_misfit p lines with ⟨start, stop, i, k, hfits⟩ | ⟨e', hmisfit⟩
  · rw [insertPatch_of_fits hfits] at h
    cases h
  · rw [insertPatch_of_misfit hmisfit] at h
    rwa [← Except.error.inj h]

end

end HarnessRepair
