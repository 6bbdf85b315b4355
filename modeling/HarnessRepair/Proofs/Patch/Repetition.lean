import HarnessRepair.Proofs.Patch.Exact
import HarnessRepair.Proofs.Patch.Places
import HarnessRepair.Proofs.Patch.Spans

/-!
# Whether a statement comes twice into a function

The statements of a patch are looked for in the lines of its function, as they are when
the patch is put in.  So no patch brings what is there already, be it from the harness or
from an earlier patch of the same change.  But a patch is not compared with itself: a text
that holds a statement twice is put in as it is.

That apart, every statement of a change is the only line of its kind in its function, as
long as the functions stay what they are: no statement opens or closes a body or defines
a function that the change names, and these functions have no line in common.

## Main definitions

* `Unrepeated` — no statement that has been put into a function stands in it twice.
* `Tidy` — a change that leaves the functions what they are, and no text of which holds a
  statement twice.

## Main results

* `Kept.add`, `Kept.addAll` — **what one patch keeps, and what a change keeps.**
* `run_applyAll_unrepeated` — **a change that would repeat a statement is refused, and a
  tidy one repeats none.**
* `not_unrepeated_doubled` — a text that holds a statement twice.
-/

namespace HarnessRepair

open Text

/-! ### What lines say -/

theorem squash_of_blanks {cs : List Char} (h : ∀ c ∈ cs, isBlank c = true) : squash cs = [] := by
  rw [squash, List.filter_eq_nil_iff]
  simpa using h

section

variable {newline : List Char} {block lines : List Line} {k : Nat}

theorem squash_eq_of_terminate (hn : IsNewline newline) {l l' : Line}
    (h : l' = l ∨ l' = terminate newline l) : squash l' = squash l := by
  rcases h with rfl | rfl
  · rfl
  · rcases terminate_eq newline l with ⟨heq, -⟩ | ⟨heq, -⟩
    · rw [heq]
    · rw [heq, squash_append, squash_of_blanks hn.blank, List.append_nil]

/-- A line of a block says what its statement says. -/
theorem exists_of_getElem?_blockOf {indent : List Char} (hi : ∀ c ∈ indent, c = ' ' ∨ c = '\t')
    (hn : IsNewline newline) {statements : List (List Char)} {j : Nat} {l : Line}
    (hl : (blockOf indent newline statements)[j]? = some l) :
    ∃ st, statements[j]? = some st ∧ squash l = squash st := by
  rw [blockOf, List.getElem?_map, Option.map_eq_some_iff] at hl
  obtain ⟨st, hst, rfl⟩ := hl
  have hblank : ∀ c ∈ indent, isBlank c = true := fun c hc => isBlank_of_indent (hi c hc)
  refine ⟨st, hst, ?_⟩
  rw [squash_append, squash_append, squash_of_blanks hblank, squash_of_blanks hn.blank,
    List.nil_append, List.append_nil]

/-- Every place is one of the block, or one that another has moved to. -/
theorem block_or_moved (k count n : Nat) :
    (k + 1 ≤ n ∧ n < k + 1 + count) ∨ ∃ m, moved (k + 1) count m = n := by
  by_cases hbefore : n < k + 1
  · exact Or.inr ⟨n, by rw [moved, if_pos hbefore]⟩
  · by_cases hwithin : n < k + 1 + count
    · exact Or.inl ⟨by omega, hwithin⟩
    · refine Or.inr ⟨n - count, ?_⟩
      rw [moved, if_neg (by omega)]
      omega

/-- A line that has moved says what it said. -/
theorem exists_of_lineAt?_moved (hn : IsNewline newline) (hk : k ≤ lines.length) {n : Nat}
    {l : Line} (hl : lineAt? (insertAt newline block k lines) (moved (k + 1) block.length n) =
      some l) :
    ∃ old, lineAt? lines n = some old ∧ squash l = squash old := by
  rcases lineAt?_insertAt_cases hk hl with ⟨hge, hlt, -⟩ | ⟨m, old, hmoved, hold, hsame⟩
  · unfold moved at hge hlt
    split at hge <;> split at hlt <;> omega
  · obtain rfl : m = n := by
      unfold moved at hmoved
      split at hmoved <;> split at hmoved <;> omega
    exact ⟨old, hold, squash_eq_of_terminate hn hsame⟩

end

/-! ### Where a patch fits -/

section

variable {p : Patch} {lines : List Line} {start stop i k : Nat}

/-- A line that says what a statement of the patch says is none of the function. -/
theorem Fits.not_lineOf (h : Fits p lines start stop i k) {st : List Char}
    (hst : st ∈ statementLines p.statement) {n : Nat} {l : Line} (hl : lineAt? lines n = some l)
    (hsame : squash l = squash st) : ¬ LineOf p.anchor.functionName.toList lines n := by
  rintro ⟨start', stop', hspan, hgt, hle⟩
  obtain ⟨rfl, rfl⟩ := hspan.unique h.span
  obtain ⟨m, rfl⟩ := Nat.exists_eq_add_of_le' (lineAt?_bounds hl).1
  exact h.fresh st hst ⟨m, l, by omega, by omega, hl, hsame⟩

/-- A patch goes next to a line of its function. -/
theorem Fits.beside (h : Fits p lines start stop i k) :
    LineOf p.anchor.functionName.toList lines k ∨
      LineOf p.anchor.functionName.toList lines (k + 1) ∧ k < lines.length := by
  have hwithin := h.leads.within
  have hstop := h.span.within.2
  rcases h.leads.place with rfl | rfl
  · exact Or.inr ⟨⟨start, stop, h.span, by omega, by omega⟩, by omega⟩
  · exact Or.inl ⟨start, stop, h.span, by omega, by omega⟩

/-- One more patch has been put where it fits. -/
theorem Draft.add_fits {newline : List Char} {d e : Draft} (h : d.add newline p = .ok e) :
    ∃ start stop i k, Fits p d.lines start stop i k ∧ k ≤ d.lines.length ∧
      e.lines = insertAt newline (blockOf (indentOf (d.lines.getD i [])) newline
        (statementLines p.statement)) k d.lines ∧
      e.log = d.log ++ [⟨p, k + 1⟩] := by
  obtain ⟨k, indent, hk, -, hinsert, -, hlog, -⟩ := Draft.add_eq_ok h
  obtain ⟨start, stop, i, k', hfits, hplace, hlines⟩ := insertPatch_eq_ok_iff.1 hinsert
  obtain rfl : k = k' := by omega
  exact ⟨start, stop, i, k, hfits, hk, hlines, hlog⟩

end

/-! ### What a tidy change keeps -/

/-- No line that a patch of the log has put in, and that is one of its function, says what
another line of the function says. -/
def Unrepeated (log : List AppliedPatch) (lines : List Line) : Prop :=
  ∀ a m n l l', PutInBy a log m →
    LineOf a.patch.anchor.functionName.toList lines m →
    LineOf a.patch.anchor.functionName.toList lines n →
    lineAt? lines m = some l → lineAt? lines n = some l' → squash l = squash l' → m = n

/-- No two functions that some patches name have a line in common. -/
def FunctionsApart (patches : List Patch) (lines : List Line) : Prop :=
  ∀ p ∈ patches, ∀ q ∈ patches, p.anchor.functionName ≠ q.anchor.functionName →
    ∀ n, LineOf p.anchor.functionName.toList lines n →
      ¬ LineOf q.anchor.functionName.toList lines n

/-- Some patches that leave the functions of a text what they are, and no text of which holds
a statement twice. -/
structure Tidy (patches : List Patch) (lines : List Line) : Prop where
  single : ∀ p ∈ patches, ((statementLines p.statement).map squash).Nodup
  braceless : ∀ p ∈ patches, ∀ st ∈ statementLines p.statement, '\x7b' ∉ st ∧ '\x7d' ∉ st
  undefining : ∀ p ∈ patches, ∀ st ∈ statementLines p.statement,
    ∀ q ∈ patches, ¬ DefinesName q.anchor.functionName.toList st
  apart : FunctionsApart patches lines

/-- What holds of the lines as long as the patches of a tidy change are put in. -/
structure Kept (patches : List Patch) (log : List AppliedPatch) (lines : List Line) : Prop where
  mem : ∀ a m, PutInBy a log m → a.patch ∈ patches
  apart : FunctionsApart patches lines
  unrepeated : Unrepeated log lines

section

variable {patches : List Patch} {start : List Line} {newline : List Char}

theorem Tidy.kept (h : Tidy patches start) : Kept patches [] start where
  mem := fun a m hput => absurd hput (not_putInBy_nil a m)
  apart := h.apart
  unrepeated := fun a m _ _ _ hput => absurd hput (not_putInBy_nil a m)

/-- The block of a patch neither opens nor closes anything, and defines nothing. -/
theorem Tidy.flat (h : Tidy patches start) (hn : IsNewline newline) {p q : Patch}
    (hp : p ∈ patches) (hq : q ∈ patches) {indent : List Char}
    (hi : ∀ c ∈ indent, c = ' ' ∨ c = '\t') :
    Flat q.anchor.functionName.toList
      (blockOf indent newline (statementLines p.statement)) where
  braceless := by
    intro l hl
    obtain ⟨st, hst, rfl⟩ := List.mem_map.1 hl
    have hbraceless := h.braceless p hp st hst
    have hindent : '\x7b' ∉ indent ∧ '\x7d' ∉ indent :=
      ⟨fun hc => absurd (hi _ hc) (by decide), fun hc => absurd (hi _ hc) (by decide)⟩
    have hnewline := hn.braceless
    simp only [List.mem_append, not_or]
    exact ⟨⟨⟨hindent.1, hbraceless.1⟩, hnewline.1⟩, ⟨hindent.2, hbraceless.2⟩, hnewline.2⟩
  undefining := by
    intro l hl hdefines
    obtain ⟨st, hst, rfl⟩ := List.mem_map.1 hl
    rw [definesName_append_blanks hn.blank] at hdefines
    exact h.undefining p hp st hst q hq (hdefines.of_indented hi)

end

section

variable {patches : List Patch} {newline : List Char} {block lines : List Line} {k : Nat}

/-- Functions stay apart around a block that is flat for all of them. -/
theorem FunctionsApart.insertAt (h : FunctionsApart patches lines) (hn : IsNewline newline)
    (hk : k ≤ lines.length)
    (hflat : ∀ q ∈ patches, Flat q.anchor.functionName.toList block) :
    FunctionsApart patches (insertAt newline block k lines) := by
  intro p hp q hq hne n hpline hqline
  rcases block_or_moved k block.length n with ⟨hge, hlt⟩ | ⟨m, rfl⟩
  · have hpbefore := (LineOf.of_block hn hk (hflat p hp) hpline hge hlt).1
    have hqbefore := (LineOf.of_block hn hk (hflat q hq) hqline hge hlt).1
    exact h p hp q hq hne k hpbefore hqbefore
  · exact h p hp q hq hne m (LineOf.of_moved hn hk (hflat p hp) hpline)
      (LineOf.of_moved hn hk (hflat q hq) hqline)

/-- A block that fits repeats nothing: its lines are new to its function, they differ from one
another, and they are lines of no other function. -/
theorem Kept.unrepeated_insertAt {added : List AppliedPatch} (h : Kept patches added lines)
    (hn : IsNewline newline) (hk : k ≤ lines.length)
    (hflat : ∀ q ∈ patches, Flat q.anchor.functionName.toList block) {p : Patch}
    (hp : p ∈ patches) {start stop i : Nat} (hfits : Fits p lines start stop i k)
    (hsingle : ((statementLines p.statement).map squash).Nodup)
    (hheight : block.length = (statementLines p.statement).length)
    (hblock : ∀ (j : Nat) (l : Line), block[j]? = some l →
      ∃ st, (statementLines p.statement)[j]? = some st ∧ squash l = squash st) :
    Unrepeated (added ++ [⟨p, k + 1⟩]) (insertAt newline block k lines) := by
  intro b m n l l' hput hm hn' hl hl' hsame
  rcases putInBy_concat.1 hput with ⟨rfl, hge, hlt⟩ | ⟨j, hbefore, rfl⟩
  · -- the line is one of the block
    dsimp only [AppliedPatch.height] at hge hlt
    rw [← hheight] at hlt
    rw [lineAt?_insertAt_block hk hge hlt] at hl
    obtain ⟨st, hst, hreads⟩ := hblock _ l hl
    rcases block_or_moved k block.length n with ⟨hge', hlt'⟩ | ⟨n, rfl⟩
    · rw [lineAt?_insertAt_block hk hge' hlt'] at hl'
      obtain ⟨st', hst', hreads'⟩ := hblock _ l' hl'
      have hwithin : m - (k + 1) < ((statementLines p.statement).map squash).length := by
        rw [List.length_map]
        omega
      have htwice : ((statementLines p.statement).map squash)[m - (k + 1)]? =
          ((statementLines p.statement).map squash)[n - (k + 1)]? := by
        rw [List.getElem?_map, List.getElem?_map, hst, hst', Option.map_some, Option.map_some,
          ← hreads, ← hreads', hsame]
      have hplace := (List.getElem?_inj hwithin hsingle).1 htwice
      omega
    · obtain ⟨old, hold, hreads'⟩ := exists_of_lineAt?_moved hn hk hl'
      have hstatement : squash old = squash st := by rw [← hreads', ← hsame, hreads]
      exact absurd (LineOf.of_moved hn hk (hflat p hp) hn')
        (hfits.not_lineOf (List.mem_of_getElem? hst) hold hstatement)
  · -- the line has been put in before
    dsimp only [AppliedPatch.height] at hm hl ⊢
    rw [← hheight] at hm hl ⊢
    have hb := h.mem b j hbefore
    have hj := LineOf.of_moved hn hk (hflat b.patch hb) hm
    obtain ⟨old, hold, hreads⟩ := exists_of_lineAt?_moved hn hk hl
    rcases block_or_moved k block.length n with ⟨hge, hlt⟩ | ⟨n, rfl⟩
    · rw [lineAt?_insertAt_block hk hge hlt] at hl'
      obtain ⟨st, hst, hreads'⟩ := hblock _ l' hl'
      have hstatement : squash old = squash st := by rw [← hreads, hsame, hreads']
      have hnew := hfits.not_lineOf (List.mem_of_getElem? hst) hold hstatement
      obtain ⟨hfront, hback⟩ := LineOf.of_block hn hk (hflat b.patch hb) hn' hge hlt
      -- so the two patches name two functions, which have the place of the block in common
      have hne : b.patch.anchor.functionName ≠ p.anchor.functionName := by
        intro heq
        rw [heq] at hj
        exact hnew hj
      rcases hfits.beside with hbeside | ⟨hbeside, hlast⟩
      · exact absurd hbeside (h.apart b.patch hb p hp hne k hfront)
      · have hback' := hback.resolve_right hlast.ne
        exact absurd hbeside (h.apart b.patch hb p hp hne (k + 1) hback')
    · obtain ⟨old', hold', hreads'⟩ := exists_of_lineAt?_moved hn hk hl'
      have hn'' := LineOf.of_moved hn hk (hflat b.patch hb) hn'
      have hsame' : squash old = squash old' := by rw [← hreads, hsame, hreads']
      rw [h.unrepeated b j n old old' hbefore hj hn'' hold hold' hsame']

end

section

variable {patches : List Patch} {start : List Line} {newline : List Char}

/-- **One more patch** keeps the functions apart, and repeats nothing. -/
theorem Kept.add (htidy : Tidy patches start) (hn : IsNewline newline) {added : List AppliedPatch}
    {d e : Draft} {p : Patch} (hp : p ∈ patches) (h : Kept patches added d.lines)
    (hadd : d.add newline p = .ok e) :
    ∃ a, e.log = d.log ++ [a] ∧ a.patch = p ∧ Kept patches (added ++ [a]) e.lines := by
  obtain ⟨first, last, i, k, hfits, hk, hlines, hlog⟩ := Draft.add_fits hadd
  have hi : ∀ c ∈ indentOf (d.lines.getD i []), c = ' ' ∨ c = '\t' := fun c => mem_indentOf
  have hflat : ∀ q ∈ patches, Flat q.anchor.functionName.toList (blockOf
      (indentOf (d.lines.getD i [])) newline (statementLines p.statement)) :=
    fun q hq => htidy.flat hn hp hq hi
  refine ⟨⟨p, k + 1⟩, hlog, rfl, ?_⟩
  rw [hlines]
  refine ⟨?_, h.apart.insertAt hn hk hflat, ?_⟩
  · intro b m hput
    rcases putInBy_concat.1 hput with ⟨rfl, -⟩ | ⟨j, hput, -⟩
    · exact hp
    · exact h.mem b j hput
  · exact h.unrepeated_insertAt hn hk hflat hp hfits (htidy.single p hp) (length_blockOf _ _ _)
      fun j l => exists_of_getElem?_blockOf hi hn

/-- **So do any number of patches.** -/
theorem Kept.addAll (htidy : Tidy patches start) (hn : IsNewline newline)
    {added : List AppliedPatch} {d e : Draft} {ps : List Patch} (hps : ∀ p ∈ ps, p ∈ patches)
    (h : Kept patches added d.lines) (hadd : d.addAll newline ps = .ok e) :
    ∃ more, e.log = d.log ++ more ∧ Kept patches (added ++ more) e.lines := by
  induction ps generalizing d added with
  | nil =>
    obtain rfl := Except.ok.inj hadd
    exact ⟨[], (List.append_nil _).symm, by rwa [List.append_nil]⟩
  | cons p ps ih =>
    obtain ⟨hp, hps⟩ := List.forall_mem_cons.1 hps
    obtain ⟨m, hm, hrest⟩ := Draft.addAll_cons_eq_ok.1 hadd
    obtain ⟨a, hlog, -, hkept⟩ := h.add htidy hn hp hm
    obtain ⟨more, hlog', hkept'⟩ := ih hps hkept hrest
    refine ⟨a :: more, ?_, ?_⟩
    · rw [hlog', hlog, List.append_assoc, List.singleton_append]
    · rwa [List.append_assoc, List.singleton_append] at hkept'

end

/-! ### Changes -/

section

variable {ε : Type} {s : PatchStore}

/-- A patch with a statement that its function holds already does not fit, and the first such
statement is named. -/
theorem exists_misfit_repeated {p : Patch} {lines : List Line} {start stop : Nat}
    (hspan : FunctionSpan p.anchor.functionName.toList lines start stop)
    (h : ∃ st ∈ statementLines p.statement, Repeats lines start stop st) :
    ∃ earlier st later, statementLines p.statement = earlier ++ st :: later ∧
      (∀ r ∈ earlier, ¬ Repeats lines start stop r) ∧ Repeats lines start stop st ∧
      Misfit p lines (.duplicate (String.ofList st)) := by
  obtain ⟨st, hst, hrepeats⟩ := h
  cases hfound : duplicate? ((lines.drop start).take (stop - start))
      (statementLines p.statement) with
  | none => exact absurd hrepeats (duplicate?_eq_none_iff.1 hfound st hst)
  | some first =>
    obtain ⟨earlier, later, hsplit, hearlier, hfirst⟩ := duplicate?_eq_some_iff.1 hfound
    exact ⟨earlier, first, later, hsplit, hearlier, hfirst, .repeated hspan hsplit hearlier hfirst⟩

/-- Behind patches that fit, one that does not decides. -/
theorem Snapshot.extend_eq_error_of_misfit {s mid : Snapshot} {before : List Patch} {p : Patch}
    {e : PatchError} (hmid : s.extend before = .ok mid)
    (h : Misfit p (terminated mid.source.toList) e) (after : List Patch) :
    s.extend (before ++ p :: after) = .error e := by
  have hadd : mid.draft.add (newlineOf s.source.toList) p = .error e := by
    rw [Draft.add, Snapshot.draft, insertPatch_of_misfit h]
  rw [extend_eq, Draft.addAll_append (draft_extend hmid), Draft.addAll, hadd]
  rfl

/-- **Whether a change repeats a statement.**  While no change is in flight, some patches are
refused as soon as one of them has a statement that its function holds, be it in the harness
or from a patch before it; the refusal names the first such statement and changes nothing.
If they are applied, and are tidy, none of the lines they have put into a function says what
another line of the function says. -/
theorem run_applyAll_unrepeated (hfree : s.inFlight = none) (patches : List Patch)
    (w : World ε) :
    (∀ before p after mid start stop, patches = before ++ p :: after →
      s.current.extend before = .ok mid →
      FunctionSpan p.anchor.functionName.toList (terminated mid.source.toList) start stop →
      (∃ st ∈ statementLines p.statement,
        Repeats (terminated mid.source.toList) start stop st) →
      ∃ earlier st later, statementLines p.statement = earlier ++ st :: later ∧
        (∀ r ∈ earlier, ¬ Repeats (terminated mid.source.toList) start stop r) ∧
        Repeats (terminated mid.source.toList) start stop st ∧
        (s.applyAll patches).run w = ((.error (.duplicate (String.ofList st)), s), w)) ∧
    ∀ handle t w', (s.applyAll patches).run w = ((.ok handle, t), w') →
      ∃ added, t.log = s.log ++ added ∧ added.map (·.patch) = patches ∧
        (Tidy patches (terminated s.source.toList) →
          Unrepeated added (terminated t.source.toList)) := by
  constructor
  · intro before p after mid start stop hsplit hmid hspan hrepeats
    obtain ⟨earlier, st, later, hst, hearlier, hfirst, hmisfit⟩ :=
      exists_misfit_repeated hspan hrepeats
    refine ⟨earlier, st, later, hst, hearlier, hfirst, PatchStore.run_applyAll_misfit hfree ?_⟩
    rw [hsplit]
    exact Snapshot.extend_eq_error_of_misfit hmid hmisfit after
  · intro handle t w' hrun
    rcases PatchStore.run_applyAll_cases s patches w with ⟨next, u, hext, hrun', -⟩ | ⟨e, hrun'⟩
    · cases hrun'.symm.trans hrun
      have hdraft := Snapshot.draft_extend hext
      obtain ⟨added, hlog, hpatches⟩ := Draft.addAll_log hdraft
      refine ⟨added, hlog, hpatches, fun htidy => ?_⟩
      have hstart : Kept patches [] s.current.draft.lines := htidy.kept
      obtain ⟨more, hlog', hkept⟩ := hstart.addAll htidy (isNewline_newlineOf _) (fun _ hp => hp)
        hdraft
      obtain rfl : added = more := List.append_cancel_left (hlog.symm.trans hlog')
      exact hkept.unrepeated
    · cases hrun'.symm.trans hrun

end

/-! ### Two functions, and a text that holds a statement twice -/

/-- Two functions with a call in common. -/
def twinHarness : String :=
  "int n;\nvoid f() \x7b\n  use(n);\n\x7d\nvoid g() \x7b\n  use(n);\n\x7d\n"

def twinWorld : World Unit where
  files := FileSystem.put {} ["harness.c"] (.file (.text twinHarness))
  events := []
  outside := ()

theorem holds_twinHarness : Holds "harness.c" twinHarness twinWorld := rfl

/-- The store of that harness. -/
def twinStore : PatchStore := .ofText "harness.c" twinHarness .keepChanges

/-- Two statements for the first function. -/
def firstGuard : Patch :=
  ⟨"assume(n > 1);\nassume(n < 9);", { function := "f", nextLine := "use(n);" }⟩

/-- One of them for the second function as well. -/
def twinPatches : List Patch :=
  [firstGuard, ⟨"assume(n > 1);", { function := "g", nextLine := "use(n);" }⟩]

/-- The first function with its statements. -/
def guardedTwin : String :=
  "int n;\nvoid f() \x7b\n  assume(n > 1);\n  assume(n < 9);\n  use(n);\n\x7d\n" ++
    "void g() \x7b\n  use(n);\n\x7d\n"

/-- Both functions with their statements. -/
def guardedTwins : String :=
  "int n;\nvoid f() \x7b\n  assume(n > 1);\n  assume(n < 9);\n  use(n);\n\x7d\n" ++
    "void g() \x7b\n  assume(n > 1);\n  use(n);\n\x7d\n"

theorem tidy_twinPatches : Tidy twinPatches (terminated twinHarness.toList) where
  single := by decide
  braceless := by decide
  undefining := by decide
  apart := by
    have hf : FunctionSpan "f".toList (terminated twinHarness.toList) 1 4 :=
      functionSpan?_eq_some_iff.1 (by decide)
    have hg : FunctionSpan "g".toList (terminated twinHarness.toList) 4 7 :=
      functionSpan?_eq_some_iff.1 (by decide)
    have hapart : ∀ n, LineOf "f".toList (terminated twinHarness.toList) n →
        ¬ LineOf "g".toList (terminated twinHarness.toList) n := by
      rintro n ⟨start, stop, hspan, -, hle⟩ ⟨start', stop', hspan', hgt, -⟩
      obtain ⟨rfl, rfl⟩ := hspan.unique hf
      obtain ⟨rfl, rfl⟩ := hspan'.unique hg
      omega
    intro p hp q hq hne n hpline hqline
    simp only [twinPatches, List.mem_cons, List.not_mem_nil, or_false] at hp hq
    rcases hp with rfl | rfl <;> rcases hq with rfl | rfl
    · exact hne rfl
    · exact hapart n hpline hqline
    · exact hapart n hqline hpline
    · exact hne rfl

/-- The same statement goes into both functions, but not twice into one. -/
theorem run_applyAll_unrepeated_twinPatches :
    twinStore.inFlight = none ∧ Tidy twinPatches (terminated twinStore.source.toList) ∧
      (∃ t w', (twinStore.applyAll twinPatches).run twinWorld = ((.ok 1, t), w') ∧
        t.source = guardedTwins ∧ Unrepeated t.log (terminated t.source.toList)) ∧
      (twinStore.applyAll [firstGuard, firstGuard]).run twinWorld =
        ((.error (.duplicate "assume(n > 1);"), twinStore), twinWorld) := by
  have hfree : twinStore.inFlight = none := rfl
  refine ⟨hfree, tidy_twinPatches, ?_, ?_⟩
  · obtain ⟨-, happlied⟩ := run_applyAll_unrepeated hfree twinPatches twinWorld
    have hsource : (twinStore.current.extend twinPatches).toOption.map (·.source) =
        some guardedTwins := by decide
    obtain ⟨next, hext, htext⟩ := Snapshot.exists_extend_of_source hsource
    obtain ⟨w', hrun, -, -⟩ := PatchStore.run_applyAll hfree hext holds_twinHarness
    obtain ⟨added, hlog, -, hunrepeated⟩ := happlied _ _ w' hrun
    refine ⟨_, w', hrun, htext, ?_⟩
    rw [hlog]
    exact hunrepeated tidy_twinPatches
  · obtain ⟨hrefused, -⟩ := run_applyAll_unrepeated hfree [firstGuard, firstGuard] twinWorld
    have hsource : (twinStore.current.extend [firstGuard]).toOption.map (·.source) =
        some guardedTwin := by decide +kernel
    obtain ⟨mid, hmid, htext⟩ := Snapshot.exists_extend_of_source hsource
    have hspan : FunctionSpan firstGuard.anchor.functionName.toList
        (terminated mid.source.toList) 1 6 := by
      rw [htext]
      exact functionSpan?_eq_some_iff.1 (by decide)
    have hthere : Repeats (terminated mid.source.toList) 1 6 "assume(n > 1);".toList := by
      rw [htext]
      exact ⟨2, _, by decide, by decide, rfl, by decide⟩
    have hstatements : statementLines firstGuard.statement =
        ["assume(n > 1);".toList, "assume(n < 9);".toList] := by decide +kernel
    have hmem : "assume(n > 1);".toList ∈ statementLines firstGuard.statement := by
      rw [hstatements]
      exact List.mem_cons_self
    obtain ⟨earlier, st, later, hsplit, hearlier, -, hrun⟩ :=
      hrefused [firstGuard] firstGuard [] mid 1 6 rfl hmid hspan ⟨_, hmem, hthere⟩
    rw [hstatements] at hsplit
    -- the first statement is there already, so it is the one that is named
    cases earlier with
    | nil =>
      obtain rfl := (List.cons.inj hsplit).1
      exact hrun
    | cons r earlier =>
      obtain rfl := (List.cons.inj hsplit).1
      exact absurd hthere (hearlier _ List.mem_cons_self)

/-- A text that holds a statement twice. -/
def doubledGuard : Patch :=
  ⟨"__CPROVER_assume(len > 0);\n__CPROVER_assume(len > 0);",
    { function := "harness", previousLine := "size_t len;" }⟩

/-- The harness with that text. -/
def doublyGuarded : String :=
  "void harness()\n\x7b\n    size_t len;\n    __CPROVER_assume(len > 0);\n" ++
    "    __CPROVER_assume(len > 0);\n    parse_dns(len);\n\x7d\n"

/-- It is put in as it is. -/
theorem not_unrepeated_doubledGuard :
    ∃ t w', (plainStore.apply doubledGuard).run plainWorld = ((.ok 1, t), w') ∧
      t.source = doublyGuarded ∧ t.log = [⟨doubledGuard, 4⟩] ∧
      ¬ Unrepeated t.log (terminated t.source.toList) := by
  obtain ⟨t, w', hrun, htext⟩ :=
    run_apply_plainStore doubledGuard doublyGuarded (by decide +kernel)
  have hfree : plainStore.inFlight = none := rfl
  obtain ⟨-, -, -, start, stop, i, k, hfits, -, hlog, -⟩ := run_apply_ok hfree hrun
  have hspan : FunctionSpan doubledGuard.anchor.functionName.toList
      (terminated plainStore.source.toList) 0 5 := functionSpan?_eq_some_iff.1 (by decide +kernel)
  have hleads : doubledGuard.anchor.Leads (terminated plainStore.source.toList) 0 5 2 3 :=
    leads_of_anchorAt? (by decide +kernel)
  obtain ⟨rfl, rfl⟩ := hfits.span.unique hspan
  obtain ⟨rfl, rfl⟩ := hfits.leads.unique hleads
  have hentry : t.log = [⟨doubledGuard, 4⟩] := hlog
  refine ⟨t, w', hrun, htext, hentry, fun hunrepeated => ?_⟩
  rw [hentry, htext] at hunrepeated
  have hnew : FunctionSpan doubledGuard.anchor.functionName.toList
      (terminated doublyGuarded.toList) 0 7 := functionSpan?_eq_some_iff.1 (by decide +kernel)
  have hput : PutInBy ⟨doubledGuard, 4⟩ [⟨doubledGuard, 4⟩] 4 :=
    ⟨[], [], 4, rfl, by decide, by decide, rfl⟩
  have hline : ∀ n, n = 4 ∨ n = 5 → lineAt? (terminated doublyGuarded.toList) n =
      some "    __CPROVER_assume(len > 0);\n".toList := by
    rintro n (rfl | rfl) <;> decide +kernel
  have hsame := hunrepeated _ 4 5 _ _ hput ⟨0, 7, hnew, by decide, by decide⟩
    ⟨0, 7, hnew, by decide, by decide⟩ (hline 4 (Or.inl rfl)) (hline 5 (Or.inr rfl)) rfl
  exact absurd hsame (by decide)

end HarnessRepair
