import HarnessRepair.Oracle.Context
import HarnessRepair.Proofs.Patch.Weave
import HarnessRepair.Proofs.Text.Joined
import HarnessRepair.Proofs.Text.Numeral

/-!
# The surroundings of a finding

A finding outside the harness is shown with the twelve lines before it and the twelve behind
it, as far as the file has them.  They are cut out of the file without their terminators,
joined by line feeds and cut again to be numbered.  So a last line that is empty is not shown,
and a carriage return at the end of another one goes with its terminator; all else is shown as
it stands in the file.

## Main definitions

* `EmptyAt`, `ReturnAt` — the lines that joining may not bring back.
* `rejoined` — some lines of a text, joined again.
* `ShowsLines` — a text that shows lines of another, each under its number.

## Main results

* `excerptBounds_eq` — the lines that are meant, if words can number them.
* `showsLines_rejoined_iff` — **when all of the lines are shown.**
* `locationContext_shows` — **what is shown around a finding.**
* `not_shown_emptyEnd` — a file that ends in an empty line.
-/

namespace HarnessRepair

open Text

/-! ### Bounds -/

/-- **The first and the last line are exact**, as long as the last sum is a word. -/
theorem excerptBounds_eq (line count : Nat) :
    excerptBounds line count =
      if max line 1 + excerptRadius < wordLimit then
        .ok (max 1 (line - excerptRadius), min (max line 1 + excerptRadius) count)
      else .error .addition := by
  have hfirst : max (max line 1 - excerptRadius) 1 = max 1 (line - excerptRadius) := by omega
  rw [excerptBounds, addWords, ← hfirst]
  split <;> rfl

/-! ### Lines of a text under their numbers -/

/-- The line with a number is empty. -/
def EmptyAt (text : String) (n : Nat) : Prop := lineAt? (lineChars text.toList) n = some []

instance (text : String) (n : Nat) : Decidable (EmptyAt text n) :=
  inferInstanceAs (Decidable (_ = _))

/-- The line with a number ends in a carriage return, in front of its terminator. -/
def ReturnAt (text : String) (n : Nat) : Prop :=
  ∃ l, lineAt? (lineChars text.toList) n = some l ∧ l.getLast? = some '\r'

/-- The lines `first` to `last` of a text, joined by line feeds. -/
def rejoined (text : String) (first last : Nat) : String :=
  "\n".intercalate (((lines text).take last).drop (first - 1))

/-- The last of these lines that is there when the text is cut again. -/
def lastShown (text : String) (last : Nat) : Nat := if EmptyAt text last then last - 1 else last

theorem lastShown_bounds (text : String) (last : Nat) :
    last ≤ lastShown text last + 1 ∧ lastShown text last ≤ last := by
  rw [lastShown]
  split <;> omega

/-- A text shows the lines `first` to `last` of another one: it has a line for each of them, in
their order, on which the line stands under its own number, right-aligned to one width. -/
structure ShowsLines (text : String) (first last width : Nat) (shown : String) : Prop where
  /-- Each number fits into the width. -/
  fits : ∀ n, first ≤ n → n ≤ last → (toString n).length ≤ width
  /-- There are no other lines. -/
  length_eq : (terminated shown.toList).length = last + 1 - first
  line_at : ∀ n, first ≤ n → n ≤ last → ∃ l, lineAt? (terminated text.toList) n = some l ∧
    lineAt? (terminated shown.toList) (n + 1 - first) = some (numberedLine width n l)

/-- How a line of a text reads. -/
theorem lineAt?_lineChars (cs : List Char) (n : Nat) :
    lineAt? (lineChars cs) n = (lineAt? (terminated cs) n).map withoutTerminator := by
  cases n with
  | zero => rfl
  | succ n => exact List.getElem?_map

/-- In a text under numbers each line stands under its own. -/
theorem lineAt?_numbered (s : String) (first : Nat) {n : Nat} {l : Line}
    (h : lineAt? (terminated s.toList) n = some l) :
    lineAt? (terminated (numbered s first).toList) n =
      some (numberedLine (toString (first + (lines s).length)).length (first + (n - 1)) l) := by
  obtain ⟨hpos, -⟩ := lineAt?_bounds h
  obtain ⟨i, rfl⟩ := Nat.exists_eq_add_of_le' hpos
  have hi : (terminated s.toList)[i]? = some l := h
  rw [terminated_numbered, lineAt?, List.getElem?_mapIdx, hi]
  rfl

/-! ### Joining and cutting again -/

section

variable {text : String} {first last : Nat} {z : List Char}

/-- What is joined are the lines before the last one, and the last one. -/
theorem toList_rejoined (hpos : 1 ≤ first) (hle : first ≤ last)
    (hz : lineAt? (lineChars text.toList) last = some z) :
    (rejoined text first last).toList =
      ['\n'].intercalate (((lineChars text.toList).take (last - 1)).drop (first - 1) ++ [z]) := by
  obtain ⟨k, rfl⟩ := Nat.exists_eq_add_of_le' (hpos.trans hle)
  have hk : (lineChars text.toList)[k]? = some z := hz
  obtain ⟨hlt, rfl⟩ := List.getElem?_eq_some_iff.1 hk
  have hread : (lines text).map String.toList = lineChars text.toList := by
    rw [lines, List.map_map]
    simp
  have hlength : first - 1 ≤ ((lineChars text.toList).take k).length := by
    rw [List.length_take]
    omega
  rw [rejoined, String.toList_intercalate, List.map_drop, List.map_take, hread,
    ← List.take_append_getElem hlt, List.drop_append_of_le_length hlength]
  rfl

/-- Cut again, the lines before the last one are ended anew, and the last one is there if it is
not empty. -/
theorem terminated_rejoined (hpos : 1 ≤ first) (hle : first ≤ last)
    (hz : lineAt? (lineChars text.toList) last = some z) :
    terminated (rejoined text first last).toList =
      (((lineChars text.toList).take (last - 1)).drop (first - 1)).map (· ++ ['\n']) ++
        if EmptyAt text last then [] else [z] := by
  have hlast := newline_notMem_of_mem_lineChars (mem_of_lineAt? hz)
  have hempty : EmptyAt text last ↔ z = [] := by
    rw [EmptyAt, hz]
    exact Option.some_inj
  rw [toList_rejoined hpos hle hz, terminated_intercalate _ hlast]
  · simp only [hempty]
  · intro l hl
    exact newline_notMem_of_mem_lineChars (List.mem_of_mem_take (List.mem_of_mem_drop hl))

theorem length_terminated_rejoined (hpos : 1 ≤ first) (hle : first ≤ last)
    (hz : lineAt? (lineChars text.toList) last = some z) :
    (terminated (rejoined text first last).toList).length = lastShown text last + 1 - first := by
  obtain ⟨-, hcount⟩ := lineAt?_bounds hz
  rw [terminated_rejoined hpos hle hz, List.length_append, List.length_map, List.length_drop,
    List.length_take, lastShown]
  split
  · rw [List.length_nil]
    omega
  · rw [List.length_singleton]
    omega

/-- A line before the last one is ended anew. -/
theorem lineAt?_rejoined (hpos : 1 ≤ first) (hle : first ≤ last)
    (hz : lineAt? (lineChars text.toList) last = some z) {n : Nat} (hfirst : first ≤ n)
    (hlast : n < last) {l : List Char} (hl : lineAt? (lineChars text.toList) n = some l) :
    lineAt? (terminated (rejoined text first last).toList) (n + 1 - first) =
      some (l ++ ['\n']) := by
  obtain ⟨-, hcount⟩ := lineAt?_bounds hz
  rw [lineAt?_of_pos _ (hpos.trans hfirst)] at hl
  have hinner : (((lineChars text.toList).take (last - 1)).drop (first - 1))[n - first]? =
      some l := by
    rw [List.getElem?_drop, List.getElem?_take, if_pos (by omega), ← hl]
    congr 1
    omega
  rw [lineAt?_of_pos _ (by omega), terminated_rejoined hpos hle hz, Nat.sub_right_comm,
    Nat.add_sub_cancel, List.getElem?_append_left, List.getElem?_map, hinner]
  · rfl
  · rw [List.length_map]
    exact (List.getElem?_eq_some_iff.1 hinner).1

/-- The last one is as it was, if it is not empty. -/
theorem lineAt?_rejoined_last (hpos : 1 ≤ first) (hle : first ≤ last)
    (hz : lineAt? (lineChars text.toList) last = some z) (hne : ¬ EmptyAt text last) :
    lineAt? (terminated (rejoined text first last).toList) (last + 1 - first) = some z := by
  obtain ⟨-, hcount⟩ := lineAt?_bounds hz
  have hlength : ((((lineChars text.toList).take (last - 1)).drop (first - 1)).map
      (· ++ ['\n'])).length = last - first := by
    rw [List.length_map, List.length_drop, List.length_take]
    omega
  rw [lineAt?_of_pos _ (by omega), terminated_rejoined hpos hle hz, if_neg hne, Nat.sub_right_comm,
    Nat.add_sub_cancel, List.getElem?_append_right (Nat.le_of_eq hlength), hlength, Nat.sub_self]
  rfl

/-- So each line up to the last one that is there reads as it did, if it does not end in a
carriage return. -/
theorem exists_lineAt?_rejoined (hpos : 1 ≤ first) (hle : first ≤ last)
    (hz : lineAt? (lineChars text.toList) last = some z)
    (hkept : ∀ n, first ≤ n → n < last → ¬ ReturnAt text n) {n : Nat} (hfirst : first ≤ n)
    (hn : n ≤ lastShown text last) :
    ∃ l m, lineAt? (terminated text.toList) n = some l ∧
      lineAt? (terminated (rejoined text first last).toList) (n + 1 - first) = some m ∧
      withoutTerminator m = withoutTerminator l := by
  obtain ⟨-, hcount⟩ := lineAt?_bounds hz
  obtain ⟨-, hshown⟩ := lastShown_bounds text last
  rw [lineChars, List.length_map] at hcount
  obtain ⟨l, hl⟩ := exists_lineAt? (terminated text.toList) (hpos.trans hfirst) (by omega)
  have hread : lineAt? (lineChars text.toList) n = some (withoutTerminator l) := by
    rw [lineAt?_lineChars, hl]
    rfl
  rcases Nat.lt_or_eq_of_le (hn.trans hshown) with hbefore | rfl
  · -- its new terminator takes nothing with it
    refine ⟨l, _, hl, lineAt?_rejoined hpos hle hz hfirst hbefore hread, ?_⟩
    exact withoutTerminator_append_newline_iff.2 fun h => hkept n hfirst hbefore ⟨_, hread, h⟩
  · -- it has no terminator now
    have hne : ¬ EmptyAt text n := fun h => by
      rw [lastShown, if_pos h] at hn
      omega
    refine ⟨l, _, hl, lineAt?_rejoined_last hpos hle hread hne, ?_⟩
    exact withoutTerminator_of_notMem (newline_notMem_of_mem_lineChars (mem_of_lineAt? hread))

/-! ### Which lines are shown -/

/-- The numbers go up to that of the last line that is there. -/
theorem add_length_lines_rejoined (hpos : 1 ≤ first) (hle : first ≤ last)
    (hz : lineAt? (lineChars text.toList) last = some z) :
    first + (lines (rejoined text first last)).length = lastShown text last + 1 := by
  have hlength := length_terminated_rejoined hpos hle hz
  obtain ⟨hshown, -⟩ := lastShown_bounds text last
  rw [lines, List.length_map, lineChars, List.length_map, hlength]
  omega

/-- All lines but a last one that is empty are shown, if none but the last ends in a carriage
return. -/
theorem showsLines_rejoined (hpos : 1 ≤ first) (hle : first ≤ last)
    (hz : lineAt? (lineChars text.toList) last = some z)
    (hkept : ∀ n, first ≤ n → n < last → ¬ ReturnAt text n) :
    ShowsLines text first (lastShown text last) (toString (lastShown text last + 1)).length
      (numbered (rejoined text first last) first) := by
  constructor
  case fits => exact fun n _ hn => length_toString_le (Nat.le_succ_of_le hn)
  case length_eq =>
    rw [terminated_numbered, List.length_mapIdx, length_terminated_rejoined hpos hle hz]
  case line_at =>
    intro n hfirst hn
    obtain ⟨l, m, hl, hm, hsame⟩ := exists_lineAt?_rejoined hpos hle hz hkept hfirst hn
    have hnumber : first + (n + 1 - first - 1) = n := by omega
    refine ⟨l, hl, ?_⟩
    rw [lineAt?_numbered _ first hm, add_length_lines_rejoined hpos hle hz, hnumber,
      numberedLine, hsame]
    rfl

/-- **When all lines are shown**: exactly if the last one is not empty, and no other one ends in
a carriage return. -/
theorem showsLines_rejoined_iff (hpos : 1 ≤ first) (hle : first ≤ last)
    (hz : lineAt? (lineChars text.toList) last = some z) :
    (∃ width, ShowsLines text first last width (numbered (rejoined text first last) first)) ↔
      ¬ EmptyAt text last ∧ ∀ n, first ≤ n → n < last → ¬ ReturnAt text n := by
  constructor
  · rintro ⟨width, h⟩
    constructor
    · -- there would be a line less
      intro hempty
      have hlength := h.length_eq
      rw [terminated_numbered, List.length_mapIdx, length_terminated_rejoined hpos hle hz,
        lastShown, if_pos hempty] at hlength
      omega
    · -- the line would stand there without its last character
      rintro n hfirst hlast ⟨r, hr, hreturn⟩
      obtain ⟨l, hl, hshown⟩ := h.line_at n hfirst (Nat.le_of_lt hlast)
      rw [lineAt?_numbered _ first (lineAt?_rejoined hpos hle hz hfirst hlast hr)] at hshown
      rw [lineAt?_lineChars, hl] at hr
      obtain rfl := Option.some.inj hr
      have hsame := numberedLine_inj (Option.some.inj hshown)
      exact withoutTerminator_append_newline_iff.1 hsame hreturn
  · rintro ⟨hne, hkept⟩
    have hshows := showsLines_rejoined hpos hle hz hkept
    rw [lastShown, if_neg hne] at hshows
    exact ⟨_, hshows⟩

end

/-! ### The surroundings of a finding -/

section

variable {fs : FileSystem} {target : HarnessTarget} {l : Location} {path text : String}

/-- For a finding in a readable file outside the harness, some lines are joined and numbered,
unless the file ends before them. -/
theorem locationContext_of_readable (hout : l.isIn target.harnessFile = false)
    (hsource : sourceOf? fs target l.file = some path) (hread : fs.readText path = .ok text)
    (hword : l.line + 12 < wordLimit) :
    locationContext fs target l = .ok
      (if (lines text).length < max 1 (l.line - 12) then none
      else some (numbered (rejoined text (max 1 (l.line - 12))
        (min (max l.line 1 + 12) (lines text).length)) (max 1 (l.line - 12)))) := by
  have hlimit : 1 + 12 < wordLimit := by decide
  have hlast : max l.line 1 + excerptRadius < wordLimit := by
    have hradius : excerptRadius = 12 := rfl
    omega
  have hbounds : excerptBounds l.line (lines text).length =
      .ok (max 1 (l.line - 12), min (max l.line 1 + 12) (lines text).length) :=
    (excerptBounds_eq l.line _).trans (if_pos hlast)
  rw [locationContext, hout, if_neg Bool.false_ne_true, hsource]
  dsimp only
  rw [hread]
  dsimp only
  rw [excerpt, hbounds]
  change (if min (max l.line 1 + 12) (lines text).length < max 1 (l.line - 12) then pure none
    else pure (some _) : Except Overflow (Option String)) = _
  by_cases hshort : (lines text).length < max 1 (l.line - 12)
  · rw [if_pos (by omega), if_pos hshort]
    rfl
  · rw [if_neg (by omega), if_neg hshort]
    rfl

/-- **What is shown around a finding** that lies at line `L` of a readable file outside the
harness: nothing, if the file ends before line `L - 12`, else the lines from there to line
`L + 12` or to the end, exactly if the last of them is not empty and no other one ends in a
carriage return before its terminator.  With line ends of one or two characters the lines are
shown up to the last one, or up to the one before if the last one is empty. -/
theorem locationContext_shows (hout : l.isIn target.harnessFile = false)
    (hsource : sourceOf? fs target l.file = some path) (hread : fs.readText path = .ok text)
    (hword : l.line + 12 < wordLimit) :
    let first := max 1 (l.line - 12)
    let last := min (max l.line 1 + 12) (lines text).length
    ((lines text).length < first → locationContext fs target l = .ok none) ∧
    (first ≤ (lines text).length → ∃ shown, locationContext fs target l = .ok (some shown) ∧
      ((∃ width, ShowsLines text first last width shown) ↔
        ¬ EmptyAt text last ∧ ∀ n, first ≤ n → n < last → ¬ ReturnAt text n) ∧
      (ReturnsPaired text.toList → ∃ width,
        ShowsLines text first (if EmptyAt text last then last - 1 else last) width shown)) := by
  intro first last
  have hcontext := locationContext_of_readable hout hsource hread hword
  constructor
  · intro hshort
    rw [hcontext, if_pos hshort]
  · intro hlong
    rw [if_neg (Nat.not_lt.2 hlong)] at hcontext
    have hpos : 1 ≤ first := Nat.le_max_left _ _
    have hle : first ≤ last := by omega
    have hcount : (lines text).length = (lineChars text.toList).length := List.length_map _
    obtain ⟨z, hz⟩ := exists_lineAt? (lineChars text.toList) (hpos.trans hle) (by omega)
    refine ⟨_, hcontext, showsLines_rejoined_iff hpos hle hz, fun hpaired => ?_⟩
    refine ⟨_, showsLines_rejoined hpos hle hz ?_⟩
    rintro n - - ⟨r, hr, hreturn⟩
    exact getLast?_of_mem_lineChars hpaired (mem_of_lineAt? hr) hreturn

end

/-! ### Two source files -/

/-- A directory with one source file. -/
def sourceFiles (text : String) : FileSystem := FileSystem.put {} ["dns.c"] (.file (.text text))

/-- A harness of another name. -/
def sourceTarget : HarnessTarget where
  name := "parse"
  harnessFile := "harness.c"
  targetFunction := "parse"
  rootDir := "."
  targetFile := none

/-- Three lines that are ended by two characters, the second of them empty. -/
def pairedSource : String := "int x;\r\n\r\nx = 1;\r\n"

theorem locationContext_shows_pairedSource :
    let l : Location := ⟨"dns.c", "parse", 3⟩
    let shown := "1: int x;\n2: \n3: x = 1;\n"
    l.isIn sourceTarget.harnessFile = false ∧
      sourceOf? (sourceFiles pairedSource) sourceTarget l.file = some "dns.c" ∧
      (sourceFiles pairedSource).readText "dns.c" = .ok pairedSource ∧ l.line + 12 < wordLimit ∧
      max 1 (l.line - 12) ≤ (lines pairedSource).length ∧ ReturnsPaired pairedSource.toList ∧
      locationContext (sourceFiles pairedSource) sourceTarget l = .ok (some shown) ∧
      ∃ width, ShowsLines pairedSource 1 3 width shown := by
  intro l shown
  have hout : l.isIn sourceTarget.harnessFile = false := by decide
  have hsource : sourceOf? (sourceFiles pairedSource) sourceTarget l.file = some "dns.c" := by
    decide
  have hread : (sourceFiles pairedSource).readText "dns.c" = .ok pairedSource := by rfl
  have hword : l.line + 12 < wordLimit := by decide
  have hlong : max 1 (l.line - 12) ≤ (lines pairedSource).length := by decide
  have hpaired : ReturnsPaired pairedSource.toList := by decide
  have hshown : locationContext (sourceFiles pairedSource) sourceTarget l = .ok (some shown) := by
    decide
  have hlast : min (max l.line 1 + 12) (lines pairedSource).length = 3 := by decide
  have hne : ¬ EmptyAt pairedSource 3 := by decide
  refine ⟨hout, hsource, hread, hword, hlong, hpaired, hshown, ?_⟩
  obtain ⟨shown', hcontext, -, hshows⟩ :=
    (locationContext_shows hout hsource hread hword).2 hlong
  rw [hshown] at hcontext
  obtain rfl := Option.some.inj (Except.ok.inj hcontext)
  have hall := hshows hpaired
  rw [hlast, if_neg hne] at hall
  exact hall

/-- Two lines, the second of them empty. -/
def emptyEndSource : String := "int x;\n\n"

/-- **A file that ends in an empty line** within reach of the finding is not shown to its end. -/
theorem not_shown_emptyEnd :
    ¬ ∀ (fs : FileSystem) (target : HarnessTarget) (l : Location) (path text : String),
      l.isIn target.harnessFile = false → sourceOf? fs target l.file = some path →
      fs.readText path = .ok text → l.line + 12 < wordLimit → ReturnsPaired text.toList →
      max 1 (l.line - 12) ≤ (lines text).length →
      ∃ shown, locationContext fs target l = .ok (some shown) ∧ ∃ width,
        ShowsLines text (max 1 (l.line - 12)) (min (max l.line 1 + 12) (lines text).length)
          width shown := by
  intro hall
  obtain ⟨shown, hcontext, width, hshows⟩ := hall (sourceFiles emptyEndSource) sourceTarget
    ⟨"dns.c", "parse", 1⟩ "dns.c" emptyEndSource (by decide) (by decide) rfl
    (by decide) (by decide) (by decide)
  have hshown : locationContext (sourceFiles emptyEndSource) sourceTarget
      ⟨"dns.c", "parse", 1⟩ = .ok (some "1: int x;\n") := by
    decide
  rw [hshown] at hcontext
  obtain rfl := Option.some.inj (Except.ok.inj hcontext)
  -- there is one line, and there should be two
  exact absurd hshows.length_eq (by decide)

end HarnessRepair
