import HarnessRepair.Proofs.Json.Dictionary
import HarnessRepair.Proofs.Json.Record
import HarnessRepair.Proofs.Verifier.Reading
import Mathlib.Algebra.Order.Ring.Nat
import Mathlib.Data.List.Forall2
import Mathlib.Data.List.Induction
import Mathlib.Data.List.Pairwise

/-!
# Gaps and runs

The lines of a function are listed under texts, and come in the order of texts.  Gaps
are the maximal runs of missed lines once the lines are in the order of their numbers.
The index of lines is filled from the same table on a way of its own; the two agree.

## Main definitions

* `Lists`, `IsListing` — the lines of a function by number.
* `MissedRun` — a maximal run of missed lines.
* `CoverageTable.PartlyCovered`, `CoverageTable.Misses` — what a table says.

## Main results

* `mem_runsFrom_iff`, `flatten_runsFrom` — the loop over the lines cuts out the runs.
* `hit?_coverageIndex` — what the index answers.
* `coverageGaps_are_missed_runs` — **the gaps are the maximal runs of missed lines, and the
  index agrees.**
-/

namespace HarnessRepair

open Json Text

/-! ### Lines by number -/

/-- The number that a line is written as. -/
def lineNumber? (line : String) : Option Nat := unsigned? wordLimit (trim line)

/-- A line is listed with a status.  Lines whose number cannot be read are not. -/
def Lists (lines : LineStatus) (n : Nat) (status : String) : Prop :=
  ∃ line, (line, status) ∈ lines ∧ lineNumber? line = some n

/-- The listed lines in ascending order. -/
structure IsListing (lines : LineStatus) (ls : List (Nat × String)) : Prop where
  ascending : ls.Pairwise fun a b => a.1 < b.1
  mem_iff : ∀ n status, (n, status) ∈ ls ↔ Lists lines n status

/-- The texts of some lines denote distinct numbers. -/
def DistinctLines (lines : LineStatus) : Prop :=
  (lines.filterMap fun line => lineNumber? line.1).Nodup

theorem mem_sortedLines {lines : LineStatus} {n : Nat} {status : String} :
    (n, status) ∈ sortedLines lines ↔ Lists lines n status := by
  rw [sortedLines, List.mem_mergeSort, List.mem_filterMap]
  constructor
  · rintro ⟨⟨line, status'⟩, hmem, h⟩
    obtain ⟨n', hn, heq⟩ := Option.map_eq_some_iff.1 h
    obtain ⟨rfl, rfl⟩ := Prod.mk.inj heq
    exact ⟨line, hmem, hn⟩
  · rintro ⟨line, hmem, hn⟩
    exact ⟨(line, status), hmem, Option.map_eq_some_iff.2 ⟨n, hn, rfl⟩⟩

/-- The lines are put in the order of their numbers. -/
theorem isListing_sortedLines {lines : LineStatus} (h : DistinctLines lines) :
    IsListing lines (sortedLines lines) where
  ascending := by
    have hsorted : (sortedLines lines).Pairwise fun a b => a.1 ≤ b.1 := by
      refine (List.pairwise_mergeSort ?_ ?_ _).imp of_decide_eq_true
      · simp only [decide_eq_true_eq]
        exact fun _ _ _ => le_trans
      · simp only [Bool.or_eq_true, decide_eq_true_eq]
        exact fun _ _ => le_total _ _
    have hdistinct : (sortedLines lines).Pairwise fun a b => a.1 ≠ b.1 := by
      rw [← List.pairwise_map, ← List.Nodup]
      refine ((List.mergeSort_perm _ _).map Prod.fst).nodup_iff.2 ?_
      rw [List.map_filterMap]
      simp only [Option.map_map, Function.comp_def, Option.map_id']
      exact h
    exact (hsorted.and hdistinct).imp fun ⟨hle, hne⟩ => lt_of_le_of_ne hle hne
  mem_iff _ _ := mem_sortedLines

/-! ### Runs -/

/-- Missed lines between two texts that do not go on with missed lines. -/
structure RunBetween (before run after : List (Nat × String)) : Prop where
  ne_nil : run ≠ []
  missed : ∀ x ∈ run, isMissed x.2 = true
  left : ∀ x ∈ before.getLast?, isMissed x.2 = false
  right : ∀ x ∈ after.head?, isMissed x.2 = false

/-- A maximal run of missed lines among some lines. -/
def MissedRun (ls run : List (Nat × String)) : Prop :=
  ∃ before after, before ++ run ++ after = ls ∧ RunBetween before run after

/-- A run that has come to its end, if there is one. -/
def endRun (run : List (Nat × String)) : List (List (Nat × String)) :=
  if run = [] then [] else [run]

/-- The runs that the loop over the lines cuts out, with the run that is under way. -/
def runsFrom : List (Nat × String) → List (Nat × String) → List (List (Nat × String))
  | run, [] => endRun run
  | run, x :: rest =>
    if isMissed x.2 then runsFrom (run ++ [x]) rest else endRun run ++ runsFrom [] rest

variable {ls rest run o : List (Nat × String)} {x : Nat × String}

/-- Missed lines alone are one run. -/
theorem missedRun_of_missed (h : ∀ x ∈ o, isMissed x.2 = true) :
    MissedRun o run ↔ run ∈ endRun o := by
  constructor
  · rintro ⟨before, after, rfl, hne, hmissed, hleft, hright⟩
    obtain rfl : before = [] := by
      rw [← List.getLast?_eq_none_iff, Option.eq_none_iff_forall_ne_some]
      intro x hx
      have hmem := h x (by simp [List.mem_of_getLast? hx])
      rw [hleft x hx] at hmem
      cases hmem
    obtain rfl : after = [] := by
      rw [← List.head?_eq_none_iff, Option.eq_none_iff_forall_ne_some]
      intro x hx
      have hmem := h x (by simp [List.mem_of_head? hx])
      rw [hright x hx] at hmem
      cases hmem
    simp [endRun, hne]
  · intro hmem
    rw [endRun] at hmem
    split at hmem
    · cases hmem
    · next hne =>
      obtain rfl := List.mem_singleton.1 hmem
      exact ⟨[], [], by simp, hne, h, by simp, by simp⟩

/-- A line that is not missed parts the runs. -/
theorem missedRun_append_cons_iff (hx : isMissed x.2 = false) :
    MissedRun (o ++ x :: rest) run ↔ MissedRun o run ∨ MissedRun rest run := by
  constructor
  · rintro ⟨before, after, heq, hne, hmissed, hleft, hright⟩
    rcases List.append_eq_append_iff.1 heq with ⟨rest', rfl, rfl⟩ | ⟨more, hfront, hrest⟩
    · -- the run ends before the line
      refine Or.inl ⟨before, rest', by simp, hne, hmissed, hleft, fun y hy => hright y ?_⟩
      exact List.mem_head?_append_of_mem_head? hy
    · rcases more with - | ⟨y, more⟩
      · rw [List.append_nil] at hfront
        exact Or.inl ⟨before, [], by simpa using hfront, hne, hmissed, hleft, by simp⟩
      obtain ⟨rfl, rfl⟩ := List.cons.inj hrest
      -- the line stands in front of the run, for it is not one of its lines
      rcases List.append_eq_append_iff.1 hfront with ⟨inside, -, hrun⟩ | ⟨front, rfl, hmore⟩
      · have hmem := hmissed x (hrun ▸ List.mem_append_right _ List.mem_cons_self)
        rw [hx] at hmem
        cases hmem
      · rcases front with - | ⟨y, front⟩
        · have hmem := hmissed x (by rw [← List.nil_append run, ← hmore]; exact List.mem_cons_self)
          rw [hx] at hmem
          cases hmem
        · obtain ⟨rfl, rfl⟩ := List.cons.inj hmore
          refine Or.inr ⟨front, after, rfl, hne, hmissed, fun y hy => hleft y ?_, hright⟩
          simp [List.getLast?_append, List.getLast?_cons, Option.mem_def.1 hy]
  · rintro (⟨before, after, rfl, hne, hmissed, hleft, hright⟩ |
      ⟨before, after, rfl, hne, hmissed, hleft, hright⟩)
    · refine ⟨before, after ++ x :: rest, by simp, hne, hmissed, hleft, ?_⟩
      cases after with
      | nil => simpa using hx
      | cons y after => exact hright
    · refine ⟨o ++ x :: before, after, by simp, hne, hmissed, ?_, hright⟩
      cases before using List.reverseRecOn with
      | nil => simpa using hx
      | append_singleton before y =>
        rw [List.getLast?_concat] at hleft
        rw [← List.cons_append, ← List.append_assoc, List.getLast?_concat]
        exact hleft

/-- The loop cuts out the maximal runs. -/
theorem mem_runsFrom_iff (h : ∀ x ∈ o, isMissed x.2 = true) :
    run ∈ runsFrom o ls ↔ MissedRun (o ++ ls) run := by
  induction ls generalizing o with
  | nil => rw [runsFrom, List.append_nil, missedRun_of_missed h]
  | cons x rest ih =>
    rw [runsFrom]
    split
    · next hx =>
      have hmore : ∀ y ∈ o ++ [x], isMissed y.2 = true :=
        List.forall_mem_append.2 ⟨h, List.forall_mem_singleton.2 hx⟩
      rw [ih hmore, List.append_assoc, List.singleton_append]
    · next hx =>
      rw [missedRun_append_cons_iff (Bool.eq_false_iff.2 hx), List.mem_append,
        missedRun_of_missed h, ih (List.forall_mem_nil _), List.nil_append]

theorem ne_nil_of_mem_runsFrom (h : run ∈ runsFrom [] ls) : run ≠ [] := by
  obtain ⟨before, after, -, hbetween⟩ := (mem_runsFrom_iff (List.forall_mem_nil _)).1 h
  exact hbetween.ne_nil

theorem flatten_endRun (run : List (Nat × String)) : (endRun run).flatten = run := by
  rw [endRun]
  split
  · next h => exact h.symm
  · exact List.flatten_singleton

/-- The runs hold the missed lines, each in its place. -/
theorem flatten_runsFrom (o ls : List (Nat × String)) :
    (runsFrom o ls).flatten = o ++ ls.filter fun x => isMissed x.2 := by
  induction ls generalizing o with
  | nil => rw [runsFrom, flatten_endRun, List.filter_nil, List.append_nil]
  | cons x rest ih =>
    rw [runsFrom]
    split
    · next hx => rw [ih, List.filter_cons, if_pos hx, List.append_assoc, List.singleton_append]
    · next hx =>
      rw [List.flatten_append, flatten_endRun, ih, List.nil_append, List.filter_cons, if_neg hx]

/-- A run as the loop keeps it: its first line and its length. -/
def spanOf : List (Nat × String) → Option (Nat × Nat)
  | [] => none
  | x :: run => some (x.1, run.length + 1)

theorem spanOf_append_singleton (run : List (Nat × String)) (x : Nat × String) :
    spanOf (run ++ [x]) = some (((spanOf run).map fun s => (s.1, s.2 + 1)).getD (x.1, 1)) := by
  cases run with
  | nil => rfl
  | cons y run => simp [spanOf]

/-- The loop keeps of each run where it starts and how long it is. -/
theorem missedRuns_spanOf (o ls : List (Nat × String)) :
    missedRuns (spanOf o) ls = (runsFrom o ls).filterMap spanOf := by
  have hend : ∀ run, (endRun run).filterMap spanOf = (spanOf run).toList := by
    intro run
    cases run with
    | nil => rfl
    | cons x run => simp [endRun, spanOf]
  induction ls generalizing o with
  | nil =>
    rw [runsFrom, hend]
    cases spanOf o <;> rfl
  | cons x rest ih =>
    obtain ⟨n, status⟩ := x
    rw [runsFrom]
    split
    · next hx =>
      rw [← ih, spanOf_append_singleton]
      cases spanOf o <;> simp_all [missedRuns]
    · next hx =>
      rw [List.filterMap_append, hend, ← ih]
      cases spanOf o <;> simp_all [missedRuns, spanOf]

/-! ### Tables -/

namespace CoverageTable

/-- The lines of a function. -/
def LinesAt (t : CoverageTable) (file function : String) (lines : LineStatus) : Prop :=
  ∃ functions, (file, functions) ∈ t.lines ∧ (function, lines) ∈ functions

/-- Some but not all lines of a function were reached, and the lines are listed. -/
structure PartlyCovered (t : CoverageTable) (file function : String) (lines : LineStatus) :
    Prop where
  counts : ∃ counts, t.CountsAt file function counts ∧ 0 < counts.hit ∧ counts.hit < counts.total
  lines_at : t.LinesAt file function lines

/-- A line is listed as missed. -/
def Misses (t : CoverageTable) (l : Location) : Prop :=
  ∃ lines status, t.LinesAt l.file l.function lines ∧ Lists lines l.line status ∧
    isMissed status = true

/-- The lines of each function denote distinct numbers. -/
def Distinct (t : CoverageTable) : Prop :=
  ∀ file ∈ t.lines, ∀ function ∈ file.2, DistinctLines function.2

/-- Files and functions ascend, none twice. -/
structure Ordered (t : CoverageTable) : Prop where
  lines : KeyAscending t.lines
  lines_of : ∀ file ∈ t.lines, KeyAscending file.2
  counts : KeyAscending t.counts
  counts_of : ∀ file ∈ t.counts, KeyAscending file.2

end CoverageTable

/-- A field with a default that ascends has entries that ascend, and so have its values. -/
theorem ascending_of_orDefault {α : Type} {r : Record} {name : String}
    {decode : Value → Option α} {entries : List (String × List (String × α))}
    (h : r.orDefault name [] (Value.dictionary? (Value.dictionary? decode)) = some entries) :
    KeyAscending entries ∧ ∀ e ∈ entries, KeyAscending e.2 := by
  rw [Record.orDefault] at h
  split at h
  · obtain rfl := Option.some.inj h
    exact ⟨List.Pairwise.nil, List.forall_mem_nil _⟩
  · obtain ⟨hascending, hread⟩ := keyAscending_of_dictionary? h
    refine ⟨hascending, fun e he => ?_⟩
    obtain ⟨w, hw⟩ := hread e he
    exact (keyAscending_of_dictionary? hw).1

/-- What is read from a document is in order. -/
theorem ordered_of_readCoverage? {text : String} {t : CoverageTable}
    (h : readCoverage? text = some t) : t.Ordered := by
  obtain ⟨document, -, h⟩ := Option.bind_eq_some_iff.1 h
  obtain ⟨v, -, h⟩ := wrapped?_eq_some_iff.1 h
  obtain ⟨r, -, h⟩ := Option.bind_eq_some_iff.1 h
  obtain ⟨lines, hlines, h⟩ := Option.bind_eq_some_iff.1 h
  obtain ⟨counts, hcounts, h⟩ := Option.bind_eq_some_iff.1 h
  obtain rfl := Option.some.inj h
  obtain ⟨hl, hls⟩ := ascending_of_orDefault hlines
  obtain ⟨hc, hcs⟩ := ascending_of_orDefault hcounts
  exact ⟨hl, hls, hc, hcs⟩

section

variable {t : CoverageTable} {file function : String} {lines : LineStatus}

theorem linesOf?_eq_some_iff (h : t.Ordered) :
    linesOf? t file function = some lines ↔ t.LinesAt file function lines := by
  rw [linesOf?, Option.bind_eq_some_iff]
  refine exists_congr fun functions => ?_
  rw [h.lines.lookup_eq_some_iff]
  exact and_congr_right fun hmem => (h.lines_of _ hmem).lookup_eq_some_iff

theorem CoverageTable.Distinct.distinctLines (h : t.Distinct)
    (hlines : t.LinesAt file function lines) : DistinctLines lines := by
  obtain ⟨functions, hfile, hfunction⟩ := hlines
  exact h _ hfile _ hfunction

/-! ### Gaps -/

/-- The gap of a run: it stands at the first line and tells how many lines there are. -/
def IsGap (file function : String) (run : List (Nat × String)) (f : Finding) : Prop :=
  ∃ x more, run = x :: more ∧ f = .coverageGap ⟨file, function, x.1⟩ run.length

/-- The gaps in the lines of one function. -/
def gapsIn (file function : String) (ls : List (Nat × String)) : List Finding :=
  (missedRuns none ls).map fun (start, length) => .coverageGap ⟨file, function, start⟩ length

theorem forall₂_gapsIn (file function : String) (ls : List (Nat × String)) :
    List.Forall₂ (IsGap file function) (runsFrom [] ls) (gapsIn file function ls) := by
  have hruns : missedRuns none ls = (runsFrom [] ls).filterMap spanOf := missedRuns_spanOf [] ls
  have hne : ∀ run ∈ runsFrom [] ls, run ≠ [] := fun run => ne_nil_of_mem_runsFrom
  rw [gapsIn, hruns]
  generalize runsFrom [] ls = runs at hne
  induction runs with
  | nil => exact .nil
  | cons run runs ih =>
    obtain ⟨hrun, hruns⟩ := List.forall_mem_cons.1 hne
    cases run with
    | nil => exact absurd rfl hrun
    | cons x more => exact .cons ⟨x, more, rfl, rfl⟩ (ih hruns)

theorem exists_run_of_mem_gapsIn {ls : List (Nat × String)} {f : Finding}
    (h : f ∈ gapsIn file function ls) : ∃ run ∈ runsFrom [] ls, IsGap file function run f := by
  obtain ⟨i, hi, rfl⟩ := List.mem_iff_getElem.1 h
  have hgaps := forall₂_gapsIn file function ls
  have hrun : i < (runsFrom [] ls).length := by rwa [hgaps.length_eq]
  exact ⟨_, List.getElem_mem hrun, hgaps.get hrun hi⟩

theorem location_of_mem_gapsIn {ls : List (Nat × String)} {f : Finding}
    (h : f ∈ gapsIn file function ls) :
    f.location.file = file ∧ f.location.function = function := by
  obtain ⟨⟨start, length⟩, -, rfl⟩ := List.mem_map.1 h
  exact ⟨rfl, rfl⟩

/-- What the table of counts makes of one function. -/
def gapsOf (t : CoverageTable) (file : String) (e : String × FunctionCounts) : List Finding :=
  match linesOf? t file e.1 with
  | some lines => functionGaps file e.1 e.2 lines
  | none => []

theorem coverageGaps_eq (t : CoverageTable) :
    coverageGaps t = t.counts.flatMap fun e => e.2.flatMap (gapsOf t e.1) := rfl

theorem location_of_mem_gapsOf {e : String × FunctionCounts} {f : Finding}
    (h : f ∈ gapsOf t file e) : f.location.file = file ∧ f.location.function = e.1 := by
  rw [gapsOf] at h
  split at h
  · rw [functionGaps] at h
    split at h
    · cases h
    · exact location_of_mem_gapsIn h
  · cases h

theorem file_of_mem_flatMap_gapsOf {functions : List (String × FunctionCounts)} {f : Finding}
    (h : f ∈ functions.flatMap (gapsOf t file)) : f.location.file = file := by
  obtain ⟨e, -, hf⟩ := List.mem_flatMap.1 h
  exact (location_of_mem_gapsOf hf).1

/-- A function with a gap is partly covered. -/
theorem exists_partlyCovered (ht : t.Ordered) {f : Finding} (h : f ∈ coverageGaps t) :
    ∃ lines, t.PartlyCovered f.location.file f.location.function lines := by
  obtain ⟨file, function, counts, lines, hcounts, hlines, hf⟩ := mem_coverageGaps_iff.1 h
  rw [linesOf?_eq_some_iff ht] at hlines
  rw [functionGaps] at hf
  split at hf
  · cases hf
  · next hpartly =>
    rw [not_or, Nat.not_le] at hpartly
    obtain ⟨rfl, rfl⟩ := location_of_mem_gapsIn hf
    exact ⟨lines, ⟨counts, hcounts, Nat.pos_of_ne_zero hpartly.1, hpartly.2⟩, hlines⟩

/-- The gaps of a partly covered function are those in its listed lines. -/
theorem filter_coverageGaps (ht : t.Ordered) (h : t.PartlyCovered file function lines) :
    (coverageGaps t).filter (fun f => f.location.file = file ∧ f.location.function = function) =
      gapsIn file function (sortedLines lines) := by
  obtain ⟨⟨counts, ⟨functions, hfile, hfunction⟩, hpos, hlt⟩, hlines⟩ := h
  have hsplit : ∀ fs : List Finding,
      fs.filter (fun f => f.location.file = file ∧ f.location.function = function) =
        (fs.filter fun f => f.location.file = file).filter fun f =>
          f.location.function = function := by
    intro fs
    rw [List.filter_filter]
    exact List.filter_congr fun f _ => by rw [Bool.decide_and, Bool.and_comm]
  rw [hsplit, coverageGaps_eq, filter_flatMap_key ht.counts.nodup
    (fun _ _ _ hf => file_of_mem_flatMap_gapsOf hf) hfile,
    filter_flatMap_key (ht.counts_of _ hfile).nodup
      (fun _ _ _ hf => (location_of_mem_gapsOf hf).2) hfunction,
    gapsOf, (linesOf?_eq_some_iff ht).2 hlines]
  dsimp only
  rw [functionGaps, if_neg (by omega), gapsIn]

/-! ### The index -/

/-- What the table of lines says of each line. -/
def indexed (t : CoverageTable) : List (Location × Bool) :=
  t.lines.flatMap fun file => file.2.flatMap fun function =>
    (sortedLines function.2).map fun x => (⟨file.1, function.1, x.1⟩, !isMissed x.2)

/-- The index is filled with them one after the other. -/
theorem entries_coverageIndex (t : CoverageTable) :
    (coverageIndex t).entries = (indexed t).reverse := by
  have hfill : ∀ (entries : List (Location × Bool)) (index : CoverageIndex),
      (entries.foldl (fun index e => index.insert e.1 e.2) index).entries =
        entries.reverse ++ index.entries := by
    intro entries
    induction entries with
    | nil => exact fun index => rfl
    | cons e entries ih =>
      intro index
      rw [List.foldl_cons, ih, List.reverse_cons, List.append_assoc]
      rfl
  have hfold : coverageIndex t =
      (indexed t).foldl (fun index e => index.insert e.1 e.2) {} := by
    simp only [coverageIndex, indexed, List.foldl_flatMap, List.foldl_map]
  rw [hfold, hfill, List.append_nil]

theorem mem_indexed_iff {l : Location} {hit : Bool} :
    (l, hit) ∈ indexed t ↔ ∃ lines status, t.LinesAt l.file l.function lines ∧
      Lists lines l.line status ∧ (!isMissed status) = hit := by
  rw [indexed, List.mem_flatMap]
  constructor
  · rintro ⟨⟨file, functions⟩, hfile, h⟩
    obtain ⟨⟨function, lines⟩, hfunction, h⟩ := List.mem_flatMap.1 h
    obtain ⟨⟨n, status⟩, hmem, heq⟩ := List.mem_map.1 h
    obtain ⟨rfl, rfl⟩ := Prod.mk.inj heq
    exact ⟨lines, status, ⟨functions, hfile, hfunction⟩, mem_sortedLines.1 hmem, rfl⟩
  · rintro ⟨lines, status, ⟨functions, hfile, hfunction⟩, hlists, rfl⟩
    exact ⟨_, hfile, List.mem_flatMap.2 ⟨_, hfunction,
      List.mem_map.2 ⟨_, mem_sortedLines.2 hlists, rfl⟩⟩⟩

theorem nodup_indexed (ht : t.Ordered) (hdistinct : t.Distinct) :
    ((indexed t).map Prod.fst).Nodup := by
  rw [indexed, List.map_flatMap]
  refine nodup_flatMap_keys Location.file ht.lines.nodup ?_ ?_
  · intro file hfile l hl
    obtain ⟨⟨l, hit⟩, hmem, rfl⟩ := List.mem_map.1 hl
    obtain ⟨function, -, hmem⟩ := List.mem_flatMap.1 hmem
    obtain ⟨x, -, heq⟩ := List.mem_map.1 hmem
    exact congrArg (·.1.file) heq.symm
  · intro file hfile
    rw [List.map_flatMap]
    refine nodup_flatMap_keys Location.function (ht.lines_of _ hfile).nodup ?_ ?_
    · intro function hfunction l hl
      obtain ⟨⟨l, hit⟩, hmem, rfl⟩ := List.mem_map.1 hl
      obtain ⟨x, -, heq⟩ := List.mem_map.1 hmem
      exact congrArg (·.1.function) heq.symm
    · intro function hfunction
      rw [List.map_map]
      have hascending := (isListing_sortedLines (hdistinct _ hfile _ hfunction)).ascending
      refine List.pairwise_map.2 (hascending.imp fun hlt heq => hlt.ne ?_)
      exact congrArg Location.line heq

/-- The index answers as the table lists the line. -/
theorem hit?_coverageIndex (ht : t.Ordered) (hdistinct : t.Distinct) (l : Location) :
    (coverageIndex t).hit? l = some false ↔ t.Misses l := by
  have hnodup : ((indexed t).reverse.map Prod.fst).Nodup := by
    rw [List.map_reverse, List.nodup_reverse]
    exact nodup_indexed ht hdistinct
  rw [CoverageIndex.hit?, entries_coverageIndex, lookup_eq_some_iff_mem hnodup, List.mem_reverse,
    mem_indexed_iff]
  simp only [CoverageTable.Misses, Bool.not_eq_false']

end

/-! ### Gaps and the index -/

section

variable {ls : List (Nat × String)}

/-- The missed lines of a listing are parted among the runs. -/
theorem pairwise_disjoint_runsFrom (h : ls.Pairwise fun a b => a.1 < b.1) :
    (runsFrom [] ls).Pairwise List.Disjoint := by
  refine (List.nodup_flatten.1 ?_).2
  rw [flatten_runsFrom, List.nil_append]
  exact (h.imp fun hlt => ne_of_apply_ne Prod.fst hlt.ne).filter _

theorem nodup_runsFrom (h : ls.Pairwise fun a b => a.1 < b.1) : (runsFrom [] ls).Nodup := by
  refine (pairwise_disjoint_runsFrom h).imp_of_mem fun {run} _ hrun _ hdisjoint heq => ?_
  obtain ⟨x, hx⟩ := List.exists_mem_of_ne_nil _ (ne_nil_of_mem_runsFrom hrun)
  exact hdisjoint hx (heq ▸ hx)

/-- Every missed line is in one run. -/
theorem existsUnique_run (h : ls.Pairwise fun a b => a.1 < b.1) {x : Nat × String} (hx : x ∈ ls)
    (hmissed : isMissed x.2 = true) : ∃! run, run ∈ runsFrom [] ls ∧ x ∈ run := by
  have hflat : x ∈ (runsFrom [] ls).flatten := by
    rw [flatten_runsFrom, List.nil_append]
    exact List.mem_filter.2 ⟨hx, hmissed⟩
  obtain ⟨run, hrun, hmem⟩ := List.mem_flatten.1 hflat
  refine ⟨run, ⟨hrun, hmem⟩, fun other hother => ?_⟩
  by_contra hne
  have hsymm : Std.Symm (List.Disjoint (α := Nat × String)) := ⟨fun _ _ h => fun _ ha hb => h hb ha⟩
  exact (pairwise_disjoint_runsFrom h).forall hother.1 hrun hne hother.2 hmem

end

/-- **The gaps are the maximal runs of missed lines, and the index agrees.**  A table is read in
which the lines of each function denote distinct numbers.  Then every gap is in a function that
is partly covered; the gaps of such a function are one for each maximal run of missed lines, at
the first line and with the number of lines; every missed line is in one of the runs, whose
lengths add up to the number of missed lines.  And the index denies exactly the lines that are
listed as missed, hence the line of every gap. -/
theorem coverageGaps_are_missed_runs {text : String} {t : CoverageTable}
    (hread : readCoverage? text = some t) (hdistinct : t.Distinct) :
    (∀ f ∈ coverageGaps t, ∃ lines, t.PartlyCovered f.location.file f.location.function lines) ∧
    (∀ file function lines, t.PartlyCovered file function lines →
      ∃ ls, IsListing lines ls ∧ ∃ runs : List (List (Nat × String)),
        runs.Nodup ∧ (∀ run, run ∈ runs ↔ MissedRun ls run) ∧
        List.Forall₂ (IsGap file function) runs ((coverageGaps t).filter fun f =>
          f.location.file = file ∧ f.location.function = function) ∧
        (∀ x ∈ ls, isMissed x.2 = true → ∃! run, run ∈ runs ∧ x ∈ run) ∧
        (runs.map List.length).sum = (ls.filter fun x => isMissed x.2).length) ∧
    (∀ l, (coverageIndex t).hit? l = some false ↔ t.Misses l) ∧
    ∀ f ∈ coverageGaps t, (coverageIndex t).hit? f.location = some false := by
  have ht := ordered_of_readCoverage? hread
  have hruns : ∀ ls run, run ∈ runsFrom [] ls ↔ MissedRun ls run :=
    fun ls run => mem_runsFrom_iff (List.forall_mem_nil _)
  refine ⟨fun f hf => exists_partlyCovered ht hf, fun file function lines hpartly => ?_,
    hit?_coverageIndex ht hdistinct, fun f hf => ?_⟩
  · have hlisting := isListing_sortedLines (hdistinct.distinctLines hpartly.lines_at)
    refine ⟨sortedLines lines, hlisting, runsFrom [] (sortedLines lines),
      nodup_runsFrom hlisting.ascending, hruns _, ?_,
      fun x => existsUnique_run hlisting.ascending, ?_⟩
    · rw [filter_coverageGaps ht hpartly]
      exact forall₂_gapsIn file function _
    · rw [← List.length_flatten, flatten_runsFrom, List.nil_append]
  · -- the first line of a run is one of its lines
    obtain ⟨lines, hpartly⟩ := exists_partlyCovered ht hf
    have hmem : f ∈ gapsIn f.location.file f.location.function (sortedLines lines) := by
      rw [← filter_coverageGaps ht hpartly]
      exact List.mem_filter.2 ⟨hf, by simp⟩
    obtain ⟨run, hrun, x, more, rfl, heq⟩ := exists_run_of_mem_gapsIn hmem
    obtain ⟨before, after, hsplit, hbetween⟩ := (hruns _ _).1 hrun
    have hx : x ∈ sortedLines lines := by
      rw [← hsplit]
      simp
    have hline : f.location.line = x.1 := congrArg (·.location.line) heq
    rw [hit?_coverageIndex ht hdistinct]
    refine ⟨lines, x.2, hpartly.lines_at, ?_, hbetween.missed x List.mem_cons_self⟩
    rw [hline]
    exact mem_sortedLines.1 hx

/-- Coverage in which the lines 9 and 10 were missed. -/
def gapDocument : String :=
  "\x7b\"viewer-coverage\":\x7b\"coverage\":\x7b\"f\":\x7b\"g\":\x7b\"1\":\"hit\"," ++
    "\"10\":\"missed\",\"9\":\"missed\",\"x\":\"missed\"\x7d\x7d\x7d," ++
    "\"function_coverage\":\x7b\"f\":\x7b\"g\":\x7b\"hit\":1,\"total\":3\x7d\x7d\x7d\x7d\x7d"

/-- The table of the document. -/
def gapTable : CoverageTable where
  lines := [("f", [("g", [("1", "hit"), ("10", "missed"), ("9", "missed"), ("x", "missed")])])]
  counts := [("f", [("g", ⟨1, 3⟩)])]

theorem coverageGaps_gapTable : coverageGaps gapTable = [.coverageGap ⟨"f", "g", 9⟩ 2] := by
  have hsorted : ∀ ls, ls = [(1, "hit"), (10, "missed"), (9, "missed")] →
      ls.mergeSort (fun a b => a.1 ≤ b.1) = [(1, "hit"), (9, "missed"), (10, "missed")] := by
    rintro ls rfl
    simp [List.mergeSort, List.MergeSort.Internal.splitInTwo]
  have hlines : sortedLines [("1", "hit"), ("10", "missed"), ("9", "missed"), ("x", "missed")] =
      [(1, "hit"), (9, "missed"), (10, "missed")] := by
    rw [sortedLines]
    exact hsorted _ (by decide)
  have hgaps : coverageGaps gapTable = gapsIn "f" "g"
      (sortedLines [("1", "hit"), ("10", "missed"), ("9", "missed"), ("x", "missed")]) := by
    simp [coverageGaps, gapTable, linesOf?, functionGaps, gapsIn]
  rw [hgaps, hlines]
  rfl

theorem coverageGaps_are_missed_runs_gapTable :
    readCoverage? gapDocument = some gapTable ∧ gapTable.Distinct ∧
      coverageGaps gapTable = [.coverageGap ⟨"f", "g", 9⟩ 2] ∧
      (coverageIndex gapTable).hit? ⟨"f", "g", 9⟩ = some false := by
  have hread : readCoverage? gapDocument = some gapTable := by decide +kernel
  have hdistinct : gapTable.Distinct := by
    unfold CoverageTable.Distinct DistinctLines
    decide
  refine ⟨hread, hdistinct, coverageGaps_gapTable, ?_⟩
  exact (coverageGaps_are_missed_runs hread hdistinct).2.2.2 (.coverageGap ⟨"f", "g", 9⟩ 2)
    (coverageGaps_gapTable ▸ List.mem_singleton_self _)

end HarnessRepair
