import HarnessRepair.Proofs.Files.Apart
import HarnessRepair.Proofs.Patch.LineMap
import HarnessRepair.Proofs.Patch.Reached
import Mathlib.Data.List.Sort

/-!
# Which lines stripping takes

The lines to strip are named by their numbers, in any order and any number of times.
Stripping first puts the numbers in order, and then each names one line of the text: what
is left are the other lines, byte for byte, and what is answered are the named ones.
Taking the lines out one at a time does the same only if the last one goes first, since
each removal moves all lines behind it.

## Main definitions

* `linesWhere` — the lines of a text whose numbers are of some kind.
* `removeEach` — lines taken out one at a time, the last number first.
* `OutOfRange` — a number that is the number of no line.

## Main results

* `dropListed_eq`, `map_getD_ascending` — **what is left, and what is taken.**
* `removeEach_ascending` — one at a time from the end is all at once.
* `run_stripLines_exact` — **when lines are stripped, and what that does.**
-/

namespace HarnessRepair

open Text

/-! ### Numbers in order -/

theorem ascending_insertAscending {n : Nat} {ns : List Nat} (h : Ascending ns) :
    Ascending (insertAscending n ns) := by
  induction ns with
  | nil => exact List.pairwise_singleton _ n
  | cons m ns ih =>
    obtain ⟨hm, hns⟩ := List.pairwise_cons.1 h
    rw [insertAscending]
    by_cases hlt : n < m
    · rw [if_pos hlt]
      refine List.pairwise_cons.2 ⟨List.forall_mem_cons.2 ⟨hlt, fun j hj => ?_⟩, h⟩
      exact hlt.trans (hm j hj)
    · rw [if_neg hlt]
      by_cases heq : n = m
      · rw [if_pos heq]
        exact h
      · rw [if_neg heq]
        refine List.pairwise_cons.2 ⟨fun j hj => ?_, ih hns⟩
        rcases mem_insertAscending.1 hj with rfl | hj
        · omega
        · exact hm j hj

theorem ascending_ascending (ns : List Nat) : Ascending (ascending ns) := by
  induction ns with
  | nil => exact List.Pairwise.nil
  | cons n ns ih => exact ascending_insertAscending ih

/-- In order, only which numbers there are matters. -/
theorem ascending_congr {ms ns : List Nat} (h : ∀ n, n ∈ ms ↔ n ∈ ns) :
    ascending ms = ascending ns :=
  (ascending_ascending ms).eq_of_mem_iff (ascending_ascending ns) fun n => by
    rw [mem_ascending, mem_ascending, h]

/-- The first number of some kind, in order, is the smallest. -/
theorem find?_ascending_eq_some_iff {bad : Nat → Bool} {ns : List Nat} {n : Nat} :
    (ascending ns).find? bad = some n ↔
      n ∈ ns ∧ bad n = true ∧ ∀ m ∈ ns, bad m = true → n ≤ m := by
  have hasc := ascending_ascending ns
  rw [List.find?_eq_some_iff_append]
  constructor
  · rintro ⟨hbad, before, after, hsplit, hbefore⟩
    rw [hsplit, Ascending, List.pairwise_append, List.pairwise_cons] at hasc
    have hn : n ∈ ascending ns := by
      rw [hsplit]
      exact List.mem_append_right _ List.mem_cons_self
    refine ⟨mem_ascending.1 hn, hbad, fun m hm hbad' => ?_⟩
    rw [← mem_ascending, hsplit, List.mem_append, List.mem_cons] at hm
    rcases hm with hm | rfl | hm
    · have hgood := hbefore m hm
      rw [hbad'] at hgood
      cases hgood
    · exact Nat.le_refl m
    · exact (hasc.2.1.1 m hm).le
  · rintro ⟨hn, hbad, hleast⟩
    obtain ⟨before, after, hsplit⟩ := List.append_of_mem (mem_ascending.2 hn)
    refine ⟨hbad, before, after, hsplit, fun m hm => ?_⟩
    have hmem : m ∈ ns := by
      rw [← mem_ascending, hsplit]
      exact List.mem_append_left _ hm
    rw [hsplit, Ascending, List.pairwise_append] at hasc
    have hlt := hasc.2.2 m hm n List.mem_cons_self
    rw [Bool.not_eq_true', Bool.eq_false_iff]
    intro hbad'
    have := hleast m hmem hbad'
    omega

/-! ### The lines that are left, and the lines that are taken -/

/-- The lines whose numbers are of some kind, in order; the first line has the number 1. -/
def linesWhere (kind : Nat → Prop) [DecidablePred kind] (lines : List Line) : List Line :=
  ((lines.zipIdx 1).filter fun line => kind line.2).map (·.1)

/-- Dropping the listed lines leaves those that are not listed. -/
theorem dropListed_eq (listed : List Nat) (first : Nat) (ls : List Line) :
    Snapshot.dropListed listed first ls =
      ((ls.zipIdx first).filter fun line => line.2 ∉ listed).map (·.1) := by
  induction ls generalizing first with
  | nil => rfl
  | cons l ls ih =>
    rw [Snapshot.dropListed, ih, List.zipIdx_cons, List.filter_cons]
    by_cases h : first ∈ listed
    · rw [if_pos (List.contains_iff_mem.2 h), if_neg (by simpa using h)]
    · rw [if_neg fun hc => h (List.contains_iff_mem.1 hc), if_pos (by simpa using h),
        List.map_cons]

/-- What is left of a text are the lines that are not listed. -/
theorem terminated_withoutLines_eq (text : String) (listed : List Nat) :
    terminated (withoutLines text listed).toList =
      linesWhere (· ∉ listed) (terminated text.toList) := by
  rw [terminated_withoutLines, dropListed_eq, linesWhere]

/-- In order, the listed numbers are the numbers of the lines that are listed. -/
theorem ascending_eq_filter {listed : List Nat} {count : Nat}
    (h : ∀ n ∈ listed, 1 ≤ n ∧ n ≤ count) :
    ascending listed = (List.range' 1 count).filter (· ∈ listed) := by
  have hrange : Ascending (List.range' 1 count) := List.pairwise_lt_range' ..
  refine (ascending_ascending listed).eq_of_mem_iff (hrange.filter _) fun n => ?_
  rw [mem_ascending, List.mem_filter, List.mem_range'_1, decide_eq_true_eq]
  refine ⟨fun hn => ⟨?_, hn⟩, And.right⟩
  have := h n hn
  omega

/-- The lines of a text under their numbers. -/
theorem zipIdx_eq_map (lines : List Line) :
    lines.zipIdx 1 = (List.range' 1 lines.length).map fun n => (lines.getD (n - 1) [], n) := by
  refine List.ext_getElem (by simp) fun i hi hi' => ?_
  rw [List.length_zipIdx] at hi
  simp [hi, Nat.add_comm]

/-- **The lines under the listed numbers, in order, are the lines that are listed.** -/
theorem map_getD_ascending {listed : List Nat} {lines : List Line}
    (h : ∀ n ∈ listed, 1 ≤ n ∧ n ≤ lines.length) :
    (ascending listed).map (fun n => lines.getD (n - 1) []) =
      linesWhere (· ∈ listed) lines := by
  rw [ascending_eq_filter h, linesWhere, zipIdx_eq_map, List.filter_map, List.map_map]
  rfl

/-! ### One at a time -/

/-- The lines without those of some numbers, taken out one at a time, the last number first;
none if a number is that of no line. -/
def removeEach : List Nat → List Line → Option (List Line)
  | [], lines => some lines
  | n :: ns, lines =>
    (removeEach ns lines).bind fun rest =>
      if 1 ≤ n ∧ n ≤ rest.length then some (rest.eraseIdx (n - 1)) else none

/-- Numbers before the first line are those of no line. -/
theorem dropListed_cons_of_lt {n first : Nat} (h : n < first) (ns : List Nat) (ls : List Line) :
    Snapshot.dropListed (n :: ns) first ls = Snapshot.dropListed ns first ls := by
  induction ls generalizing first with
  | nil => rfl
  | cons l ls ih =>
    have hmem : (n :: ns).contains first = ns.contains first := by
      rw [List.contains_cons, beq_eq_false_iff_ne.2 (by omega), Bool.false_or]
    rw [Snapshot.dropListed, Snapshot.dropListed, hmem, ih (by omega)]

/-- Where all later lines are out already, one more number takes one more line. -/
theorem eraseIdx_dropListed {n first : Nat} {ns : List Nat} (hle : first ≤ n)
    (hlater : ∀ m ∈ ns, n < m) {ls : List Line} (hlt : n < first + ls.length) :
    n < first + (Snapshot.dropListed ns first ls).length ∧
      (Snapshot.dropListed ns first ls).eraseIdx (n - first) =
        Snapshot.dropListed (n :: ns) first ls := by
  induction ls generalizing first with
  | nil =>
    rw [List.length_nil] at hlt
    omega
  | cons l ls ih =>
    have hkept : ¬ ns.contains first = true := by
      intro hc
      have := hlater first (List.contains_iff_mem.1 hc)
      omega
    rw [Snapshot.dropListed, if_neg hkept, Snapshot.dropListed, List.contains_cons]
    rw [List.length_cons] at hlt ⊢
    by_cases heq : first = n
    · subst heq
      rw [beq_self_eq_true, Bool.true_or, if_pos rfl, Nat.sub_self, List.eraseIdx_cons_zero,
        dropListed_cons_of_lt (Nat.lt_succ_self first)]
      exact ⟨by omega, rfl⟩
    · have hle' : first + 1 ≤ n := by omega
      have hlt' : n < first + 1 + ls.length := by omega
      obtain ⟨hlength, herase⟩ := ih hle' hlt'
      have hindex : n - first = (n - (first + 1)) + 1 := by omega
      rw [beq_eq_false_iff_ne.2 heq, Bool.false_or, if_neg hkept, hindex,
        List.eraseIdx_cons_succ, herase]
      exact ⟨by omega, rfl⟩

/-- **Taking lines out one at a time, from the end, takes out the listed ones.** -/
theorem removeEach_ascending {ns : List Nat} (hasc : Ascending ns) {lines : List Line}
    (h : ∀ n ∈ ns, 1 ≤ n ∧ n ≤ lines.length) :
    removeEach ns lines = some (Snapshot.dropListed ns 1 lines) := by
  induction ns with
  | nil =>
    have hall : Snapshot.dropListed [] 1 lines = lines := by
      rw [dropListed_eq, List.filter_eq_self.2 (by simp), List.zipIdx_map_fst]
    rw [removeEach, hall]
  | cons n ns ih =>
    obtain ⟨hlater, hns⟩ := List.pairwise_cons.1 hasc
    obtain ⟨hn, hrest⟩ := List.forall_mem_cons.1 h
    have hlt : n < 1 + lines.length := by omega
    obtain ⟨hlength, herase⟩ := eraseIdx_dropListed hn.1 hlater hlt
    rw [removeEach, ih hns hrest, Option.bind_some, if_pos ⟨hn.1, by omega⟩, herase]

/-! ### Stripping a snapshot -/

/-- A number that is the number of no line. -/
def OutOfRange (lines : List Line) (n : Nat) : Prop := n = 0 ∨ lines.length < n

theorem not_outOfRange_iff {lines : List Line} {n : Nat} :
    ¬ OutOfRange lines n ↔ 1 ≤ n ∧ n ≤ lines.length := by
  rw [OutOfRange]
  omega

/-- Some smallest number is the number of no line, or all are numbers of lines. -/
theorem exists_least_outOfRange (lines : List Line) (listed : List Nat) :
    (∃ n ∈ listed, OutOfRange lines n ∧ ∀ m ∈ listed, OutOfRange lines m → n ≤ m) ∨
      ∀ n ∈ listed, 1 ≤ n ∧ n ≤ lines.length := by
  by_cases h : ∀ n ∈ listed, 1 ≤ n ∧ n ≤ lines.length
  · exact Or.inr h
  · push Not at h
    have hex : ∃ n, n ∈ listed ∧ OutOfRange lines n := by
      obtain ⟨n, hn, hout⟩ := h
      refine ⟨n, hn, ?_⟩
      rw [OutOfRange]
      omega
    classical
    refine Or.inl ⟨Nat.find hex, (Nat.find_spec hex).1, (Nat.find_spec hex).2, fun m hm hout => ?_⟩
    exact Nat.find_min' hex ⟨hm, hout⟩

namespace Snapshot

variable {s : Snapshot} {listed : List Nat}

/-- The smallest number that is the number of no line is named. -/
theorem strip_of_outOfRange {n : Nat} (hn : n ∈ listed)
    (hout : OutOfRange (terminated s.source.toList) n)
    (hleast : ∀ m ∈ listed, OutOfRange (terminated s.source.toList) m → n ≤ m) :
    s.strip listed = .error (.lineOutOfRange n (terminated s.source.toList).length) := by
  have hbad : ∀ m, (m == 0 || decide ((terminated s.source.toList).length < m)) = true ↔
      OutOfRange (terminated s.source.toList) m := fun m => by
    rw [Bool.or_eq_true, beq_iff_eq, decide_eq_true_eq, OutOfRange]
  have hfind : (ascending listed).find?
      (fun m => m == 0 || decide ((terminated s.source.toList).length < m)) = some n :=
    find?_ascending_eq_some_iff.2 ⟨hn, (hbad n).2 hout, fun m hm hm' =>
      hleast m hm ((hbad m).1 hm')⟩
  rw [strip]
  dsimp only
  rw [hfind]

/-- Lines are stripped whose numbers are all numbers of lines. -/
theorem strip_of_inRange
    (h : ∀ n ∈ listed, 1 ≤ n ∧ n ≤ (terminated s.source.toList).length) :
    ∃ removed, s.strip listed =
        .ok ({ s with source := withoutLines s.source listed }, removed) ∧
      removed.map (·.2) = (linesWhere (· ∈ listed) (terminated s.source.toList)).map
        fun l => String.ofList (trimChars l) := by
  have hfind : (ascending listed).find?
      (fun m => m == 0 || decide ((terminated s.source.toList).length < m)) = none := by
    rw [List.find?_eq_none]
    intro m hm
    have := h m (mem_ascending.1 hm)
    rw [Bool.or_eq_true, beq_iff_eq, decide_eq_true_eq]
    omega
  refine ⟨(ascending listed).map fun n => (n, String.ofList
    (trimChars ((terminated s.source.toList).getD (n - 1) []))), ?_, ?_⟩
  · rw [strip]
    dsimp only
    rw [hfind, withoutLines, dropListed_congr (fun _ => mem_ascending)]
  · rw [← map_getD_ascending h, List.map_map, List.map_map]
    rfl

/-- How often and in which order lines are listed makes no difference. -/
theorem strip_congr {other : List Nat} (h : ∀ n, n ∈ other ↔ n ∈ listed) :
    s.strip other = s.strip listed := by
  rw [strip, strip, ascending_congr h]

end Snapshot

/-! ### Stripping a harness -/

/-- The store once some lines have been stripped. -/
def PatchStore.stripped (s : PatchStore) (listed : List Nat) : PatchStore :=
  { s with current := { s.current with source := withoutLines s.source listed } }

section

variable {ε : Type} {s : PatchStore} {w : World ε} {listed : List Nat}

/-- All that can become of lines that are listed for stripping. -/
theorem run_stripLines_outcome (hfree : s.inFlight = none) (hlog : s.log = [])
    (listed : List Nat) (w : World ε) :
    (∃ n ∈ listed, OutOfRange (terminated s.source.toList) n ∧
      (∀ m ∈ listed, OutOfRange (terminated s.source.toList) m → n ≤ m) ∧
      (s.stripLines listed).run w =
        ((.error (.lineOutOfRange n (terminated s.source.toList).length), s), w)) ∨
    ((∀ n ∈ listed, 1 ≤ n ∧ n ≤ (terminated s.source.toList).length) ∧
      ((∃ fault w', w.files.writable s.path = .error fault ∧ Told w w' ∧
          (s.stripLines listed).run w = ((.error (.io fault), s), w')) ∨
        ∃ w', (s.stripLines listed).run w =
            ((.ok ((linesWhere (· ∈ listed) (terminated s.source.toList)).map
              fun l => String.ofList (trimChars l)), s.stripped listed), w') ∧
          (∃ place, w.files.writable s.path = .ok place) ∧
          Holds s.path (s.stripped listed).source w')) := by
  rcases exists_least_outOfRange (terminated s.source.toList) listed with
    ⟨n, hn, hout, hleast⟩ | hin
  · have hstrip := Snapshot.strip_of_outOfRange (s := s.current) hn hout hleast
    exact Or.inl ⟨n, hn, hout, hleast, PatchStore.run_stripLines_misfit hfree hlog hstrip⟩
  · refine Or.inr ⟨hin, ?_⟩
    obtain ⟨removed, hstrip, hremoved⟩ := Snapshot.strip_of_inRange (s := s.current) hin
    cases hwrite : w.files.write s.path (withoutLines s.source listed) with
    | error fault =>
      have hrefused := FileSystem.write_eq_error_iff.1 hwrite
      obtain ⟨w', hrun, htold⟩ := PatchStore.run_stripLines_refused hfree hlog hstrip hrefused
      exact Or.inl ⟨fault, w', hrefused, htold, hrun⟩
    | ok files =>
      obtain ⟨w', hrun, rfl, -⟩ := PatchStore.run_stripLines_of_write hfree hlog hstrip hwrite
      rw [hremoved] at hrun
      exact Or.inr ⟨w', hrun, FileSystem.exists_write_iff.1 ⟨_, hwrite⟩,
        FileSystem.readText_of_write hwrite⟩

theorem run_stripLines_ok_iff (hfree : s.inFlight = none) (hlog : s.log = []) :
    (∃ removed t w', (s.stripLines listed).run w = ((.ok removed, t), w')) ↔
      (∀ n ∈ listed, 1 ≤ n ∧ n ≤ (terminated s.source.toList).length) ∧
        ∃ place, w.files.writable s.path = .ok place := by
  rcases run_stripLines_outcome hfree hlog listed w with ⟨n, hn, hout, -, hrun⟩ |
    ⟨hin, ⟨fault, w', hrefused, -, hrun⟩ | ⟨w', hrun, hplace, -⟩⟩
  · refine iff_of_false ?_ ?_
    · rintro ⟨removed, t, w', h⟩
      cases hrun.symm.trans h
    · rintro ⟨hin, -⟩
      exact not_outOfRange_iff.2 (hin n hn) hout
  · refine iff_of_false ?_ ?_
    · rintro ⟨removed, t, w', h⟩
      cases hrun.symm.trans h
    · rintro ⟨-, place, hplace⟩
      cases hrefused.symm.trans hplace
  · exact iff_of_true ⟨_, _, _, hrun⟩ ⟨hin, hplace⟩

/-- What has come of lines that were stripped. -/
theorem run_stripLines_ok (hfree : s.inFlight = none) (hlog : s.log = []) {removed : List String}
    {t : PatchStore} {w' : World ε}
    (h : (s.stripLines listed).run w = ((.ok removed, t), w')) :
    (∀ n ∈ listed, 1 ≤ n ∧ n ≤ (terminated s.source.toList).length) ∧ t = s.stripped listed ∧
      removed = (linesWhere (· ∈ listed) (terminated s.source.toList)).map
        (fun l => String.ofList (trimChars l)) ∧
      Holds s.path t.source w' := by
  rcases run_stripLines_outcome hfree hlog listed w with ⟨n, -, -, -, hrun⟩ |
    ⟨hin, ⟨fault, u, -, -, hrun⟩ | ⟨u, hrun, -, hholds⟩⟩
  · cases hrun.symm.trans h
  · cases hrun.symm.trans h
  · cases hrun.symm.trans h
    exact ⟨hin, rfl, rfl, hholds⟩

/-- What a refusal says, and that it changes nothing. -/
theorem run_stripLines_error (hfree : s.inFlight = none) (hlog : s.log = []) {e : PatchError}
    {t : PatchStore} {w' : World ε}
    (h : (s.stripLines listed).run w = ((.error e, t), w')) :
    t = s ∧ Told w w' ∧
      ((∃ n ∈ listed, OutOfRange (terminated s.source.toList) n ∧
          (∀ m ∈ listed, OutOfRange (terminated s.source.toList) m → n ≤ m) ∧
          e = .lineOutOfRange n (terminated s.source.toList).length) ∨
        ∃ fault, e = .io fault ∧ w.files.writable s.path = .error fault) := by
  rcases run_stripLines_outcome hfree hlog listed w with ⟨n, hn, hout, hleast, hrun⟩ |
    ⟨hin, ⟨fault, u, hrefused, htold, hrun⟩ | ⟨u, hrun, -⟩⟩
  · cases hrun.symm.trans h
    exact ⟨rfl, Told.refl w, Or.inl ⟨n, hn, hout, hleast, rfl⟩⟩
  · cases hrun.symm.trans h
    exact ⟨rfl, htold, Or.inr ⟨fault, rfl, hrefused⟩⟩
  · cases hrun.symm.trans h

/-- The lines of the stripped text are those that are left when the listed ones are taken out
one at a time. -/
theorem removeEach_stripped
    (hin : ∀ n ∈ listed, 1 ≤ n ∧ n ≤ (terminated s.source.toList).length) :
    removeEach (ascending listed) (terminated s.source.toList) =
      some (terminated (s.stripped listed).source.toList) := by
  have hleft : terminated (s.stripped listed).source.toList =
      Snapshot.dropListed (ascending listed) 1 (terminated s.source.toList) := by
    rw [dropListed_congr (fun _ => mem_ascending)]
    exact terminated_withoutLines s.source listed
  rw [removeEach_ascending (ascending_ascending listed)
    fun n hn => hin n (mem_ascending.1 hn), hleft]

/-- **When lines are stripped, and what that does.**  From a harness without patches, lines
are stripped exactly if each number is the number of a line and the harness can be written.
Otherwise nothing changes; of the numbers that are the number of no line the smallest is named.
What is left are the lines that are not listed, byte for byte, also if the lines are taken out
one at a time, the last one first; what is answered are the trimmed texts of the listed ones.
Neither depends on the order in which the lines are listed, nor on how often.  And going back
to the text read at the start brings that text back. -/
theorem run_stripLines_exact (hfree : s.inFlight = none) (hlog : s.log = [])
    (listed : List Nat) (w : World ε) :
    let lines := terminated s.source.toList
    let ran := (s.stripLines listed).run w
    ((∃ removed t w', ran = ((.ok removed, t), w')) ↔
      (∀ n ∈ listed, 1 ≤ n ∧ n ≤ lines.length) ∧
        ∃ place, w.files.writable s.path = .ok place) ∧
    (∀ n ∈ listed, OutOfRange lines n → (∀ m ∈ listed, OutOfRange lines m → n ≤ m) →
      ran = ((.error (.lineOutOfRange n lines.length), s), w)) ∧
    (∀ e t w', ran = ((.error e, t), w') → t = s ∧ Told w w' ∧
      ((∃ n ∈ listed, OutOfRange lines n ∧ (∀ m ∈ listed, OutOfRange lines m → n ≤ m) ∧
          e = .lineOutOfRange n lines.length) ∨
        ∃ fault, e = .io fault ∧ w.files.writable s.path = .error fault)) ∧
    (∀ removed t w', ran = ((.ok removed, t), w') →
      t = { s with current := { s.current with source := t.source } } ∧
      t.source.toList = (linesWhere (· ∉ listed) lines).flatten ∧
      removeEach (ascending listed) lines = some (terminated t.source.toList) ∧
      removed = (linesWhere (· ∈ listed) lines).map (fun l => String.ofList (trimChars l)) ∧
      Holds s.path t.source w' ∧
      ∃ w'', t.restorePristine.run w' =
          ((.ok (), { t with inFlight := none, current := { source := s.pristine } }), w'') ∧
        Holds s.path s.pristine w'') ∧
    ∀ other, (∀ n, n ∈ other ↔ n ∈ listed) → (s.stripLines other).run w = ran := by
  intro lines ran
  refine ⟨run_stripLines_ok_iff hfree hlog, ?_, fun e t w' => run_stripLines_error hfree hlog,
    ?_, ?_⟩
  · intro n hn hout hleast
    have hstrip := Snapshot.strip_of_outOfRange (s := s.current) hn hout hleast
    exact PatchStore.run_stripLines_misfit hfree hlog hstrip
  · intro removed t w' h
    obtain ⟨hin, rfl, hremoved, hholds⟩ := run_stripLines_ok hfree hlog h
    obtain ⟨w'', hrestore, hback, -⟩ :=
      PatchStore.run_restorePristine (s := s.stripped listed) hholds
    refine ⟨rfl, ?_, removeEach_stripped hin, hremoved, hholds, w'', hrestore, hback⟩
    rw [← terminated_withoutLines_eq, flatten_terminated]
    rfl
  · intro other hsame
    have hstrip : s.stripLines other = (s.stripLines listed : Run ε _) := by
      rw [PatchStore.stripLines, PatchStore.stripLines, Snapshot.strip_congr hsame]
    exact congrArg (fun m => m.run w) hstrip

end

/-- The declaration and the precondition, listed out of order and twice. -/
def strayLines : List Nat := [3, 2, 3]

theorem run_stripLines_exact_strayLines :
    let store := PatchStore.ofText "harness.c" smallHarness .restoreText
    store.inFlight = none ∧ store.log = [] ∧
      ∃ t w' w'', (store.stripLines strayLines).run smallWorld =
          ((.ok ["int n;", "assume(n);"], t), w') ∧
        Holds "harness.c" "void harness()\x7b\r\n  f(n);\r\n\x7d" w' ∧
        (t.restorePristine.run w').2 = w'' ∧ Holds "harness.c" smallHarness w'' := by
  intro store
  have hfree : store.inFlight = none := rfl
  have hlog : store.log = [] := rfl
  obtain ⟨hgoes, -, -, hdone, -⟩ := run_stripLines_exact hfree hlog strayLines smallWorld
  obtain ⟨removed, t, w', hrun⟩ := hgoes.2 ⟨by decide +kernel, holds_smallHarness.exists_writable⟩
  obtain ⟨-, hleft, -, hremoved, hholds, w'', hrestore, hback⟩ := hdone removed t w' hrun
  have hanswer : removed = ["int n;", "assume(n);"] := hremoved.trans (by decide +kernel)
  have htext : t.source = "void harness()\x7b\r\n  f(n);\r\n\x7d" := by
    refine String.toList_inj.1 (hleft.trans ?_)
    decide +kernel
  rw [hanswer] at hrun
  rw [htext] at hholds
  exact ⟨hfree, hlog, t, w', w'', hrun, hholds, by rw [hrestore], hback⟩

end HarnessRepair
