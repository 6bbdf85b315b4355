import HarnessRepair.Proofs.Patch.History
import HarnessRepair.Proofs.Patch.Replay
import HarnessRepair.Proofs.Patch.Weave

/-!
# What holds of every store in use

Three questions about a store that has gone through any operations: whether its
log explains the text, whether its line map is right, and whether closing it
brings the text back that was read at the start.

## Main definitions

* `LinesMapped` — the line map of a store tells old lines from inserted ones.
* `PutBack` — the change in flight has put the text back that was read.

## Main results

* `useStore_replay` — **the text is the replay of the log over the stripped text.**
* `useStore_linesMapped` — **the line map is right.**
* `close_useStore_iff` — **closing restores the text unless the change in flight
  has put it back.**
* `Accounted.not_putBack` — which never happens where no line is stripped.
-/

namespace HarnessRepair

open Text

variable {ε : Type} {path text : String} {w : World ε}

/-! ### A small harness -/

/-- A harness with a precondition, and without a terminator at its end. -/
def smallHarness : String :=
  "void harness()\x7b\r\n  int n;\r\n  assume(n);\r\n  f(n);\r\n\x7d"

/-- A world with that harness and nothing else. -/
def smallWorld : World Unit where
  files := FileSystem.put {} ["harness.c"] (.file (.text smallHarness))
  events := []
  outside := ()

theorem holds_smallHarness : Holds "harness.c" smallHarness smallWorld := rfl

/-- A precondition behind the declaration. -/
def smallPatch (statement : String) : Patch :=
  ⟨statement, { function := "harness", previousLine := "int n;" }⟩

/-- A history with a strip, and a change of two patches that is kept. -/
def smallHistory : List StoreAction :=
  [.takeSnapshot, .stripLines [3],
    .applyAll [smallPatch "assume(n < 9);", smallPatch "assume(n > 1);"],
    .commit 1, .apply (smallPatch "assume(n != 3);")]

/-- Words can number the lines that the history leaves. -/
theorem lines_smallHistory {outcomes : List Bool} {b : Workbench} {w' : World Unit}
    (hrun : (useStore "harness.c" .keepChanges smallHistory).run smallWorld =
      (.ok (outcomes, b), w')) :
    (terminated b.store.source.toList).length < wordLimit := by
  have hfew : ((useStore "harness.c" .keepChanges smallHistory).run smallWorld).1.toOption.all
      (fun r => decide ((terminated r.2.store.source.toList).length < wordLimit)) = true := by
    decide +kernel
  rw [hrun] at hfew
  exact of_decide_eq_true hfew

/-! ### The log explains the text -/

theorem terminated_withoutLines (text : String) (listed : List Nat) :
    terminated (withoutLines text listed).toList =
      Snapshot.dropListed listed 1 (terminated text.toList) := by
  rw [withoutLines, String.toList_ofList]
  exact terminated_flatten ((isCut_terminated _).sublist (dropListed_sublist _ _ _))

/-- Stripping leaves no carriage return at the end of a line. -/
theorem Provenance.returnFree_base (c : Provenance) (h : ReturnFree (terminated text.toList)) :
    ReturnFree (terminated (c.base text).toList) := by
  rw [base]
  induction c.strips generalizing text with
  | nil => exact h
  | cons listed strips ih =>
    refine ih ?_
    rw [terminated_withoutLines]
    exact h.sublist (dropListed_sublist _ _ _)

/-- **The text in the file is the replay of the log over the stripped text**, and the
log holds the patches of the changes that are in force, in order. -/
theorem useStore_replay (h : Holds path text w) (hpaired : ReturnsPaired text.toList)
    (policy : RestorePolicy) (actions : List StoreAction) :
    ∃ outcomes b w', (useStore path policy actions).run w = (.ok (outcomes, b), w') ∧
      let made := (Account.recordAll {} actions outcomes).current
      Holds path b.store.source w' ∧
        b.store.log.map (·.patch) = made.patches ∧
        replay (made.base text) (b.store.log.map (·.patch)) = .ok b.store.source := by
  obtain ⟨outcomes, b, w', hrun, hafter⟩ := accounted_useStore h policy actions
  have hfree := Provenance.returnFree_base (Account.recordAll {} actions outcomes).current
    (returnFree_terminated hpaired)
  have hlog : b.store.log.map (·.patch) =
      (Account.recordAll {} actions outcomes).current.patches := hafter.current.log_eq
  refine ⟨outcomes, b, w', hrun, hafter.holds, hlog, ?_⟩
  rw [hlog]
  exact (Grown.replay hafter.current hfree).2

theorem useStore_replay_smallHistory :
    Holds "harness.c" smallHarness smallWorld ∧ ReturnsPaired smallHarness.toList ∧
      ∃ outcomes b w', (useStore "harness.c" .keepChanges smallHistory).run smallWorld =
          (.ok (outcomes, b), w') ∧
        let made := (Account.recordAll {} smallHistory outcomes).current
        Holds "harness.c" b.store.source w' ∧
          b.store.log.map (·.patch) = made.patches ∧
          replay (made.base smallHarness) (b.store.log.map (·.patch)) = .ok b.store.source :=
  ⟨holds_smallHarness, by decide, useStore_replay holds_smallHarness (by decide) _ _⟩

/-! ### The line map -/

/-- The line map of a store whose text without patches is `base`. -/
structure LinesMapped (base : String) (s : PatchStore) : Prop where
  ascending : Ascending s.current.inserted
  within : ∀ i ∈ s.current.inserted, 1 ≤ i ∧ i ≤ (terminated s.source.toList).length
  /-- Going back never subtracts too much. -/
  noUnderflow : ∀ line, (s.current.inserted.filter (· < line)).length ≤ line
  /-- Every old line is where the map says; the last one may have been ended since. -/
  carried : ∀ c old, lineAt? (terminated base.toList) c = some old →
    ∃ line, s.currentLine c = .ok line ∧ s.canonicalLine? line = some c ∧
      ∃ tail, lineAt? (terminated s.source.toList) line = some (old ++ tail) ∧
        (tail = [] ∨
          c = (terminated base.toList).length ∧ old.getLast? ≠ some '\n' ∧ IsNewline tail)
  /-- So is every other line for which the map can be followed. -/
  beyond : ∀ c, c + s.current.inserted.length < wordLimit →
    ∃ line, s.currentLine c = .ok line ∧ s.canonicalLine? line = some c
  back : ∀ line c, line < wordLimit → s.canonicalLine? line = some c →
    s.currentLine c = .ok line
  /-- All other lines are statements of the log. -/
  added : ∀ line l, lineAt? (terminated s.source.toList) line = some l →
    (∀ c old, lineAt? (terminated base.toList) c = some old → s.currentLine c ≠ .ok line) →
      s.canonicalLine? line = none ∧
        s.insertedStatementAt? line = some (String.ofList (trimChars l)) ∧
        ∃ a ∈ s.log, trimChars l ∈ statementLines a.patch.statement

theorem canonicalLine?_placeOf {inserted : List Nat} (hasc : Ascending inserted) (c : Nat) :
    canonicalLine? inserted (placeOf inserted c) = some c := by
  rw [canonicalLine?_eq, if_neg (placeOf_spec hasc c).1, unmapped_placeOf hasc]

/-- A line that no old line has gone to is an inserted one. -/
theorem Woven.mem_inserted {base : List Line} {d : Draft} (h : Woven base d) {line : Nat}
    {l : Line} (hl : lineAt? d.lines line = some l)
    (hnone : ∀ c old, lineAt? base c = some old → placeOf d.inserted c ≠ line) :
    line ∈ d.inserted := by
  by_contra hmem
  obtain ⟨hpos, hle⟩ := lineAt?_bounds hl
  have hbefore := insertedBefore_le h.ascending (a := 1) (fun i hi => (h.within i hi).1) line
  have hroom := unmapped_le h.ascending (fun i hi => (h.within i hi).2) hmem hle
  have hlength := h.length_eq
  -- going back from the line leads to an old line
  obtain ⟨c, hc⟩ : ∃ c, line - insertedBefore d.inserted line = c + 1 :=
    Nat.exists_eq_add_of_le' (by omega)
  have hlt : c < base.length := by omega
  refine hnone (c + 1) base[c] (List.getElem?_eq_getElem hlt) ?_
  rw [← hc, placeOf_unmapped h.ascending hmem]

/-- **In woven lines that words can number, the line map is right.** -/
theorem linesMapped_of_woven {base : String} {s : PatchStore}
    (h : Woven (terminated base.toList) s.current.draft)
    (hword : (terminated s.source.toList).length < wordLimit) : LinesMapped base s := by
  have hasc : Ascending s.current.inserted := h.ascending
  -- below the limit the map is the one without a limit
  have hcurrent : ∀ c, placeOf s.current.inserted c < wordLimit →
      s.currentLine c = .ok (placeOf s.current.inserted c) :=
    fun c hc => currentLine_eq_placeOf hc
  have hold : ∀ c old, lineAt? (terminated base.toList) c = some old →
      s.currentLine c = .ok (placeOf s.current.inserted c) := by
    intro c old hc
    obtain ⟨l, hl, -⟩ := h.carried c old hc
    have hle := (lineAt?_bounds hl).2
    exact hcurrent c (by exact Nat.lt_of_le_of_lt hle hword)
  refine
    { ascending := hasc
      within := h.within
      noUnderflow := ?_
      carried := ?_
      beyond := ?_
      back := ?_
      added := ?_ }
  · intro line
    rw [← List.countP_eq_length_filter]
    exact insertedBefore_le_self hasc line
  · intro c old hc
    refine ⟨_, hold c old hc, canonicalLine?_placeOf hasc c, ?_⟩
    obtain ⟨l, hl, tail, rfl, htail⟩ := h.carried c old hc
    refine ⟨tail, hl, ?_⟩
    rcases htail with htail | ⟨ho, hn⟩
    · exact Or.inl htail
    · obtain ⟨hpos, -⟩ := lineAt?_bounds hc
      rw [lineAt?_of_pos _ hpos] at hc
      have hlast := (isCut_terminated base.toList).length_of_open hc ho
      exact Or.inr ⟨by omega, ho.getLast?_ne, hn⟩
  · intro c hc
    have hle := placeOf_le s.current.inserted c
    exact ⟨_, hcurrent c (by omega), canonicalLine?_placeOf hasc c⟩
  · intro line c hline hc
    rw [PatchStore.canonicalLine?, canonicalLine?_eq] at hc
    by_cases hmem : line ∈ s.current.inserted
    · rw [if_pos hmem] at hc
      cases hc
    · rw [if_neg hmem] at hc
      obtain rfl := Option.some.inj hc
      have hplace := placeOf_unmapped hasc hmem
      rw [hcurrent _ (by omega), hplace]
  · intro line l hl hnone
    have hmem : line ∈ s.current.inserted := by
      refine h.mem_inserted hl ?_
      intro c old hc hplace
      exact hnone c old hc ((hold c old hc).trans (congrArg _ hplace))
    obtain ⟨m, hm, hstatement⟩ := h.statements line hmem
    obtain rfl : l = m := Option.some.inj (hl.symm.trans hm)
    obtain ⟨hpos, -⟩ := lineAt?_bounds hl
    refine ⟨?_, ?_, hstatement⟩
    · rw [PatchStore.canonicalLine?, canonicalLine?_eq, if_pos hmem]
    · have hcond : (s.current.inserted.contains line && line != 0) = true := by
        rw [Bool.and_eq_true, List.contains_iff_mem, bne_iff_ne]
        exact ⟨hmem, by omega⟩
      rw [lineAt?_of_pos _ hpos] at hl
      rw [PatchStore.insertedStatementAt?, if_pos hcond, hl]
      rfl

/-- **The line map is right in every store in use**, as long as words can number the
lines of its text. -/
theorem useStore_linesMapped (h : Holds path text w) (policy : RestorePolicy)
    (actions : List StoreAction) :
    ∃ outcomes b w', (useStore path policy actions).run w = (.ok (outcomes, b), w') ∧
      ((terminated b.store.source.toList).length < wordLimit →
        LinesMapped ((Account.recordAll {} actions outcomes).current.base text) b.store) := by
  obtain ⟨outcomes, b, w', hrun, hafter⟩ := accounted_useStore h policy actions
  exact ⟨outcomes, b, w', hrun, linesMapped_of_woven (Grown.woven hafter.current)⟩

theorem useStore_linesMapped_smallHistory :
    Holds "harness.c" smallHarness smallWorld ∧
      ∃ outcomes b w', (useStore "harness.c" .keepChanges smallHistory).run smallWorld =
          (.ok (outcomes, b), w') ∧
        (terminated b.store.source.toList).length < wordLimit ∧
        LinesMapped ((Account.recordAll {} smallHistory outcomes).current.base smallHarness)
          b.store := by
  obtain ⟨outcomes, b, w', hrun, hmapped⟩ :=
    useStore_linesMapped holds_smallHarness .keepChanges smallHistory
  have hword := lines_smallHistory hrun
  exact ⟨holds_smallHarness, outcomes, b, w', hrun, hword, hmapped hword⟩

/-! ### Closing -/

/-- The change in flight has put the text back that was read at the start, and the text
before it was another one. -/
def PutBack (s : PatchStore) : Prop :=
  ∃ change, s.inFlight = some change ∧ s.source = s.pristine ∧ change.prior.source ≠ s.pristine

/-- What closing leaves is the text read at the start, with one exception. -/
theorem leftBehind_eq_pristine_iff {s : PatchStore} (h : s.policy = .restoreText) :
    s.leftBehind = s.pristine ↔ ¬ PutBack s := by
  rw [PatchStore.leftBehind]
  by_cases hsource : s.source = s.pristine
  · rw [if_neg fun hc => hc.2 hsource]
    cases hf : s.inFlight with
    | none =>
      refine iff_of_true hsource ?_
      rintro ⟨change, hchange, -⟩
      rw [hf] at hchange
      cases hchange
    | some change =>
      constructor
      · rintro hprior ⟨change', hchange', -, hne⟩
        rw [hf] at hchange'
        obtain rfl := Option.some.inj hchange'
        exact hne hprior
      · intro hnot
        by_contra hne
        exact hnot ⟨change, hf, hsource, hne⟩
  · rw [if_pos ⟨h, hsource⟩]
    refine iff_of_true rfl ?_
    rintro ⟨change, -, heq, -⟩
    exact hsource heq

/-- **Closing a store that restores brings the text back exactly if the change in flight
has not put it back itself.** -/
theorem close_useStore_iff (h : Holds path text w) (actions : List StoreAction) :
    ∃ outcomes b w' w'', (useStore path .restoreText actions).run w = (.ok (outcomes, b), w') ∧
      b.store.close.run w' = ((), w'') ∧ (Holds path text w'' ↔ ¬ PutBack b.store) := by
  obtain ⟨outcomes, b, w', hrun, hafter⟩ := accounted_useStore h .restoreText actions
  obtain ⟨w'', hclose, hholds⟩ := PatchStore.run_close hafter.holds_path
  rw [hafter.path_eq] at hholds
  refine ⟨outcomes, b, w', w'', hrun, hclose, ?_⟩
  rw [← leftBehind_eq_pristine_iff hafter.policy_eq, hafter.pristine_eq]
  constructor
  · intro h'
    exact Except.ok.inj (hholds.symm.trans h')
  · intro h'
    rw [← h']
    exact hholds

theorem close_useStore_iff_smallHistory :
    Holds "harness.c" smallHarness smallWorld ∧
      ∃ outcomes b w' w'', (useStore "harness.c" .restoreText smallHistory).run smallWorld =
          (.ok (outcomes, b), w') ∧
        b.store.close.run w' = ((), w'') ∧
        (Holds "harness.c" smallHarness w'' ↔ ¬ PutBack b.store) :=
  ⟨holds_smallHarness, close_useStore_iff holds_smallHarness _⟩

/-- The precondition is stripped and comes back as a change. -/
def puttingBack : List StoreAction :=
  [.stripLines [3], .apply (smallPatch "assume(n);")]

/-- Closing then leaves the stripped text, not the one read at the start. -/
theorem not_restored_puttingBack :
    ¬ ∀ (actions : List StoreAction) outcomes b w',
      (useStore "harness.c" .restoreText actions).run smallWorld = (.ok (outcomes, b), w') →
        Holds "harness.c" smallHarness (b.store.close.run w').2 := by
  intro hall
  obtain ⟨outcomes, b, w', hrun, -⟩ :=
    accounted_useStore holds_smallHarness .restoreText puttingBack
  have hleft : (match (useStore "harness.c" .restoreText puttingBack).run smallWorld with
      | (.ok (_, b), w') => (b.store.close.run w').2.files.readText "harness.c"
      | (.error _, w') => w'.files.readText "harness.c").toOption =
        some (withoutLines smallHarness [3]) := by
    decide +kernel
  have hheld := hall puttingBack outcomes b w' hrun
  rw [hrun] at hleft
  dsimp only at hleft
  rw [hheld] at hleft
  exact absurd hleft (by decide)

/-- Where no line is stripped, no change puts the text back, so closing restores it. -/
theorem Accounted.not_putBack {policy : RestorePolicy} {a : Account} {b : Workbench}
    (h : Accounted path text policy a b w) (hstrips : a.current.strips = []) :
    ¬ PutBack b.store := by
  rintro ⟨change, hchange, hsource, hne⟩
  rw [h.pristine_eq] at hsource hne
  obtain ⟨hprior, hsame, ps, hext⟩ := h.inFlight change hchange
  have hbase : a.prior.base text = text := by
    rw [Provenance.base, ← hsame, hstrips]
    rfl
  -- the text before the change stands between the text read and itself
  have hfrom : text.toList.Sublist change.prior.source.toList := by
    have hsub := Grown.sublist hprior
    rwa [hbase] at hsub
  have hto : change.prior.source.toList.Sublist text.toList := by
    have hsub := Snapshot.extend_sublist hext
    rwa [← hsource]
  exact hne (String.toList_inj.1 (hto.antisymm hfrom))

end HarnessRepair
