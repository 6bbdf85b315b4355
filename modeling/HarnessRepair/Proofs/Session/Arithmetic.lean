import HarnessRepair.Proofs.Oracle.Excerpt
import HarnessRepair.Proofs.Session.Origin
import HarnessRepair.Proofs.Verifier.Clean

/-!
# The arithmetic of line numbers

Line numbers are words of 64 bits, and those of a report may be as large as a word can be.  A
finding that is tracked has come back from a line of a report, on the text as it is or on it
with more inserted lines; so it never goes beyond that line when it is shown to the oracle.
This says nothing of the text with a change that the report was not made on, nor of the lines
shown behind a finding elsewhere: those sums may be no words, and then they stop the session.
The exact numbers are `placeOf` and `insertedBefore`, which know no limit.

## Main definitions

* `Visit.LinesExact` — the lines of a visit are exact, as far as words reach.

## Main results

* `Grown.placeOf_le` — changes only move lines on.
* `ReportedOn.placeOf_lt` — a finding that was reported is shown at a word.
* `Session.run_lines_exact` — **the lines of a session are exact, and where it is stopped.**
* `Session.not_exact_lastLine` — a session that is stopped by its report.
-/

namespace HarnessRepair

open Text

variable {ε : Type}

section

variable {inserted : List Nat} {line : Nat}

/-! ### Subtractions -/

/-- Going back from a line and there again leads to the line. -/
theorem placeOf_of_canonicalLine? (hasc : Ascending inserted) {old : Nat}
    (h : canonicalLine? inserted line = some old) : placeOf inserted old = line := by
  rw [canonicalLine?_eq] at h
  split at h
  · cases h
  · next hmem =>
    obtain rfl := Option.some.inj h
    exact placeOf_unmapped hasc hmem

/-- Going back is an exact subtraction. -/
theorem canonicalLine?_exact (hasc : Ascending inserted) {old : Nat}
    (h : canonicalLine? inserted line = some old) :
    (old : Int) = line - insertedBefore inserted line := by
  have hle := insertedBefore_le_self hasc line
  rw [canonicalLine?_eq] at h
  split at h
  · cases h
  · obtain rfl := Option.some.inj h
    omega

end

/-! ### Changes -/

/-- A patch only moves lines on. -/
theorem placeOf_le_shiftInserted {inserted : List Nat} (hasc : Ascending inserted)
    (start count line : Nat) :
    placeOf inserted line ≤ placeOf (shiftInserted start count inserted) line := by
  rw [placeOf_shiftInserted hasc, moved]
  split <;> omega

/-- So do the patches of a change. -/
theorem Snapshot.placeOf_le_of_extend {s t : Snapshot} {ps : List Patch}
    (hasc : Ascending s.inserted) (hext : s.extend ps = .ok t) :
    Ascending t.inserted ∧ ∀ line, placeOf s.inserted line ≤ placeOf t.inserted line := by
  refine Draft.addAll_induct
    (P := fun d => Ascending d.inserted ∧ ∀ line, placeOf s.inserted line ≤ placeOf d.inserted line)
    ?_ (draft_extend hext) ⟨hasc, fun line => Nat.le_refl _⟩
  rintro d p e ⟨hd, hle⟩ hadd
  obtain ⟨k, indent, -, -, -, -, -, hinserted⟩ := Draft.add_eq_ok hadd
  rw [hinserted]
  exact ⟨ascending_shiftInserted hd _ _,
    fun line => (hle line).trans (placeOf_le_shiftInserted hd _ _ line)⟩

/-- **So do any changes.** -/
theorem Grown.placeOf_le {s t : Snapshot} {changes : List (List Patch)} (h : Grown s changes t)
    (hasc : Ascending s.inserted) :
    Ascending t.inserted ∧ ∀ line, placeOf s.inserted line ≤ placeOf t.inserted line := by
  induction h with
  | start => exact ⟨hasc, fun line => Nat.le_refl _⟩
  | more _ hext ih =>
    obtain ⟨hmid, hle⟩ := ih
    obtain ⟨hend, hle'⟩ := Snapshot.placeOf_le_of_extend hmid hext
    exact ⟨hend, fun line => (hle line).trans (hle' line)⟩

/-! ### Findings -/

section

variable {harnessFile : String} {s : Snapshot} {store : PatchStore} {f g : Finding}

/-- How a finding in the harness has been brought back. -/
theorem rebase?_of_isIn (h : rebase? harnessFile store g = some f)
    (hin : f.location.isIn harnessFile = true) :
    store.canonicalLine? g.location.line = some f.location.line ∧
      (f = g ∨ f = g.relocated f.location.line) := by
  rw [rebase?] at h
  split at h
  · split at h
    · next line hline =>
      obtain rfl := Option.some.inj h
      split
      · next heq => exact ⟨heq ▸ hline, Or.inl rfl⟩
      · exact ⟨hline, Or.inr rfl⟩
    · cases h
  · next hout =>
    obtain rfl := Option.some.inj h
    exact absurd hin hout

/-- A finding elsewhere is as it was reported. -/
theorem rebase?_of_not_isIn (h : rebase? harnessFile store g = some f)
    (hout : ¬ f.location.isIn harnessFile = true) : f = g := by
  rw [rebase?] at h
  split at h
  · next hin =>
    split at h
    · obtain rfl := Option.some.inj h
      refine absurd ?_ hout
      split
      · exact hin
      · exact hin
    · cases h
  · exact (Option.some.inj h).symm

/-- **A finding that was reported is shown at a word**, where fewer changes are in force. -/
theorem ReportedOn.placeOf_lt (h : ReportedOn harnessFile s f) (hasc : Ascending s.inserted)
    (hin : f.location.isIn harnessFile = true) :
    placeOf s.inserted f.location.line < wordLimit := by
  obtain ⟨changes, store, raw, report, hgrown, hread, hmem⟩ := h
  obtain ⟨g, hg, hback⟩ := List.mem_filterMap.1 hmem
  obtain ⟨c, l, rfl, hlt⟩ := exists_complaint_of_mem_report hread hg
  obtain ⟨hasc', hle⟩ := hgrown.placeOf_le hasc
  have hplace := placeOf_of_canonicalLine? hasc' (rebase?_of_isIn hback hin).1
  rw [c.location_madeAt] at hplace
  have := hle f.location.line
  omega

/-- Its own line is a word wherever it lies. -/
theorem ReportedOn.line_lt (h : ReportedOn harnessFile s f) (hasc : Ascending s.inserted) :
    f.location.line < wordLimit := by
  by_cases hin : f.location.isIn harnessFile = true
  · have hle := le_placeOf s.inserted f.location.line
    have hlt := h.placeOf_lt hasc hin
    omega
  · obtain ⟨changes, store, raw, report, hgrown, hread, hmem⟩ := h
    obtain ⟨g, hg, hback⟩ := List.mem_filterMap.1 hmem
    obtain ⟨c, l, rfl, hlt⟩ := exists_complaint_of_mem_report hread hg
    rwa [rebase?_of_not_isIn hback hin, c.location_madeAt]

end

/-- A line of the harness is shown where it is now, if that is a word. -/
theorem shownLocation_of_isIn {target : HarnessTarget} {store : PatchStore} {l : Location}
    (hin : l.isIn target.harnessFile = true) (hword : l.line < wordLimit) :
    shownLocation target store l =
      if placeOf store.current.inserted l.line < wordLimit then
        .ok { l with line := placeOf store.current.inserted l.line }
      else .error .addition := by
  rw [shownLocation, if_pos hin, PatchStore.currentLine, currentLine_eq hword]
  split <;> rfl

/-- Elsewhere it always is. -/
theorem isIn_of_shownLocation_error {target : HarnessTarget} {store : PatchStore} {l : Location}
    {o : Overflow} (h : shownLocation target store l = .error o) :
    l.isIn target.harnessFile = true := by
  by_contra hout
  rw [shownLocation, if_neg hout] at h
  cases h

/-! ### A visit -/

/-- The lines that are computed at a visit are exact, or a sum is no word. -/
structure Visit.LinesExact (c : Controller ε) (v : Visit ε) : Prop where
  /-- A finding of the harness is shown where its line is now. -/
  shown : v.entry.finding.location.isIn v.session.target.harnessFile = true →
    v.request.finding.location.line =
        placeOf v.session.store.current.inserted v.entry.finding.location.line ∧
      placeOf v.session.store.current.inserted v.entry.finding.location.line < wordLimit
  /-- So are the lines around a finding, unless the last sum is no word. -/
  around : ∀ count,
    (max v.entry.finding.location.line 1 + excerptRadius < wordLimit → ∃ first last,
      excerptBounds v.entry.finding.location.line count = .ok (first, last) ∧
      (first : Int) = max (max (v.entry.finding.location.line : Int) 1 - excerptRadius) 1 ∧
      last = min (max v.entry.finding.location.line 1 + excerptRadius) count) ∧
    (wordLimit ≤ max v.entry.finding.location.line 1 + excerptRadius →
      excerptBounds v.entry.finding.location.line count = .error .addition)
  /-- So is the line that is looked up in the report on a change, unless it is no word. -/
  lookedUp : ∀ t u, v.trial? c = some (t, u) →
    v.entry.finding.location.isIn t.target.harnessFile = true →
    (placeOf t.store.current.inserted v.entry.finding.location.line < wordLimit →
      shownLocation t.target t.store v.entry.finding.location = .ok
        { v.entry.finding.location with
          line := placeOf t.store.current.inserted v.entry.finding.location.line }) ∧
    (wordLimit ≤ placeOf t.store.current.inserted v.entry.finding.location.line →
      shownLocation t.target t.store v.entry.finding.location = .error .addition)
  /-- So are the lines that are brought back from that report. -/
  broughtBack : ∀ t u, v.trial? c = some (t, u) → ∀ line old,
    t.store.canonicalLine? line = some old →
      (old : Int) = line - insertedBefore t.store.current.inserted line

/-- The lines of a visit to a finding that was reported are exact. -/
theorem Visit.linesExact {c : Controller ε} {v : Visit ε}
    (h : ReportedOn v.session.target.harnessFile v.session.store.current v.entry.finding)
    (hasc : Ascending v.session.store.current.inserted) : v.LinesExact c where
  shown := by
    intro hin
    have hlt := h.placeOf_lt hasc hin
    obtain ⟨shown, context, hshown, -, hrequest⟩ := v.exists_request_eq
    rw [shownLocation_of_isIn hin (h.line_lt hasc), if_pos hlt] at hshown
    obtain rfl := Except.ok.inj hshown
    exact ⟨by rw [hrequest], hlt⟩
  around := by
    intro count
    rw [excerptBounds_eq]
    refine ⟨fun hlt => ⟨_, _, if_pos hlt, ?_, rfl⟩, fun hle => if_neg (by omega)⟩
    omega
  lookedUp := by
    intro t u htrial hin
    rw [shownLocation_of_isIn hin (h.line_lt hasc)]
    exact ⟨fun hlt => if_pos hlt, fun hle => if_neg (by omega)⟩
  broughtBack := by
    intro t u htrial line old hback
    obtain ⟨proposal, next, -, hext, hstore, -⟩ := concluded htrial
    have hcurrent : t.store.current = next := by
      rw [hstore]
      rfl
    rw [PatchStore.canonicalLine?, hcurrent] at hback
    rw [hcurrent]
    exact canonicalLine?_exact (Snapshot.placeOf_le_of_extend hasc hext).1 hback

/-! ### A session -/

namespace Session

variable {c : Controller ε} {s t : Session} {w u : World ε} {v : Visit ε} {base : String}

/-- A request about a finding that was reported can be written, unless the finding lies
elsewhere, behind all lines that have as many behind them. -/
theorem far_of_request_error {e : LedgerEntry} {o : Overflow} (h : s.request e w = .error o)
    (hreported : ReportedOn s.target.harnessFile s.store.current e.finding)
    (hasc : Ascending s.store.current.inserted) :
    ¬ e.finding.location.isIn s.target.harnessFile = true ∧
      wordLimit ≤ max e.finding.location.line 1 + excerptRadius := by
  by_contra hnear
  rw [not_and, Nat.not_le] at hnear
  obtain ⟨request, hrequest⟩ := exists_request (w := w) hnear (hreported.placeOf_lt hasc)
  cases h.symm.trans hrequest

/-- **The lines of a session are exact**: at each of its visits they are, as far as words reach.
The session is stopped only by a sum that is no word: that of the line looked up for a finding
of the harness in the report on its change, or that of the last line to be shown around an open
finding elsewhere. -/
theorem run_lines_exact (hempty : s.ledger = []) (hbase : s.store.current = { source := base }) :
    (∀ v ∈ visits c s w, v.session.target = s.target ∧ v.LinesExact c) ∧
    ∀ o t u, (run c s).run w = ((.error o, t), u) →
      (∃ v ∈ visits c s w, ∃ x y, v.trial? c = some (x, y) ∧
        v.entry.finding.location.isIn x.target.harnessFile = true ∧
        wordLimit ≤ placeOf x.store.current.inserted v.entry.finding.location.line) ∨
      ∃ e ∈ t.ledger, ¬ e.Done ∧ ¬ e.finding.location.isIn s.target.harnessFile = true ∧
        wordLimit ≤ max e.finding.location.line 1 + excerptRadius := by
  have hnone : s.store.current.inserted = [] := by rw [hbase]
  have hstart : Ascending s.store.current.inserted := by
    rw [hnone]
    exact List.Pairwise.nil
  have hexact : ∀ v ∈ visits c s w, v.session.target = s.target ∧ v.LinesExact c := by
    intro v hv
    obtain ⟨htarget, hreported⟩ := reportedOn_of_mem_visits hempty hnone hv
    obtain ⟨changes, hgrown⟩ := grown_of_mem_visits hempty hv
    rw [← htarget] at hreported
    exact ⟨htarget, Visit.linesExact hreported (hgrown.placeOf_le hstart).1⟩
  refine ⟨hexact, fun o t u hstops => ?_⟩
  rcases stopped_cases ((lasts_traced c s.target).and (lasts_grown c s.store.current)) hempty
    (fun fs hinitial => ⟨⟨rfl, traced_begun hempty hnone hinitial⟩, .start⟩) hstops with
    ⟨v, hv, hstopped⟩ | ⟨us, e, ⟨⟨htarget, htraced⟩, hgrown⟩, he, hopen, hrequest⟩
  · -- the line is looked up in the harness, and is exact if it is a word
    obtain ⟨x, y, htrial, hshown⟩ := Visit.exists_of_stopped hstopped
    have hin := isIn_of_shownLocation_error hshown
    refine Or.inl ⟨v, hv, x, y, htrial, hin, ?_⟩
    by_contra hlt
    cases hshown.symm.trans (((hexact v hv).2.lookedUp x y htrial hin).1 (by omega))
  · have hreported := htraced e he hopen
    rw [← htarget] at hreported
    have hfar := far_of_request_error hrequest hreported (hgrown.placeOf_le hstart).1
    rw [htarget] at hfar
    exact Or.inr ⟨e, he, hopen, hfar⟩

theorem run_lines_exact_shading :
    smallSession.ledger = [] ∧ smallSession.store.current = { source := smallHarness } ∧
    ∃ v ∈ visits shadingController smallSession returningStart,
      v.entry.finding.location.isIn smallSession.target.harnessFile = true ∧
      v.request.finding.location.line =
        placeOf v.session.store.current.inserted v.entry.finding.location.line ∧
      ∃ t u, v.trial? shadingController = some (t, u) ∧
        placeOf t.store.current.inserted v.entry.finding.location.line = 5 ∧
        shownLocation t.target t.store v.entry.finding.location =
          .ok { v.entry.finding.location with line := 5 } := by
  obtain ⟨v, t, u, e, hmem, hfinding, -, htrial, hsame, hext, -⟩ := run_shading
  have hin : v.entry.finding.location.isIn smallSession.target.harnessFile = true := by
    rw [hfinding]
    decide
  have hplace : placeOf t.store.current.inserted v.entry.finding.location.line = 5 := by
    rw [inserted_shading hext, hfinding]
    rfl
  obtain ⟨hexact, -⟩ := run_lines_exact (c := shadingController) (w := returningStart)
    (s := smallSession) rfl rfl
  obtain ⟨htarget, hlines⟩ := hexact v hmem
  have hshown := (hlines.lookedUp t u htrial (by rw [hsame]; exact hin)).1
  rw [hplace] at hshown
  exact ⟨rfl, rfl, v, hmem, hin, (hlines.shown (by rw [htarget]; exact hin)).1, t, u, htrial,
    hplace, hshown (by decide)⟩

end Session

/-! ### A change between two reports -/

/-- A verifier that leaves one report at first and another one from then on, and an oracle that
proposes the same change whenever it is asked. -/
def changingController (first later : RawReport) (mode : RepairMode) : Controller Nat where
  verifier :=
    { name := "changing"
      run := fun _ => do
        let runs := (← get).outside
        modify fun w => { w with outside := runs + 1 }
        return .ok (if runs = 0 then first else later) }
  oracle :=
    { name := "changing"
      propose := fun _ => return some (.ok { patches := [smallPatch "assume(n != 3);"] }) }
  mode := mode
  budget := .whole 1
  oracleTimeout := 60

namespace Session

variable {first later : RawReport} {mode : RepairMode} {f : Finding}

theorem run_changingVerifier (target : HarnessTarget) (w : World Nat) :
    ((changingController first later mode).verifier.run target).run w =
      (.ok (if w.outside = 0 then first else later), { w with outside := w.outside + 1 }) := rfl

/-- Such a session begins with the finding of the first report. -/
theorem initial?_changing {coverage : Option CoverageIndex}
    (hread : reading smallSession.target (.ok first) = .ok ⟨[f], coverage⟩)
    (hkind : f.kind = mode.targets) :
    initial? (changingController first later mode) smallSession returningStart = some [f] := by
  have hopened : (opened (changingController first later mode) smallSession
      returningStart).outside = 0 := rfl
  have hwanted : f.kind = (changingController first later mode).mode.targets := hkind
  rw [initial?, reported?, run_changingVerifier, hopened, if_pos rfl, hread]
  simp [Except.toOption, hwanted]

/-- The change for it is put on trial, and the later report is read. -/
theorem exists_trial_changing (f : Finding) {u : World Nat} {report : VerifierReport}
    {request : RepairRequest}
    (hrequest : ((smallSession.begun [f]).taking f.id).request
      ⟨{ findingId := f.id, state := .inProgress }, f⟩ u = .ok request)
    (htold : Told (((changingController first later mode).verifier.run smallSession.target).run
      (opened (changingController first later mode) smallSession returningStart)).2 u)
    (hread : reading smallSession.target (.ok later) = .ok report) :
    ∃ t x, Visit.trial? (changingController first later mode)
        ⟨(smallSession.begun [f]).taking f.id,
          ⟨{ findingId := f.id, state := .inProgress }, f⟩, u, request, hrequest⟩ = some (t, x) ∧
      t.target = smallSession.target ∧ t.store.current.inserted = [3] ∧
      reported? (changingController first later mode) t x = some report := by
  have hheld : Holds smallSession.store.path smallHarness u :=
    htold.holds ((told_opened (changingController first later mode) smallSession
      returningStart).holds rfl)
  obtain ⟨next, hnext, -⟩ := extend_shading
  obtain ⟨t, x, htrial, hstore, htarget, -, hx⟩ :=
    Visit.exists_trial (c := changingController first later mode)
      (v := ⟨(smallSession.begun [f]).taking f.id,
        ⟨{ findingId := f.id, state := .inProgress }, f⟩, u, request, hrequest⟩) rfl rfl hnext
        hheld
  have hsame : t.target = smallSession.target := htarget
  refine ⟨t, x, htrial, hsame, ?_, ?_⟩
  · rw [hstore]
    exact inserted_shading hnext
  · have hout : x.outside = 1 := hx.trans htold.outside_eq
    rw [reported?, run_changingVerifier, hout, if_neg (by decide), hsame, hread]
    rfl

end Session

/-! ### The last line -/

/-- The last line that a word can number. -/
def lastLine : Nat := 18446744073709551615

/-- The documents of a run in which a property has failed on that line. -/
def lastLineReport : RawReport where
  result := some "\x7b\"viewer-result\":\x7b\"results\":\x7b\"false\":[\"a\"]\x7d\x7d\x7d"
  property := some ("\x7b\"viewer-property\":\x7b\"properties\":\x7b\"a\":\x7b" ++
    "\"description\":\"x\",\"location\":\x7b\"file\":\"harness.c\"," ++
    "\"line\":18446744073709551615\x7d\x7d\x7d\x7d\x7d")

/-- The finding of that property. -/
def lastLineFinding : Finding := .modelingError ⟨"harness.c", "", lastLine⟩ "x" (some "a") []

theorem reading_lastLineReport (target : HarnessTarget) :
    reading target (.ok lastLineReport) = .ok ⟨[lastLineFinding], none⟩ := by
  have hread := readReport_single target.harnessFile "a" "x"
    ⟨some "harness.c", none, some (.number lastLine)⟩ ⟨"harness.c", "", lastLine⟩
    (lastLineReport.result.getD "") (lastLineReport.property.getD "") (by decide +kernel)
    (by decide +kernel) (by decide) rfl
  have hraw : readReport target.harnessFile lastLineReport = .ok ⟨[lastLineFinding], none⟩ := hread
  rw [reading, hraw]

namespace Session

/-- The line of a finding whose change is on trial may be beyond the words.  It is looked up in
the report that has the finding no more, which stops the session. -/
theorem not_exact_lastLine :
    ((run (changingController lastLineReport cleanReport .errors) smallSession).run
      returningStart).1.1 = .error .addition ∧
    ¬ ∀ (c : Controller Nat) (s : Session) (w : World Nat) (base : String), s.ledger = [] →
      s.store.current = { source := base } → ∀ v ∈ visits c s w, ∀ t u report,
        v.trial? c = some (t, u) → reported? c t u = some report →
        v.entry.finding.id ∉ (relevant c t report).map (·.id) →
        v.entry.finding.location.isIn t.target.harnessFile = true →
        shownLocation t.target t.store v.entry.finding.location = .ok
          { v.entry.finding.location with
            line := placeOf t.store.current.inserted v.entry.finding.location.line } := by
  have hinitial : initial? (changingController lastLineReport cleanReport .errors) smallSession
      returningStart = some [lastLineFinding] :=
    initial?_changing (reading_lastLineReport _) rfl
  have hclean : reading smallSession.target (.ok cleanReport) = .ok ⟨[], none⟩ := by
    have hread : readReport smallSession.target.harnessFile cleanReport = .ok ⟨[], none⟩ :=
      readReport_nil (by decide +kernel) rfl
    rw [reading, hread]
  have hin : lastLineFinding.location.isIn smallSession.target.harnessFile = true := by
    decide +kernel
  obtain ⟨outcome, last, z, hrun, hran⟩ :=
    ran_run (c := changingController lastLineReport cleanReport .errors) (s := smallSession) rfl
      returningStart
  obtain ⟨u, htold, h⟩ := hran.repaired hinitial
  -- the finding is shown where it was reported
  obtain ⟨request, hrequest⟩ := exists_request (w := u)
    (s := (smallSession.begun [lastLineFinding]).taking lastLineFinding.id)
    (e := ⟨{ findingId := lastLineFinding.id, state := .inProgress }, lastLineFinding⟩)
    (fun hout => absurd hin hout) fun _ => by decide
  obtain ⟨t, x, htrial, htarget, hinserted, hreport⟩ :=
    exists_trial_changing lastLineFinding hrequest htold hclean
  -- with the line inserted above it there is no word for it
  have hshown : shownLocation t.target t.store lastLineFinding.location = .error .addition := by
    rw [shownLocation_of_isIn (by rw [htarget]; exact hin) (by decide), hinserted]
    exact if_neg (by decide)
  have hjudge : judge .modelingError t.target t.store lastLineFinding ⟨[], none⟩ =
      .error .addition := by
    simp [judge, introduced, rebased, hshown]
  obtain ⟨after, y, hresult⟩ := Visit.result_of_overflow htrial hreport hjudge
  have hwaits : (smallSession.begun [lastLineFinding]).ledger.nextPending? =
      some lastLineFinding.id := rfl
  have hfind : ((smallSession.begun [lastLineFinding]).taking
      lastLineFinding.id).ledger.find? lastLineFinding.id =
      some ⟨{ findingId := lastLineFinding.id, state := .inProgress }, lastLineFinding⟩ := by
    simp [taking, begun, Ledger.updateRecord, Ledger.update, Ledger.track, Ledger.find?,
      smallSession]
  refine ⟨?_, fun hall => ?_⟩
  · rw [hrun]
    exact h.of_stopped hwaits hfind rfl hrequest hresult
  · have hmem := h.mem_visits hwaits hfind rfl hrequest
    rw [← visits_eq] at hmem
    have hexact := hall _ _ _ _ rfl rfl _ hmem t x _ htrial hreport List.not_mem_nil
      (by rw [htarget]; exact hin)
    cases hshown.symm.trans hexact

end Session

end HarnessRepair
