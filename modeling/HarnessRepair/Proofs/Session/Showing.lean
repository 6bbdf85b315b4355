import HarnessRepair.Proofs.Session.Arithmetic

/-!
# What a request says of its finding

A finding of the harness is tracked by its line in the text without patches, and a request
shows it at the line which carries that line now, in the source that is shown with it.  What
the finding says is left as it was.  A coverage gap says where it starts, so it speaks of the
line at which it is shown only as long as no line has been inserted above it.

## Main definitions

* `RepairRequest.ShowsAt` — a request shows a finding at a line.

## Main results

* `ReportedOn.eq_coverageGap` — a gap that was reported says where it is tracked.
* `Session.run_shows` — **where a finding is shown, and when a gap says so.**
* `Session.not_shown_nearGap` — a gap that speaks of another line.
-/

namespace HarnessRepair

open Text

variable {ε : Type}

/-! ### The source of a request -/

/-- In the harness as it is shown, each line stands under its number. -/
theorem PatchStore.lineAt?_numberedSource {s : PatchStore} {line : Nat} {l : Line}
    (h : lineAt? (terminated s.source.toList) line = some l) :
    lineAt? (terminated s.numberedSource.toList) line =
      some (numberedLine (toString (1 + (lines s.source).length)).length line l) := by
  obtain ⟨hpos, -⟩ := lineAt?_bounds h
  rw [numberedSource, lineAt?_numbered s.source 1 h, Nat.add_sub_cancel' hpos]

/-- A request shows a finding at a line of the source, which carries an old line. -/
structure RepairRequest.ShowsAt (r : RepairRequest) (source : String) (f : Finding) (old : Line)
    (line : Nat) : Prop where
  /-- The finding is as it was, up to its line. -/
  finding_eq : r.finding = { f with location := { f.location with line := line } }
  /-- The line is shown in the request, under its number. -/
  line_at : ∃ l, lineAt? (terminated source.toList) line = some l ∧ Carries old l ∧
    lineAt? (terminated r.sourceContext.toList) line =
      some (numberedLine (toString (1 + (lines source).length)).length line l)

/-! ### Gaps -/

/-- **A gap that was reported says where it is tracked**, if its length can be told. -/
theorem ReportedOn.eq_coverageGap {harnessFile : String} {s : Snapshot} {f : Finding}
    (h : ReportedOn harnessFile s f) {count : Nat} (hcount : f.uncoveredLines? = some count) :
    f = .coverageGap f.location count := by
  obtain ⟨changes, store, raw, report, -, hread, hmem⟩ := h
  obtain ⟨g, hg, hback⟩ := List.mem_filterMap.1 hmem
  obtain ⟨c, l, rfl, -⟩ := exists_complaint_of_mem_report hread hg
  by_cases hin : f.location.isIn harnessFile = true
  · rcases (rebase?_of_isIn hback hin).2 with hsame | hmoved
    · exact Complaint.eq_coverageGap (Or.inl hsame) hcount
    · exact Complaint.eq_coverageGap (Or.inr ⟨_, hmoved⟩) hcount
  · exact Complaint.eq_coverageGap (Or.inl (rebase?_of_not_isIn hback hin)) hcount

/-! ### A session -/

namespace Session

variable {c : Controller ε} {s : Session} {w : World ε} {v : Visit ε} {base : String}

/-- **Where a finding is shown, and when a gap says so.**  A finding on an old line of the
harness is shown at the line that carries the old line now.  If its message tells the length
of a gap, it is the message of a gap at the line where the finding is shown exactly if no line
has been inserted above it. -/
theorem run_shows (hempty : s.ledger = []) (hbase : s.store.current = { source := base })
    (hv : v ∈ visits c s w) (hin : v.entry.finding.location.isIn s.target.harnessFile = true)
    {old : Line}
    (hold : lineAt? (terminated base.toList) v.entry.finding.location.line = some old) :
    (∃ line, v.request.ShowsAt v.session.store.source v.entry.finding old line ∧
      (line = v.entry.finding.location.line ↔
        ∀ i ∈ v.session.store.current.inserted, v.entry.finding.location.line < i)) ∧
    ∀ count, v.entry.finding.uncoveredLines? = some count →
      v.entry.finding = .coverageGap v.entry.finding.location count ∧
      (v.request.finding.message =
          (Finding.coverageGap v.request.finding.location count).message ↔
        ∀ i ∈ v.session.store.current.inserted, v.entry.finding.location.line < i) := by
  obtain ⟨htarget, hreported⟩ := reportedOn_of_mem_visits hempty (by rw [hbase]) hv
  obtain ⟨changes, hgrown⟩ := grown_of_mem_visits hempty hv
  rw [hbase] at hgrown
  have hwoven := hgrown.woven
  have hstays := placeOf_eq_self_iff hwoven.ascending v.entry.finding.location.line
  -- the line is shown where the line map has taken it
  have hlt := hreported.placeOf_lt hwoven.ascending hin
  obtain ⟨shown, context, hshown, -, hrequest⟩ := v.exists_request_eq
  rw [shownLocation_of_isIn (by rw [htarget]; exact hin) (hreported.line_lt hwoven.ascending),
    if_pos hlt] at hshown
  obtain rfl := Except.ok.inj hshown
  have hfinding : v.request.finding = { v.entry.finding with
      location := { v.entry.finding.location with
        line := placeOf v.session.store.current.inserted v.entry.finding.location.line } } := by
    rw [hrequest]
  have hsource : v.request.sourceContext = v.session.store.numberedSource := by rw [hrequest]
  obtain ⟨l, hl, hcarries⟩ := hwoven.carried _ _ hold
  have hnumbered := PatchStore.lineAt?_numberedSource hl
  rw [← hsource] at hnumbered
  refine ⟨⟨_, ⟨hfinding, l, hl, hcarries, hnumbered⟩, hstays⟩, ?_⟩
  intro count hcount
  have hgap := hreported.eq_coverageGap hcount
  have hmessage : v.entry.finding.message =
      Finding.gapMessage count v.entry.finding.location.line := congrArg Finding.message hgap
  refine ⟨hgap, ?_⟩
  rw [hfinding]
  change v.entry.finding.message = Finding.gapMessage count
    (placeOf v.session.store.current.inserted v.entry.finding.location.line) ↔ _
  rw [hmessage, Complaint.gapMessage_inj, eq_comm]
  exact hstays

end Session

/-! ### A session with two gaps -/

/-- The documents of a run in which nothing has failed, and a single line was missed, in a
function of which something else was reached. -/
def missedReport (file function line : String) : RawReport where
  result := cleanReport.result
  coverage := some ("\x7b\"viewer-coverage\":\x7b\"coverage\":\x7b\"" ++ file ++
    "\":\x7b\"" ++ function ++ "\":\x7b\"" ++ line ++ "\":\"missed\"\x7d\x7d\x7d," ++
    "\"function_coverage\":\x7b\"" ++ file ++ "\":\x7b\"" ++ function ++
    "\":\x7b\"hit\":1,\"total\":2\x7d\x7d\x7d\x7d\x7d")

/-- The table of such a run. -/
def missedTable (file function line : String) : CoverageTable where
  lines := [(file, [(function, [(line, "missed")])])]
  counts := [(file, [(function, ⟨1, 2⟩)])]

/-- What is read of it is the gap, and that its line was missed. -/
theorem reading_missedReport (target : HarnessTarget) {file function line : String} {n : Nat}
    (htable : readCoverage? ((missedReport file function line).coverage.getD "") =
      some (missedTable file function line))
    (hline : unsigned? wordLimit (trim line) = some n) :
    reading target (.ok (missedReport file function line)) =
      .ok ⟨[.coverageGap ⟨file, function, n⟩ 1],
        some (CoverageIndex.insert {} ⟨file, function, n⟩ false)⟩ := by
  have hsorted : sortedLines [(line, "missed")] = [(n, "missed")] := by
    simp [sortedLines, hline]
  have hgaps : coverageGaps (missedTable file function line) =
      [.coverageGap ⟨file, function, n⟩ 1] := by
    simp [coverageGaps, missedTable, linesOf?, functionGaps, hsorted, missedRuns, isMissed]
  have hindex : coverageIndex (missedTable file function line) =
      CoverageIndex.insert {} ⟨file, function, n⟩ false := by
    simp [coverageIndex, missedTable, hsorted, isMissed]
  have hread : readReport target.harnessFile (missedReport file function line) =
      .ok ⟨[.coverageGap ⟨file, function, n⟩ 1],
        some (CoverageIndex.insert {} ⟨file, function, n⟩ false)⟩ := by
    have hclean : cleanReport.failed? = some [] := by decide +kernel
    have hfailed : (missedReport file function line).failed? = some [] := hclean
    refine readReport_eq_ok_iff.2 ⟨[], [], hfailed, rfl, Or.inr ⟨_, _, rfl, htable, ?_⟩⟩
    rw [hindex, hgaps, List.nil_append, orderFindings_singleton]
  rw [reading, hread]

/-- A gap outside the harness. -/
def farGap : Finding := .coverageGap ⟨"p", "f", 1⟩ 1

/-- A gap on the fourth line of the small harness. -/
def nearGap : Finding := .coverageGap ⟨"harness.c", "harness", 4⟩ 1

/-- The same with a line inserted above it. -/
def movedGap : Finding := .coverageGap ⟨"harness.c", "harness", 5⟩ 1

theorem nearGap_id_ne : nearGap.id ≠ farGap.id := by decide +kernel

namespace Session

theorem reading_farGap (target : HarnessTarget) :
    reading target (.ok (missedReport "p" "f" "1")) =
      .ok ⟨[farGap], some (CoverageIndex.insert {} farGap.location false)⟩ :=
  reading_missedReport target (by decide +kernel) (by decide +kernel)

theorem reading_movedGap (target : HarnessTarget) :
    reading target (.ok (missedReport "harness.c" "harness" "5")) =
      .ok ⟨[movedGap], some (CoverageIndex.insert {} movedGap.location false)⟩ :=
  reading_missedReport target (by decide +kernel) (by decide +kernel)

/-- With a line inserted above the gap in the harness, the other one is resolved. -/
theorem judge_movedGap {target : HarnessTarget} {store : PatchStore}
    (htarget : target = smallSession.target) (hinserted : store.current.inserted = [3]) :
    judge .coverageGap target store farGap
      ⟨[movedGap], some (CoverageIndex.insert {} movedGap.location false)⟩ =
        .ok (.resolved [nearGap]) := by
  subst htarget
  have hin : movedGap.location.isIn smallSession.target.harnessFile = true := by decide
  have hout : farGap.location.isIn smallSession.target.harnessFile = false := by decide +kernel
  have hback : store.canonicalLine? movedGap.location.line = some 4 := by
    rw [PatchStore.canonicalLine?, hinserted]
    rfl
  have hone : 1 < wordLimit := by decide
  have hmoved : movedGap.relocated 4 = nearGap :=
    Complaint.relocated_madeAt (c := .uncovered 1) hone ⟨"harness.c", "harness", 5⟩ 4
  have hrebased : rebased smallSession.target.harnessFile store [movedGap] = [nearGap] := by
    have hne : ¬ 4 = movedGap.location.line := by decide
    simp [rebased, rebase?, hin, hback, hne, hmoved]
  have hnone : introduced smallSession.target.harnessFile store [movedGap] = [] := by
    simp [introduced, statementUnder?, hback]
  have hshown : shownLocation smallSession.target store farGap.location = .ok farGap.location := by
    rw [shownLocation, if_neg (by rw [hout]; exact Bool.false_ne_true)]
  have hmissed : isListedMissed
      ⟨[movedGap], some (CoverageIndex.insert {} movedGap.location false)⟩
      farGap.location = false := by
    have hne : farGap.location ≠ movedGap.location := by decide
    rw [isListedMissed, Option.bind_some, CoverageIndex.hit?_insert, if_neg hne]
    rfl
  have hkind : nearGap.kind = .coverageGap := rfl
  unfold judge
  dsimp only
  rw [hnone, hrebased, hshown]
  simp [hkind, nearGap_id_ne, hmissed]

/-- A verifier that reports the one gap, and the other one once there is a patch. -/
def showingController : Controller Nat :=
  changingController (missedReport "p" "f" "1") (missedReport "harness.c" "harness" "5") .coverage

/-- The gap in the harness is taken up when the change for the other one is in force. -/
theorem run_showing : ∃ v ∈ visits showingController smallSession returningStart,
    v.entry.finding = nearGap ∧
    v.entry.finding.location.isIn smallSession.target.harnessFile = true ∧
    v.session.store.current.inserted = [3] := by
  have hinitial : initial? showingController smallSession returningStart = some [farGap] :=
    initial?_changing (reading_farGap _) rfl
  obtain ⟨u, htold, hnear⟩ :=
    mem_visits_of_settled (s := smallSession) rfl hinitial rfl nearGap_id_ne
  obtain ⟨request, hrequest⟩ := exists_request (w := u)
    (s := (smallSession.begun [farGap]).taking farGap.id)
    (e := ⟨{ findingId := farGap.id, state := .inProgress }, farGap⟩) (fun _ => by decide)
    fun _ => by decide
  obtain ⟨t, x, htrial, htarget, hinserted, hreport⟩ :=
    exists_trial_changing farGap hrequest htold (reading_movedGap _)
  obtain ⟨after, y, hresult, haccepted, hkept, -⟩ :=
    Visit.result_of_resolved htrial hreport (judge_movedGap htarget hinserted)
  have hin : nearGap.location.isIn smallSession.target.harnessFile = true := by decide
  have hafter : (after.taking nearGap.id).store.current.inserted = [3] := by
    change after.store.current.inserted = [3]
    rw [hkept]
    exact hinserted
  obtain ⟨asked, hasked⟩ := exists_request (w := y) (s := after.taking nearGap.id)
    (e := ⟨{ findingId := nearGap.id, state := .inProgress }, nearGap⟩) (fun _ => by decide)
    fun _ => by rw [hafter]; decide
  exact ⟨_, hnear hrequest after y hresult haccepted hasked, rfl, hin, hafter⟩

theorem line_at_nearGap : ∃ old,
    lineAt? (terminated smallHarness.toList) nearGap.location.line = some old := by
  rw [← Option.isSome_iff_exists]
  decide +kernel

theorem run_shows_nearGap :
    smallSession.ledger = [] ∧ smallSession.store.current = { source := smallHarness } ∧
    ∃ v ∈ visits showingController smallSession returningStart,
      v.entry.finding.location.isIn smallSession.target.harnessFile = true ∧
      ∃ old line, lineAt? (terminated smallHarness.toList) v.entry.finding.location.line =
          some old ∧
        v.request.ShowsAt v.session.store.source v.entry.finding old line ∧
        line ≠ v.entry.finding.location.line ∧
        v.request.finding.message = "1 uncovered line(s) starting at line 4" := by
  obtain ⟨v, hv, hfinding, hin, hinserted⟩ := run_showing
  obtain ⟨old, hold⟩ := line_at_nearGap
  rw [← hfinding] at hold
  obtain ⟨⟨line, hshows, hstays⟩, -⟩ := run_shows rfl rfl hv hin hold
  refine ⟨rfl, rfl, v, hv, hin, old, line, hold, hshows, fun heq => ?_, ?_⟩
  · have hbehind := hstays.1 heq 3 (by rw [hinserted]; exact List.mem_cons_self)
    rw [hfinding] at hbehind
    exact absurd hbehind (by decide)
  · rw [hshows.finding_eq, hfinding]
    change nearGap.message = _
    decide +kernel

/-- A gap that is shown at the line it has moved to still speaks of the line it was at. -/
theorem not_shown_nearGap :
    ¬ ∀ (c : Controller Nat) (s : Session) (w : World Nat) (base : String), s.ledger = [] →
      s.store.current = { source := base } → ∀ v ∈ visits c s w,
        v.entry.finding.location.isIn s.target.harnessFile = true →
        (∃ old, lineAt? (terminated base.toList) v.entry.finding.location.line = some old) →
        ∀ count, v.entry.finding.uncoveredLines? = some count →
          v.request.finding.message =
            (Finding.coverageGap v.request.finding.location count).message := by
  intro hall
  obtain ⟨v, hv, hfinding, hin, hinserted⟩ := run_showing
  have hcount : v.entry.finding.uncoveredLines? = some 1 := by
    rw [hfinding]
    exact Complaint.uncoveredLines?_coverageGap _ (by decide)
  obtain ⟨htarget, -⟩ := reportedOn_of_mem_visits rfl rfl hv
  obtain ⟨shown, context, hshown, -, hrequest⟩ := v.exists_request_eq
  rw [shownLocation_of_isIn (by rw [htarget]; exact hin) (by rw [hfinding]; decide), hfinding,
    hinserted] at hshown
  obtain rfl : (⟨"harness.c", "harness", 5⟩ : Location) = shown := Except.ok.inj hshown
  have hsays := hall _ _ _ _ rfl rfl v hv hin (by rw [hfinding]; exact line_at_nearGap) 1 hcount
  rw [hrequest, hfinding] at hsays
  change nearGap.message = Finding.gapMessage 1 5 at hsays
  exact absurd (Complaint.gapMessage_inj.1 hsays) (by decide)

end Session

end HarnessRepair
