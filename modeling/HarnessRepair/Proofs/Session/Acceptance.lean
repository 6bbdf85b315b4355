import HarnessRepair.Proofs.Patch.Places
import HarnessRepair.Proofs.Session.Footing
import HarnessRepair.Proofs.Session.Reports

/-!
# When a change is kept

Three questions decide on a change: whether a finding lies on a line that a patch has put
in, whether the finding that it was made for is still there, and whether its line has become
unreachable.  They are asked here of the report and of the log, by following lines through
the patches, and the answers turn out to be those that a session goes by.

## Main definitions

* `Location.after`, `Finding.seenFrom` — places, there and back.
* `Harmless`, `Gone`, `NotMissed` — the three questions.
* `Acceptable`, `Blamed` — all answered well, or which one first is not.
* `Ledger.ChargedOnce`, `Visit.TakenBack` — what a change that is not kept leaves.

## Main results

* `decided_verdict` — a change is judged by the three questions, one after the other.
* `Session.settles_iff` — **a change is kept exactly if all three are answered well.**
-/

namespace HarnessRepair

open Text

variable {ε : Type}

/-! ### The three questions -/

/-- A place in the unpatched harness, as it is after some patches. -/
def Location.after (target : HarnessTarget) (log : List AppliedPatch) (l : Location) : Location :=
  if l.isIn target.harnessFile then { l with line := standsAt log l.line } else l

/-- A finding in the harness as it would have been seen at the line that was there first. -/
def Finding.seenFrom (f : Finding) (line : Nat) : Finding :=
  if line = f.location.line then f else f.relocated line

section

variable (target : HarnessTarget) (log : List AppliedPatch) (report : VerifierReport)

/-- No finding lies on a line that a patch has put in. -/
def Harmless : Prop :=
  ∀ f ∈ report.findings, f.location.isIn target.harnessFile = true → ¬ PutIn log f.location.line

/-- No finding of a kind is the one with the identity, once it has been brought back to the
line that was there before all patches. -/
def Gone (kind : FindingKind) (id : FindingId) : Prop :=
  ∀ f ∈ report.findings, f.kind = kind →
    (f.location.isIn target.harnessFile = false → f.id ≠ id) ∧
    (f.location.isIn target.harnessFile = true →
      ∀ line, standsAt log line = f.location.line → (f.seenFrom line).id ≠ id)

/-- The coverage does not list a place of the unpatched harness as missed. -/
def NotMissed (l : Location) : Prop :=
  ∀ index, report.coverage = some index → index.hit? (l.after target log) ≠ some false

end

/-! ### Answers -/

section

variable {target : HarnessTarget} {store : PatchStore} {report : VerifierReport}
  {kind : FindingKind} {finding : Finding}

/-- Texts that are there stay there. -/
theorem foldl_addOnce_ne_nil (ss : List String) {texts : List String} (h : texts ≠ []) :
    ss.foldl addOnce texts ≠ [] := by
  induction ss generalizing texts with
  | nil => exact h
  | cons s ss ih =>
    rw [List.foldl_cons]
    refine ih ?_
    rw [addOnce]
    split
    · exact h
    · exact List.append_ne_nil_of_right_ne_nil _ (List.cons_ne_nil _ _)

/-- Statements are found under findings unless the change is harmless. -/
theorem introduced_eq_nil_iff (h : Charted store.log store.current.inserted) :
    introduced target.harnessFile store report.findings = [] ↔
      Harmless target store.log report := by
  have hunder : ∀ f : Finding, statementUnder? target.harnessFile store f = none ↔
      (f.location.isIn target.harnessFile = true → ¬ PutIn store.log f.location.line) := by
    intro f
    rw [statementUnder?, ← h.canonicalLine?_eq_none_iff, PatchStore.canonicalLine?]
    by_cases hin : f.location.isIn target.harnessFile = true
    · cases hback : canonicalLine? store.current.inserted f.location.line <;> simp [hin]
    · simp [hin]
  rw [introduced, Harmless]
  constructor
  · intro hnil f hf
    rw [← hunder]
    by_contra hsome
    obtain ⟨s, hs⟩ := Option.ne_none_iff_exists'.1 hsome
    -- a single statement is never lost again
    have hmem := List.mem_filterMap.2 ⟨f, hf, hs⟩
    obtain ⟨s', rest, hcons⟩ := List.exists_cons_of_ne_nil (List.ne_nil_of_mem hmem)
    rw [hcons, List.foldl_cons] at hnil
    exact foldl_addOnce_ne_nil rest (List.cons_ne_nil s' []) hnil
  · intro hall
    have hnone : report.findings.filterMap (statementUnder? target.harnessFile store) = [] :=
      List.filterMap_eq_nil_iff.2 fun f hf => (hunder f).2 (hall f hf)
    rw [hnone]
    rfl

/-- Bringing a finding back keeps its kind. -/
theorem kind_seenFrom (f : Finding) (line : Nat) : (f.seenFrom line).kind = f.kind := by
  rw [Finding.seenFrom]
  split <;> rfl

/-- A finding is brought back to the line that has come to stand where it lies. -/
theorem rebase?_eq_some_iff (h : Charted store.log store.current.inserted) {f g : Finding} :
    rebase? target.harnessFile store f = some g ↔
      (f.location.isIn target.harnessFile = false ∧ f = g) ∨
      f.location.isIn target.harnessFile = true ∧
        ∃ line, standsAt store.log line = f.location.line ∧ f.seenFrom line = g := by
  rw [rebase?]
  by_cases hin : f.location.isIn target.harnessFile = true
  · rw [if_pos hin, PatchStore.canonicalLine?]
    cases hback : canonicalLine? store.current.inserted f.location.line with
    | none =>
      have hput := h.canonicalLine?_eq_none_iff.1 hback
      simp only [hin, Bool.true_eq_false, false_and, true_and, false_or]
      constructor
      · intro hnone
        cases hnone
      · rintro ⟨line, hline, -⟩
        -- no line has come to stand on a statement
        rw [h.canonicalLine?_eq_some_iff.2 hline] at hback
        cases hback
    | some old =>
      have hold := h.canonicalLine?_eq_some_iff.1 hback
      simp only [hin, Bool.true_eq_false, false_and, true_and, false_or]
      constructor
      · intro hsome
        exact ⟨old, hold, Option.some.inj hsome⟩
      · rintro ⟨line, hline, rfl⟩
        rw [h.canonicalLine?_eq_some_iff.2 hline] at hback
        obtain rfl := Option.some.inj hback
        rfl
  · rw [if_neg hin]
    simp [hin]

/-- The finding is not found again exactly if it is gone. -/
theorem find?_eq_none_iff_gone (h : Charted store.log store.current.inserted) :
    ((rebased target.harnessFile store report.findings).filter fun f => f.kind = kind).find?
        (fun f => f.id = finding.id) = none ↔
      Gone target store.log report kind finding.id := by
  rw [List.find?_eq_none, Gone]
  constructor
  · intro hnone f hf hkind
    have hback : ∀ g, rebase? target.harnessFile store f = some g → g.kind = kind →
        g.id ≠ finding.id := by
      intro g hg hgkind hid
      refine hnone g (List.mem_filter.2 ⟨List.mem_filterMap.2 ⟨f, hf, hg⟩, ?_⟩) ?_
      · exact decide_eq_true hgkind
      · exact decide_eq_true hid
    constructor
    · intro hout
      exact hback f ((rebase?_eq_some_iff h).2 (Or.inl ⟨hout, rfl⟩)) hkind
    · intro hin line hline
      refine hback _ ((rebase?_eq_some_iff h).2 (Or.inr ⟨hin, line, hline, rfl⟩)) ?_
      rw [kind_seenFrom, hkind]
  · intro hall g hg hid
    obtain ⟨hmem, hgkind⟩ := List.mem_filter.1 hg
    obtain ⟨f, hf, hback⟩ := List.mem_filterMap.1 hmem
    have hsame : g.id = finding.id := of_decide_eq_true hid
    have hkind : g.kind = kind := of_decide_eq_true hgkind
    rcases (rebase?_eq_some_iff h).1 hback with ⟨hout, rfl⟩ | ⟨hin, line, hline, rfl⟩
    · exact (hall f hf hkind).1 hout hsame
    · rw [kind_seenFrom] at hkind
      exact (hall f hf hkind).2 hin line hline hsame

/-- Whether a place is listed as missed. -/
theorem isListedMissed_eq_true_iff {l : Location} :
    isListedMissed report l = true ↔
      ∃ index, report.coverage = some index ∧ index.hit? l = some false := by
  rw [isListedMissed, beq_iff_eq, Option.bind_eq_some_iff]

/-! ### Verdicts -/

variable (target : HarnessTarget) (log : List AppliedPatch) (report : VerifierReport)
  (kind : FindingKind) (finding : Finding)

/-- All three questions are answered well. -/
def Acceptable : Prop :=
  Harmless target log report ∧ Gone target log report kind finding.id ∧
    NotMissed target log report finding.location

/-- What a change is blamed for: the first question that is answered badly. -/
inductive Blamed : FailureCause → Prop
  | harmful {statements : List String} (h : ¬ Harmless target log report) :
    Blamed (.preconditionIntroducedFindings statements)
  | persists (h : Harmless target log report)
      (there : ¬ Gone target log report kind finding.id) : Blamed .notResolved
  | unreached (h : Harmless target log report)
      (gone : Gone target log report kind finding.id)
      (missed : ¬ NotMissed target log report finding.location) : Blamed .targetUnreachable

/-- A verdict that goes by the three questions. -/
inductive Decided : Verdict → Prop
  | kept {others : List Finding} (h : Acceptable target log report kind finding) :
    Decided (.kept others)
  | undone {cause : FailureCause} {seen : Option Finding}
      (h : Blamed target log report kind finding cause) : Decided (.undone cause seen)

variable {target log report kind finding}

/-- Nothing is blamed for an acceptable change. -/
theorem Blamed.not_acceptable {cause : FailureCause}
    (h : Blamed target log report kind finding cause) :
    ¬ Acceptable target log report kind finding := by
  rintro ⟨hharmless, hgone, hreached⟩
  cases h with
  | harmful h => exact h hharmless
  | persists h there => exact there hgone
  | unreached h gone missed => exact missed hreached

/-- **A change is judged by the three questions, one after the other.** -/
theorem decided_verdict (h : Charted store.log store.current.inserted)
    (hshown : shownLocation target store finding.location =
      .ok (finding.location.after target store.log)) :
    Decided target store.log report kind finding
      (verdict kind target store finding (.ok report)) := by
  rw [verdict, judge]
  cases hintroduced : introduced target.harnessFile store report.findings with
  | cons s ss =>
    refine .undone (.harmful fun hharmless => ?_)
    rw [(introduced_eq_nil_iff h).2 hharmless] at hintroduced
    cases hintroduced
  | nil =>
    have hharmless : Harmless target store.log report := (introduced_eq_nil_iff h).1 hintroduced
    have hgone : _ ↔ Gone target store.log report kind finding.id := find?_eq_none_iff_gone h
    dsimp only
    cases hfind : ((rebased target.harnessFile store report.findings).filter fun f =>
        f.kind = kind).find? fun f => f.id = finding.id with
    | some still =>
      refine .undone (.persists hharmless fun hg => ?_)
      rw [hgone.2 hg] at hfind
      cases hfind
    | none =>
      have hmissed : isListedMissed report (finding.location.after target store.log) = true ↔ _ :=
        isListedMissed_eq_true_iff
      rw [hshown]
      dsimp only [bind, Except.bind, pure, Except.pure]
      by_cases hlisted : isListedMissed report (finding.location.after target store.log) = true
      · rw [if_pos hlisted]
        refine .undone (.unreached hharmless (hgone.1 hfind) fun hnot => ?_)
        obtain ⟨index, hindex, hhit⟩ := hmissed.1 hlisted
        exact hnot index hindex hhit
      · rw [if_neg hlisted]
        refine .kept ⟨hharmless, hgone.1 hfind, fun index hindex hhit => ?_⟩
        exact hlisted (hmissed.2 ⟨index, hindex, hhit⟩)

/-- A line of the text without patches is shown where the log says that it stands. -/
theorem shownLocation_eq_after {base : String} {l : Location}
    (hwoven : Woven (terminated base.toList) store.current.draft)
    (hcharted : Charted store.log store.current.inserted)
    (hline : l.isIn target.harnessFile = true →
      ∃ old, lineAt? (terminated base.toList) l.line = some old)
    (hword : (terminated store.source.toList).length < wordLimit) :
    shownLocation target store l = .ok (l.after target store.log) := by
  rw [shownLocation, Location.after]
  by_cases hin : l.isIn target.harnessFile = true
  · obtain ⟨old, hold⟩ := hline hin
    obtain ⟨m, hm, -⟩ := hwoven.carried _ _ hold
    have hle : placeOf store.current.inserted l.line ≤ (terminated store.source.toList).length :=
      (lineAt?_bounds hm).2
    have hplace := currentLine_eq_placeOf (Nat.lt_of_le_of_lt hle hword)
    rw [if_pos hin, if_pos hin, PatchStore.currentLine, hplace, hcharted.placeOf_eq]
    rfl
  · rw [if_neg hin, if_neg hin]

end

/-! ### One charge -/

namespace Ledger

variable {l m : Ledger} {id : FindingId} {e : LedgerEntry}

/-- A failed round has been charged to the entry `e` and to no other one. -/
def ChargedOnce (l : Ledger) (e : LedgerEntry) (cause : FailureCause) (m : Ledger) : Prop :=
  ∃ (k : Nat) (e' : LedgerEntry) (a : AttemptEntry), l[k]? = some e ∧ m = l.set k e' ∧
    e'.record.findingId = e.record.findingId ∧ e'.record.history = e.record.history ++ [a] ∧
    e'.record.attemptsSpent = e.record.attemptsSpent + a.cost ∧ a.cause = some cause

/-- What is noted of the finding at work before the charge is no second one. -/
theorem Working.chargedOnce (h : Working id l) (hfind : l.find? id = some e)
    (hm : l.Noted id m) (cause : FailureCause) (statements : List String) (b : Attempts) :
    ChargedOnce l e cause (m.updateRecord id fun r => r.charge (some cause) statements b) := by
  obtain ⟨g, hg, rfl⟩ := hm
  obtain ⟨k, d, hat⟩ := h.atWork
  obtain rfl : d = e := Option.some.inj (hat.find?_eq.symm.trans hfind)
  obtain ⟨runs, usage, hrec⟩ := hg.record_eq d
  rw [Ledger.updateRecord, update_update hg.id_eq, hat.update_eq]
  refine ⟨k, _, ⟨AttemptRecord.nextNumber d.record.history.length,
    d.record.chargeFor (some cause) b, some cause, statements⟩, hat.entry, rfl, hg.id_eq d,
    ?_, ?_, rfl⟩
  · rw [Function.comp_apply, hrec, AttemptRecord.history_charge]
    rfl
  · rw [Function.comp_apply, hrec]
    rfl

end Ledger

/-! ### A round with a report -/

/-- The change of a round has been taken back and the round charged once, or there is no file
any more in which it could be taken back. -/
inductive Visit.TakenBack (c : Controller ε) (v : Visit ε) (cause : FailureCause)
    (w : World ε) : Prop
  | done (unsettled : (v.result c).1.1 = .ok .unsettled)
      (store_eq : (v.result c).1.2.store = v.session.store.undone)
      (holds : ∀ old, Holds v.session.store.path old w →
        Holds v.session.store.path v.session.store.source (v.result c).2)
      (charged : v.session.ledger.ChargedOnce v.entry cause (v.result c).1.2.ledger)
  | stuck {e : IoError} (failed : (v.result c).1.1 = .error (.patch (.io e)))
      (lost : ∀ old, ¬ Holds v.session.store.path old w)

namespace Visit

variable {c : Controller ε} {v : Visit ε} {cause : FailureCause} {w : World ε}

/-- A round whose change has been taken back does not settle its finding. -/
theorem TakenBack.not_settled (h : v.TakenBack c cause w) : (v.result c).1.1 ≠ .ok .settled := by
  intro hsettled
  cases h with
  | done unsettled => cases unsettled.symm.trans hsettled
  | stuck failed => cases failed.symm.trans hsettled

/-- A round that is concluded by undoing its change has taken it back. -/
theorem Due.takenBack {id : FindingId} (h : v.Due c id) {s : Session} {next : Snapshot}
    {statements : List String} {seen : Option Finding}
    (hnoted : v.session.ledger.Noted id s.ledger) (hseen : ∀ f ∈ seen, f.id = id)
    (hconcluded : Session.Concluded c s v.session.store next id statements
      (.undone cause seen) w (v.result c)) : v.TakenBack c cause w := by
  generalize hresult : v.result c = x at hconcluded
  cases hconcluded with
  | stuck hundoes hlost => exact .stuck (congrArg (·.1.1) hresult) hlost
  | done houtside hholds =>
    have hsession := congrArg (·.1.2) hresult
    have hseenNoted : v.session.ledger.Noted id
        (Session.noted { s with store := v.session.store.undone } seen).ledger :=
      Ledger.Noted.seen (s := { s with store := v.session.store.undone }) hnoted hseen
    refine .done (congrArg (·.1.1) hresult) ?_ (fun old hold => ?_) ?_
    · rw [hsession]
      exact Session.store_noted _ seen
    · rw [hresult]
      exact hholds old hold
    · rw [hsession]
      exact h.working.chargedOnce h.entry hseenNoted cause statements c.budget

end Visit

namespace Session

variable {c : Controller ε} {s : Session} {w : World ε}

/-- **A change is kept exactly if all three questions are answered well**: no finding lies on
a line that a patch has put in, the finding that it was made for is gone, and its line is not
listed as missed.  Otherwise it is taken back, and the round is charged once, for the first
question that is answered badly.  The lines of the text have to be so few that words can number
them. -/
theorem settles_iff {base : String} (hempty : s.ledger = [])
    (hbase : s.store.current = { source := base }) {v : Visit ε} (hv : v ∈ visits c s w)
    {t : Session} {u : World ε} (htrial : v.trial? c = some (t, u)) {report : VerifierReport}
    (hreport : reported? c t u = some report)
    (hline : v.entry.finding.location.isIn t.target.harnessFile = true →
      ∃ old, lineAt? (terminated base.toList) v.entry.finding.location.line = some old)
    (hword : (terminated t.store.source.toList).length < wordLimit) :
    (∃ proposal, v.answer c = .ok proposal ∧
      v.session.store.current.extend proposal.patches = .ok t.store.current) ∧
    Followed (terminated base.toList) t.store.log (terminated t.store.source.toList) ∧
    let good := Acceptable t.target t.store.log report c.mode.targets v.entry.finding
    ((v.result c).1.1 = .ok .settled ↔ good) ∧
    (good → (v.result c).1.2.store = v.session.store.kept t.store.current ∧
      ∀ old, Holds v.session.store.path old ((c.verifier.run t.target).run u).2 →
        Holds v.session.store.path old (v.result c).2) ∧
    (¬ good → ∃ cause,
      Blamed t.target t.store.log report c.mode.targets v.entry.finding cause ∧
        v.TakenBack c cause ((c.verifier.run t.target).run u).2) := by
  obtain ⟨changes, hgrown⟩ := grown_of_mem_visits hempty hv
  obtain ⟨id, hdue⟩ := due_of_mem_visits hempty hv
  obtain ⟨proposal, next, hanswer, hext, hstore, -, hconcluded⟩ := v.concluded htrial
  obtain rfl : t.store.current = next := by rw [hstore]; rfl
  have hafter : Grown { source := base } (changes ++ [proposal.patches]) t.store.current :=
    (hbase ▸ hgrown).more hext
  have hdecided : Decided t.target t.store.log report c.mode.targets v.entry.finding
      (verdict c.mode.targets t.target t.store v.entry.finding (.ok report)) :=
    decided_verdict hafter.charted (shownLocation_eq_after hafter.woven hafter.charted hline hword)
  have hseen : ∀ cause seen, verdict c.mode.targets t.target t.store v.entry.finding (.ok report) =
      .undone cause seen → ∀ f ∈ seen, f.id = id := by
    intro cause seen hundone
    rw [← hdue.name_eq]
    exact verdict_seen hundone
  have hnoted : v.session.ledger.Noted id (t.verified id).ledger := by
    have hcounted := Visit.noted_trial htrial
    rw [hdue.id_eq] at hcounted
    exact hcounted.updateRecord fun r => ⟨r.verifierRuns + 1, r.usage, rfl⟩
  refine ⟨⟨proposal, hanswer, hext⟩, hafter.followed, ?_⟩
  rw [Visit.reading_of_reported hreport, hdue.name_eq] at hconcluded
  generalize verdict c.mode.targets t.target t.store v.entry.finding (.ok report) = decided
    at hdecided hseen hconcluded
  cases hdecided with
  | kept hgood =>
    generalize v.result c = x at hconcluded
    cases hconcluded with
    | stuck hundoes hlost => cases hundoes
    | done houtside hholds =>
      exact ⟨⟨fun _ => hgood, fun _ => rfl⟩, fun _ => ⟨rfl, hholds⟩, fun hbad => absurd hgood hbad⟩
  | undone hblamed =>
    have hbad := hblamed.not_acceptable
    have hback := hdue.takenBack hnoted (hseen _ _ rfl) hconcluded
    refine ⟨⟨fun hsettled => absurd hsettled hback.not_settled, fun hgood => absurd hgood hbad⟩,
      fun hgood => absurd hgood hbad, fun _ => ⟨_, hblamed, hback⟩⟩

end Session

/-! ### A session with two findings -/

/-- The documents of a run in which one property has failed in the small harness and another
one elsewhere. -/
def bothReport : RawReport where
  result := some "\x7b\"viewer-result\":\x7b\"results\":\x7b\"false\":[\"a\",\"b\"]\x7d\x7d\x7d"
  property := some ("\x7b\"viewer-property\":\x7b\"properties\":\x7b" ++
    "\"a\":\x7b\"description\":\"x\",\"location\":" ++
    "\x7b\"file\":\"harness.c\",\"line\":4\x7d\x7d," ++
    "\"b\":\x7b\"description\":\"y\",\"location\":" ++
    "\x7b\"file\":\"p\",\"function\":\"f\",\"line\":1\x7d\x7d\x7d\x7d\x7d")

/-- The documents of a run in which nothing has failed, and a line has not been reached. -/
def shadedReport : RawReport where
  result := some "\x7b\"viewer-result\":\x7b\"results\":\x7b\"false\":[]\x7d\x7d\x7d"
  coverage := some ("\x7b\"viewer-coverage\":\x7b\"coverage\":" ++
    "\x7b\"p\":\x7b\"f\":\x7b\"1\":\"missed\"\x7d\x7d\x7d\x7d\x7d")

/-- The finding in the small harness. -/
def nearFinding : Finding := .modelingError ⟨"harness.c", "", 4⟩ "x" (some "a") []

/-- The finding elsewhere. -/
def farFinding : Finding := .modelingError ⟨"p", "f", 1⟩ "y" (some "b") []

/-- The line of the finding elsewhere is not reached. -/
def shadedCoverage : CoverageIndex := CoverageIndex.insert {} ⟨"p", "f", 1⟩ false

theorem nearFinding_id_ne : nearFinding.id ≠ farFinding.id := by decide +kernel

theorem reading_bothReport (target : HarnessTarget) :
    reading target (.ok bothReport) = .ok ⟨[nearFinding, farFinding], none⟩ := by
  have hproperties : bothReport.properties? =
      some [("a", ⟨"x", some ⟨some "harness.c", none, some (.number 4)⟩⟩),
        ("b", ⟨"y", some ⟨some "p", some "f", some (.number 1)⟩⟩)] := by
    decide +kernel
  have herrors : modelingErrors target.harnessFile ["a", "b"] bothReport =
      .ok [nearFinding, farFinding] :=
    (modelingErrors_eq_ok_iff (List.cons_ne_nil _ _)).2 ⟨_, [], _, hproperties, rfl, rfl, rfl⟩
  have hsorted : orderFindings [nearFinding, farFinding] = [nearFinding, farFinding] := by
    have hprecedes : nearFinding.precedes farFinding = true := by decide
    rw [orderFindings, List.mergeSort_of_pairwise (by simpa using hprecedes)]
    simp [distinctFindings, nearFinding_id_ne.symm]
  have hread : readReport target.harnessFile bothReport = .ok ⟨[nearFinding, farFinding], none⟩ :=
    readReport_eq_ok_iff.2 ⟨_, _, by decide +kernel, herrors, Or.inl ⟨rfl, by rw [hsorted]⟩⟩
  rw [reading, hread]

theorem reading_shadedReport (target : HarnessTarget) :
    reading target (.ok shadedReport) = .ok ⟨[], some shadedCoverage⟩ := by
  have htable : readCoverage? (shadedReport.coverage.getD "") =
      some ⟨[("p", [("f", [("1", "missed")])])], []⟩ := by
    decide +kernel
  have hnumber : unsigned? wordLimit (trim "1") = some 1 := by decide
  have hindex : coverageIndex ⟨[("p", [("f", [("1", "missed")])])], []⟩ = shadedCoverage := by
    simp [coverageIndex, sortedLines, hnumber, shadedCoverage, isMissed]
  have hread : readReport target.harnessFile shadedReport = .ok ⟨[], some shadedCoverage⟩ := by
    refine readReport_eq_ok_iff.2 ⟨[], [], by decide +kernel, rfl,
      Or.inr ⟨_, _, rfl, htable, ?_⟩⟩
    rw [hindex]
    exact congrArg (VerifierReport.mk · _) orderFindings_nil
  rw [reading, hread]

/-- A verifier that reports both findings, and none any more once there is a patch. -/
def shadingController : Controller Nat where
  verifier :=
    { name := "shading"
      run := fun _ => do
        let runs := (← get).outside
        modify fun w => { w with outside := runs + 1 }
        return .ok (if runs = 0 then bothReport else shadedReport) }
  oracle :=
    { name := "shading"
      propose := fun _ => return some (.ok { patches := [smallPatch "assume(n != 3);"] }) }
  mode := .errors
  budget := .whole 1
  oracleTimeout := 60

namespace Session

open Ledger

theorem run_shadingVerifier (target : HarnessTarget) (w : World Nat) :
    (shadingController.verifier.run target).run w =
      (.ok (if w.outside = 0 then bothReport else shadedReport),
        { w with outside := w.outside + 1 }) := rfl

/-- A report with that coverage alone lists the one line. -/
theorem isListedMissed_shaded (l : Location) :
    isListedMissed ⟨[], some shadedCoverage⟩ l = decide (l = ⟨"p", "f", 1⟩) := by
  rw [isListedMissed, Option.bind_some, shadedCoverage, CoverageIndex.hit?_insert]
  by_cases h : l = ⟨"p", "f", 1⟩
  · rw [if_pos h, decide_eq_true h]
    rfl
  · rw [if_neg h, decide_eq_false h]
    rfl

/-- A finding that waits behind the one that is resolved is resolved with it. -/
theorem confirmed_both (b : Attempts) (statements : List String) {id : FindingId}
    {e : LedgerEntry} {f : Finding} (he : e.record.findingId = id) (hne : f.id ≠ id) :
    ∃ e', confirmed b [e, ⟨{ findingId := f.id }, f⟩] id statements [] =
        [e', ⟨{ findingId := f.id, state := .resolved, resolvedBy := some id }, f⟩] ∧
      e'.record.state = .resolved ∧ e'.record.resolvedBy = e.record.resolvedBy := by
  subst he
  refine ⟨{ e with record := { e.record.charge none statements b with
    state := .resolved, keptStatements := statements } }, ?_, rfl, rfl⟩
  simp [confirmed, updateRecord, update, settle, isGone, hne, AttemptRecord.charge]

/-- The proposal fits, and makes a text of few lines. -/
theorem extend_shading : ∃ next,
    smallSession.store.current.extend [smallPatch "assume(n != 3);"] = .ok next ∧
      (terminated next.source.toList).length < wordLimit := by
  have hfits : (match smallSession.store.current.extend [smallPatch "assume(n != 3);"] with
      | .ok next => decide ((terminated next.source.toList).length < wordLimit)
      | .error _ => false) = true := by
    decide +kernel
  cases hext : smallSession.store.current.extend [smallPatch "assume(n != 3);"] with
  | error failure =>
    rw [hext] at hfits
    cases hfits
  | ok next =>
    rw [hext] at hfits
    exact ⟨next, rfl, of_decide_eq_true hfits⟩

/-- The change of the small session stands on its third line. -/
theorem inserted_shading {next : Snapshot}
    (h : smallSession.store.current.extend [smallPatch "assume(n != 3);"] = .ok next) :
    next.inserted = [3] := by
  have hinserted : (smallSession.store.current.extend [smallPatch "assume(n != 3);"]).toOption.map
      (·.inserted) = some [3] := by
    decide
  rw [h] at hinserted
  exact Option.some.inj hinserted

/-- The finding in the harness is resolved in the first round, and the other one with it. -/
theorem run_shading : ∃ (v : Visit Nat) (t : Session) (u : World Nat) (e : LedgerEntry),
    v ∈ visits shadingController smallSession returningStart ∧
    v.entry.finding = nearFinding ∧
    v.session.ledger[1]? = some ⟨{ findingId := farFinding.id }, farFinding⟩ ∧
    v.trial? shadingController = some (t, u) ∧
    t.target = smallSession.target ∧
    smallSession.store.current.extend [smallPatch "assume(n != 3);"] = .ok t.store.current ∧
    reported? shadingController t u = some ⟨[], some shadedCoverage⟩ ∧
    (v.result shadingController).1.1 = .ok .settled ∧
    ((run shadingController smallSession).run returningStart).1.2 =
      (v.result shadingController).1.2 ∧
    (v.result shadingController).1.2.ledger =
      [e, ⟨{ findingId := farFinding.id, state := .resolved, resolvedBy := some nearFinding.id },
        farFinding⟩] ∧
    e.record.state = .resolved ∧ e.record.resolvedBy = none := by
  have hne := nearFinding_id_ne
  obtain ⟨outcome, t, v, hrun, hran⟩ :=
    ran_run (c := shadingController) (s := smallSession) rfl returningStart
  have hinitial : initial? shadingController smallSession returningStart =
      some [nearFinding, farFinding] := by
    have hopened : (opened shadingController smallSession returningStart).outside = 0 := rfl
    rw [initial?, reported?, run_shadingVerifier, hopened, if_pos rfl, reading_bothReport]
    rfl
  obtain ⟨u, htold, h⟩ := hran.repaired hinitial
  have hu : u.outside = 1 := htold.outside_eq
  have hopened : Holds smallSession.store.path smallHarness
      (opened shadingController smallSession returningStart) := (told_opened _ _ _).holds rfl
  have hheld : Holds smallSession.store.path smallHarness u := htold.holds hopened
  obtain ⟨hqueued, horder, -⟩ :=
    queued_begun shadingController.budget (s := smallSession) rfl [nearFinding, farFinding]
  -- the first finding is taken up
  have hbegun : (smallSession.begun [nearFinding, farFinding]).ledger =
      [⟨{ findingId := nearFinding.id }, nearFinding⟩,
        ⟨{ findingId := farFinding.id }, farFinding⟩] := by
    simp [begun, track, find?, smallSession, hne]
  have hwaits : (smallSession.begun [nearFinding, farFinding]).ledger.nextPending? =
      some nearFinding.id := by
    rw [hbegun]
    rfl
  let e : LedgerEntry := ⟨{ findingId := nearFinding.id, state := .inProgress }, nearFinding⟩
  obtain ⟨request, hrequest⟩ := exists_request (e := e) (w := u)
    (s := (smallSession.begun [nearFinding, farFinding]).taking nearFinding.id)
    (fun _ => by decide) fun _ => by decide
  let v : Visit Nat := ⟨(smallSession.begun [nearFinding, farFinding]).taking nearFinding.id, e, u,
    request, hrequest⟩
  have hledger : v.session.ledger = [e, ⟨{ findingId := farFinding.id }, farFinding⟩] := by
    simp [v, e, taking, hbegun, updateRecord, update, hne.symm]
  have hfind : v.session.ledger.find? nearFinding.id = some e := by
    rw [hledger]
    simp [find?, e]
  obtain ⟨hworking, horder', -⟩ := working_taking hqueued horder hwaits
  have hdue : v.Due shadingController nearFinding.id := ⟨hworking, horder', hfind⟩
  -- its change fits, and settles it
  obtain ⟨next, hnext, -⟩ := extend_shading
  obtain ⟨t₁, x, htrial, hstore, htarget, -, hx⟩ := v.exists_trial (c := shadingController) rfl rfl
    hnext hheld
  have hreport : reported? shadingController t₁ x = some ⟨[], some shadedCoverage⟩ := by
    have hout : x.outside = 1 := hx.trans hu
    rw [reported?, run_shadingVerifier, hout, if_neg (by decide), reading_shadedReport]
    rfl
  have hjudge : judge .modelingError t₁.target t₁.store nearFinding ⟨[], some shadedCoverage⟩ =
      .ok (.resolved []) := by
    have hin : nearFinding.location.isIn t₁.target.harnessFile = true := by
      rw [htarget]
      change nearFinding.location.isIn smallSession.target.harnessFile = true
      decide
    have hline : t₁.store.currentLine nearFinding.location.line = .ok 5 := by
      rw [hstore]
      change currentLine next.inserted 4 = .ok 5
      rw [inserted_shading hnext]
      rfl
    have hshown : shownLocation t₁.target t₁.store nearFinding.location =
        .ok ⟨"harness.c", "", 5⟩ := by
      rw [shownLocation, if_pos hin, hline]
      rfl
    refine judge_of_nil hshown ?_
    rw [isListedMissed_shaded]
    decide
  obtain ⟨t₂, y, hresult, haccepted, -⟩ := v.result_of_resolved htrial hreport hjudge
  -- nothing else waits any more
  have hturn := hdue.turn
  rw [hresult, haccepted] at hturn
  obtain ⟨n, statements, ⟨g, hg, hn⟩, hafter⟩ := hturn.exists_confirmed
  have hid : (g e).record.findingId = nearFinding.id := (hg.id_eq e).trans hdue.id_eq
  rw [hledger, update, List.map_cons, List.map_singleton, if_pos hdue.id_eq,
    if_neg hne.symm] at hn
  rw [hn] at hafter
  obtain ⟨e', hconfirmed, hresolved, hby⟩ :=
    confirmed_both (f := farFinding) shadingController.budget statements hid hne.symm
  rw [hconfirmed] at hafter
  obtain ⟨qs, hrepairs, hvisits, hrest⟩ := h.of_settled hwaits hfind rfl hrequest hresult
  obtain ⟨-, hend, -⟩ := hrest.of_done (by
    rw [hafter]
    simp [nextPending?, hresolved])
  refine ⟨v, t₁, x, e', ?_, rfl, ?_, htrial, htarget, ?_, hreport, ?_, ?_, ?_, hresolved, ?_⟩
  · rw [visits_eq, hrepairs, List.flatMap_cons, hvisits]
    exact List.mem_cons_self
  · rw [hledger]
    rfl
  · rw [hnext, hstore]
    rfl
  · rw [hresult]
  · rw [hresult, hrun]
    exact hend
  · rw [hresult]
    exact hafter
  · obtain ⟨runs, usage, hrec⟩ := hg.record_eq e
    rw [hby, hrec]

theorem settles_iff_shading :
    smallSession.ledger = [] ∧ smallSession.store.current = { source := smallHarness } ∧
    ∃ v ∈ visits shadingController smallSession returningStart, ∃ t u,
      v.trial? shadingController = some (t, u) ∧
      reported? shadingController t u = some ⟨[], some shadedCoverage⟩ ∧
      v.entry.finding.location.isIn t.target.harnessFile = true ∧
      (∃ old, lineAt? (terminated smallHarness.toList) v.entry.finding.location.line = some old) ∧
      (terminated t.store.source.toList).length < wordLimit ∧
      Acceptable t.target t.store.log ⟨[], some shadedCoverage⟩ .modelingError
        v.entry.finding ∧
      (v.result shadingController).1.2.store = v.session.store.kept t.store.current := by
  obtain ⟨v, t, u, e, hmem, hfinding, -, htrial, htarget, hext, hreport, hsettled, -⟩ :=
    run_shading
  have hin : v.entry.finding.location.isIn t.target.harnessFile = true := by
    rw [hfinding, htarget]
    decide
  have hline : ∃ old,
      lineAt? (terminated smallHarness.toList) v.entry.finding.location.line = some old := by
    rw [hfinding, ← Option.isSome_iff_exists]
    decide
  have hword : (terminated t.store.source.toList).length < wordLimit := by
    obtain ⟨next, hnext, hfew⟩ := extend_shading
    obtain rfl := Except.ok.inj (hnext.symm.trans hext)
    exact hfew
  obtain ⟨-, -, hiff, hkept, -⟩ :=
    settles_iff rfl rfl hmem htrial hreport (fun _ => hline) hword
  have hgood := hiff.1 hsettled
  exact ⟨rfl, rfl, v, hmem, t, u, htrial, hreport, hin, hline, hword, hgood,
    (hkept hgood).1⟩

end Session

end HarnessRepair
