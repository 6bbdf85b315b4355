import HarnessRepair.Proofs.Finding.Complaint
import HarnessRepair.Proofs.Session.Reach
import HarnessRepair.Proofs.Session.Sightings
import HarnessRepair.Proofs.Verifier.Coverage

/-!
# Where the finding of a visit comes from

What a session asks about has been reported by the verifier, and has been brought back to
lines of the unpatched harness.  Every finding of a report that can be read is a complaint at a
location whose line is a word: line numbers are checked where they are read, in the properties
as in the coverage.  The report need not have been made on the text in which the session now
stands: when a change is undone for which its finding was seen again, the report was made on
the text with that change.

## Main definitions

* `ReportedOn` — a finding comes from a report on a text, or on it with some more changes.

## Main results

* `exists_complaint_of_mem_report` — what a finding of a report is.
* `Visit.Due.traced` — a round leaves only such findings open.
* `lasts_traced` — no step of a session ends that.
* `Session.reportedOn_of_mem_visits` — **so the finding of a visit comes from such a report.**
-/

namespace HarnessRepair

variable {ε : Type}

section

open Json Text

/-! ### Numbers -/

theorem lt_of_unsigned? {limit n : Nat} {s : String} (h : unsigned? limit s = some n) :
    n < limit := by
  rw [unsigned?, Option.filter_eq_some_iff] at h
  exact of_decide_eq_true h.2

theorem lt_of_word? {v : Value} {n : Nat} (h : v.word? = some n) : n < wordLimit := by
  cases v with
  | number m =>
    rw [Value.word?, Value.nat?] at h
    split at h
    · next hbelow =>
      obtain rfl := Option.some.inj h
      rw [Bool.and_eq_true] at hbelow
      exact of_decide_eq_true hbelow.2
    · cases h
  | _ => cases h

/-! ### Fields -/

/-- What is read of a value that may be `null` is read of a value. -/
theorem exists_of_nullable? {α : Type} {decode : Value → Option α} {v : Value} {a : α}
    (h : v.nullable? decode = some (some a)) : ∃ w, decode w = some a := by
  rw [Value.nullable?.eq_def] at h
  split at h
  · cases Option.some.inj h
  · obtain ⟨b, hb, heq⟩ := Option.map_eq_some_iff.1 h
    exact ⟨v, Option.some.inj heq ▸ hb⟩

/-- So is what is read of a field that may be absent. -/
theorem exists_of_optionalOrAbsent {α : Type} {decode : Value → Option α} {r : Record}
    {name : String} {a : α} (h : r.optionalOrAbsent name decode = some (some a)) :
    ∃ w, decode w = some a := by
  rw [Record.optionalOrAbsent] at h
  split at h
  · cases Option.some.inj h
  · exact exists_of_nullable? h

theorem exists_of_optional {α : Type} {decode : Value → Option α} {r : Record} {name : String}
    {a : α} (h : r.optional name decode = some (some a)) : ∃ w, decode w = some a := by
  rw [Record.optional] at h
  split at h
  · split at h
    · cases h
    · cases Option.some.inj h
  · exact exists_of_nullable? h

/-! ### Places -/

/-- A line as it is written is meant as a word. -/
theorem LineText.value_lt {v : Value} {line : LineText} {n : Nat}
    (h : LineText.ofJson? v = some line) (hn : line.value? = some n) : n < wordLimit := by
  rw [ofJson?] at h
  split at h
  · next m hm =>
    obtain rfl := Option.some.inj h
    obtain rfl := Option.some.inj hn
    exact lt_of_word? hm
  · obtain ⟨s, -, rfl⟩ := Option.map_eq_some_iff.1 h
    exact lt_of_unsigned? hn

theorem SourcePosition.line_lt {v : Value} {p : SourcePosition} {l : Location}
    (h : SourcePosition.ofJson? v = some p) (hl : p.location? = some l) : l.line < wordLimit := by
  obtain ⟨r, -, h⟩ := Option.bind_eq_some_iff.1 h
  obtain ⟨file, -, h⟩ := Option.bind_eq_some_iff.1 h
  obtain ⟨function, -, h⟩ := Option.bind_eq_some_iff.1 h
  obtain ⟨line, hline, h⟩ := Option.bind_eq_some_iff.1 h
  obtain rfl := Option.some.inj h
  obtain ⟨name, -, hl⟩ := Option.bind_eq_some_iff.1 hl
  obtain ⟨written, rfl, hl⟩ := Option.bind_eq_some_iff.1 hl
  obtain ⟨n, hn, hl⟩ := Option.bind_eq_some_iff.1 hl
  obtain rfl := Option.some.inj hl
  obtain ⟨w, hw⟩ := exists_of_optionalOrAbsent hline
  exact LineText.value_lt hw hn

/-- The place of a property that has been read is a word. -/
theorem PropertyEntry.line_lt {v : Value} {e : PropertyEntry} {l : Location}
    (h : PropertyEntry.ofJson? v = some e) (hl : e.location? = some l) : l.line < wordLimit := by
  obtain ⟨r, -, h⟩ := Option.bind_eq_some_iff.1 h
  obtain ⟨description, -, h⟩ := Option.bind_eq_some_iff.1 h
  obtain ⟨position, hposition, h⟩ := Option.bind_eq_some_iff.1 h
  obtain rfl := Option.some.inj h
  obtain ⟨p, rfl, hp⟩ := Option.bind_eq_some_iff.1 hl
  obtain ⟨w, hw⟩ := exists_of_optional hposition
  exact SourcePosition.line_lt hw hp

/-- The properties of a document have been read one by one. -/
theorem exists_of_readProperties? {text name : String} {properties : PropertyTable}
    {e : PropertyEntry} (h : readProperties? text = some properties)
    (he : properties.lookup name = some e) : ∃ w, PropertyEntry.ofJson? w = some e := by
  obtain ⟨document, -, h⟩ := Option.bind_eq_some_iff.1 h
  obtain ⟨v, -, h⟩ := wrapped?_eq_some_iff.1 h
  obtain ⟨r, -, h⟩ := Option.bind_eq_some_iff.1 h
  rw [Record.orDefault] at h
  split at h
  · obtain rfl := Option.some.inj h
    cases he
  · obtain ⟨hascending, hread⟩ := keyAscending_of_dictionary? h
    exact hread _ (hascending.lookup_eq_some_iff.1 he)

/-! ### Findings -/

section

variable {harnessFile : String} {failed : FailedProperties} {raw : RawReport}
  {errors : List Finding} {report : VerifierReport} {f : Finding}

/-- A modeling error lies where its property does. -/
theorem exists_complaint_of_mem_modelingErrors
    (h : modelingErrors harnessFile failed raw = .ok errors) (hf : f ∈ errors) :
    ∃ (c : Complaint) (l : Location), f = c.madeAt l ∧ l.line < wordLimit := by
  by_cases hne : failed = []
  · subst hne
    obtain rfl := Except.ok.inj h
    cases hf
  · obtain ⟨properties, traces, located, hproperties, -, hlocated, rfl⟩ :=
      (modelingErrors_eq_ok_iff hne).1 h
    obtain ⟨p, hp, -, rfl⟩ := mem_findingsOf.1 hf
    obtain ⟨name, -, entry, -, hof⟩ := (locate_eq_ok hlocated).2 p hp
    obtain ⟨text, -, hread⟩ := Option.bind_eq_some_iff.1 hproperties
    obtain ⟨w, hw⟩ := exists_of_readProperties? hread hof.entry_eq
    exact ⟨.violated _ _ _, p.location, rfl, entry.line_lt hw hof.location_eq⟩

/-- A gap lies where its first line is listed. -/
theorem exists_complaint_of_mem_coverageGaps {t : CoverageTable} (hf : f ∈ coverageGaps t) :
    ∃ (c : Complaint) (l : Location), f = c.madeAt l ∧ l.line < wordLimit := by
  obtain ⟨file, function, counts, lines, -, -, hf⟩ := mem_coverageGaps_iff.1 hf
  rw [functionGaps] at hf
  split at hf
  · cases hf
  · obtain ⟨run, hrun, x, more, rfl, rfl⟩ := exists_run_of_mem_gapsIn hf
    have hmem : x ∈ (runsFrom [] (sortedLines lines)).flatten :=
      List.mem_flatten_of_mem hrun List.mem_cons_self
    rw [flatten_runsFrom, List.nil_append] at hmem
    obtain ⟨line, -, hline⟩ := mem_sortedLines.1 (List.mem_filter.1 hmem).1
    exact ⟨.uncovered _, _, rfl, lt_of_unsigned? hline⟩

/-- **Every finding of a report says something of a line that is a word.** -/
theorem exists_complaint_of_mem_report (h : readReport harnessFile raw = .ok report)
    (hf : f ∈ report.findings) :
    ∃ (c : Complaint) (l : Location), f = c.madeAt l ∧ l.line < wordLimit := by
  obtain ⟨failed, errors, -, herrors, ⟨-, rfl⟩ | ⟨text, table, -, -, rfl⟩⟩ :=
    readReport_eq_ok_iff.1 h
  · exact exists_complaint_of_mem_modelingErrors herrors (mem_of_mem_orderFindings hf)
  · rcases List.mem_append.1 (mem_of_mem_orderFindings hf) with hmem | hmem
    · exact exists_complaint_of_mem_modelingErrors herrors hmem
    · exact exists_complaint_of_mem_coverageGaps hmem

end

end

/-! ### Where a finding was reported -/

/-- Changes that follow on one. -/
theorem Grown.after {s t u : Snapshot} {ps : List Patch} {changes : List (List Patch)}
    (hext : s.extend ps = .ok t) (h : Grown t changes u) : Grown s (ps :: changes) u := by
  induction h with
  | start =>
    have hone : Grown s ([] ++ [ps]) _ := .more .start hext
    exact hone
  | more _ hnext ih => exact .more ih hnext

/-- A finding comes from a report on the text of a snapshot, or on it with some more changes. -/
def ReportedOn (harnessFile : String) (s : Snapshot) (f : Finding) : Prop :=
  ∃ (changes : List (List Patch)) (store : PatchStore) (raw : RawReport)
    (report : VerifierReport), Grown s changes store.current ∧
      readReport harnessFile raw = .ok report ∧ f ∈ rebased harnessFile store report.findings

section

variable {harnessFile : String} {s t : Snapshot} {f : Finding}

/-- What comes from a report on more changes comes from one on fewer and more. -/
theorem ReportedOn.of_extend {ps : List Patch} (hext : s.extend ps = .ok t)
    (h : ReportedOn harnessFile t f) : ReportedOn harnessFile s f := by
  obtain ⟨changes, store, raw, report, hgrown, hread, hmem⟩ := h
  exact ⟨ps :: changes, store, raw, report, hgrown.after hext, hread, hmem⟩

/-- Without inserted lines nothing has to be brought back. -/
theorem rebased_of_nil {store : PatchStore} (h : store.current.inserted = [])
    (fs : List Finding) : rebased harnessFile store fs = fs := by
  have hself : ∀ f : Finding, rebase? harnessFile store f = some f := by
    intro f
    have hback : store.canonicalLine? f.location.line = some f.location.line := by
      rw [PatchStore.canonicalLine?, h]
      rfl
    rw [rebase?]
    split
    · rw [hback]
      exact congrArg some (if_pos rfl)
    · rfl
  rw [rebased, List.filterMap_congr fun f _ => hself f, List.filterMap_some]

/-- What a verifier leaves is read from documents. -/
theorem exists_raw_of_reading {target : HarnessTarget}
    {r : Except InfrastructureFailure RawReport} {report : VerifierReport}
    (h : reading target r = .ok report) :
    ∃ raw, readReport target.harnessFile raw = .ok report := by
  cases r with
  | error e => cases h
  | ok raw =>
    refine ⟨raw, ?_⟩
    rw [reading] at h
    cases hread : readReport target.harnessFile raw with
    | error e =>
      rw [hread] at h
      cases h
    | ok read =>
      rw [hread] at h
      exact congrArg Except.ok (Except.ok.inj h)

end

open Ledger

/-- Every open finding of a session comes from a report on its text, or on it with some more
changes. -/
def Session.Traced (harnessFile : String) (s : Session) : Prop :=
  s.ledger.EveryOpen fun _ f => ReportedOn harnessFile s.store.current f

/-! ### One round -/

namespace Visit

variable {c : Controller ε} {v : Visit ε} {id : FindingId}

/-- What a report on trial has of the wanted kind comes from a report on the text with the
change. -/
theorem reportedOn_of_trial {t : Session} {u : World ε} (htrial : v.trial? c = some (t, u))
    {report : VerifierReport}
    (hread : reading t.target ((c.verifier.run t.target).run u).1 = .ok report) {f : Finding}
    (hf : f ∈ rebased t.target.harnessFile t.store report.findings) :
    ReportedOn v.session.target.harnessFile t.store.current f := by
  obtain ⟨proposal, next, -, -, rfl, -⟩ := exists_of_trial htrial
  obtain ⟨raw, hraw⟩ := exists_raw_of_reading hread
  exact ⟨[], _, raw, report, .start, hraw, hf⟩

/-- A round that settles its finding leaves open what the report on its change has. -/
theorem Due.traced_settled (h : v.Due c id) {t : Session} {u : World ε}
    (hresult : v.result c = ((.ok .settled, t), u)) :
    t.Traced v.session.target.harnessFile := by
  have hturn := h.turn
  rw [hresult] at hturn
  obtain ⟨-, fs, haccepted, -⟩ := hturn.settled h.working h.inOrder
  obtain ⟨x, y, report, htrial, hreport, rfl⟩ := v.exists_report_of_accepted haccepted
  have hread := reading_of_reported hreport
  obtain ⟨proposal, next, -, -, hstore, -, hconcluded⟩ := concluded htrial
  rw [hresult] at hconcluded
  have hcurrent : t.store.current = x.store.current := by
    rcases hconcluded.of_ok with ⟨_, _, -, hunsettled, -⟩ | ⟨others, -, -, rfl⟩
    · cases hunsettled
    · rw [hstore]
      rfl
  obtain ⟨n, statements, hnoted, hledger⟩ := (haccepted ▸ hturn).exists_confirmed
  rw [Session.Traced, hcurrent]
  dsimp only at hledger
  rw [hledger]
  -- every finding that is open now is one of the report that has just come
  refine everyOpen_confirmed h.working hnoted statements fun f hf => ?_
  exact reportedOn_of_trial htrial hread (List.mem_filter.1 hf).1

/-- A round that has failed leaves open what was, and its finding as it was seen again. -/
theorem Due.traced_unsettled (h : v.Due c id) (hs : v.session.Traced v.session.target.harnessFile)
    {t : Session} {u : World ε} (hresult : v.result c = ((.ok .unsettled, t), u)) :
    t.Traced v.session.target.harnessFile := by
  have hkeeps := grown (c := c) (v := v) .start hresult
  rw [kept_of_unsettled (by rw [hresult]; simp), List.append_nil] at hkeeps
  rw [Session.Traced, hkeeps.eq_start rfl]
  -- nothing was kept, so only a finding that has been seen once more can be new
  cases h.failed hresult with
  | untried statements htrial hcause hother hsame =>
    rcases hsame with rfl | ⟨usage, rfl⟩
    · exact hs.charged _ _
    · exact (hs.addUsage usage).charged _ _
  | @undone x t w cause seen statements htrial hcause hverdict ht =>
    obtain ⟨proposal, next, -, hext, rfl, -⟩ := exists_of_trial htrial
    have hbefore : EveryOpen (fun _ f => ReportedOn v.session.target.harnessFile
        v.session.store.current f) t.ledger := by
      rw [ht]
      exact (hs.addUsage proposal.usage).verified
    rcases verdict_undone hverdict with ⟨-, rfl⟩ | ⟨report, still, hread, hpersists, -, rfl⟩
    · exact hbefore.charged _ _
    · have hmem := List.mem_of_find?_eq_some (find?_of_judge_persists hpersists)
      have hstill := reportedOn_of_trial htrial hread (List.mem_filter.1 hmem).1
      have hseen : EveryOpen (fun _ f => ReportedOn v.session.target.harnessFile
          v.session.store.current f) (t.noted (some still)).ledger :=
        hbefore.observe (fun _ _ _ hg => hg) (hstill.of_extend hext)
      exact hseen.charged _ _

/-- **A round leaves only findings open that come from such a report.** -/
theorem Due.traced (h : v.Due c id) (hs : v.session.Traced v.session.target.harnessFile)
    {ending : RoundEnd} {t : Session} {u : World ε}
    (hresult : v.result c = ((.ok ending, t), u)) :
    t.Traced v.session.target.harnessFile := by
  cases ending with
  | settled => exact h.traced_settled hresult
  | unsettled => exact h.traced_unsettled hs hresult

end Visit

/-! ### A session -/

/-- No step of a session ends that its open findings come from such reports. -/
theorem lasts_traced (c : Controller ε) (target : HarnessTarget) :
    Lasts c fun _ s => s.target = target ∧ s.Traced target.harnessFile where
  taking := fun ⟨htarget, h⟩ hq _ hnext => ⟨htarget, h.taken hq hnext⟩
  round := by
    rintro us v id ending t u ⟨htarget, h⟩ hdue hresult
    have hsame := hdue.target_eq
    rw [hresult] at hsame
    refine ⟨hsame.trans htarget, ?_⟩
    rw [← htarget] at h ⊢
    exact hdue.traced h hresult
  givenUp := fun ⟨htarget, h⟩ _ _ _ =>
    ⟨htarget, h.close fun e => (Session.spentState_ne_resolved e.record).2⟩

namespace Session

variable {c : Controller ε} {s : Session} {w : World ε} {v : Visit ε} {fs : List Finding}

/-- The findings of the first report come from it. -/
theorem traced_begun (hempty : s.ledger = []) (hnone : s.store.current.inserted = [])
    (hinitial : initial? c s w = some fs) : (s.begun fs).Traced s.target.harnessFile := by
  obtain ⟨report, hreport, rfl⟩ := Option.map_eq_some_iff.1 hinitial
  obtain ⟨raw, hraw⟩ := exists_raw_of_reading (Visit.reading_of_reported hreport)
  rw [Traced, ledger_begun hempty]
  refine everyOpen_entered queued_nil (List.forall_mem_nil _) fun f hf => ?_
  refine ⟨[], s.store, raw, report, .start, hraw, ?_⟩
  rw [rebased_of_nil hnone]
  exact (List.mem_filter.1 hf).1

/-- **The finding of a visit comes from a report** on the text that the visit finds, or on it
with some more changes. -/
theorem reportedOn_of_mem_visits (hempty : s.ledger = [])
    (hnone : s.store.current.inserted = []) (hv : v ∈ visits c s w) :
    v.session.target = s.target ∧
      ReportedOn s.target.harnessFile v.session.store.current v.entry.finding := by
  obtain ⟨id, hdue⟩ := due_of_mem_visits hempty hv
  rw [visits_eq] at hv
  obtain ⟨p, hp, hmem⟩ := List.mem_flatMap.1 hv
  obtain ⟨fs, hinitial⟩ := exists_initial hp
  obtain ⟨k, hk⟩ := List.mem_iff_getElem?.1 hp
  obtain ⟨i, hi⟩ := List.mem_iff_getElem?.1 hmem
  obtain ⟨htarget, htraced⟩ := lasts (lasts_traced c s.target) hempty hinitial
    ⟨rfl, traced_begun hempty hnone hinitial⟩ hk hi
  obtain ⟨j, e, hat⟩ := hdue.working.atWork
  obtain rfl : e = v.entry := Option.some.inj (hat.find?_eq.symm.trans hdue.entry)
  exact ⟨htarget, htraced _ (List.mem_of_getElem? hat.entry) hat.not_done⟩

end Session

end HarnessRepair
