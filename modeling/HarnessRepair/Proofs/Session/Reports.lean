import HarnessRepair.Proofs.Session.Footing
import HarnessRepair.Proofs.Session.Moments
import HarnessRepair.Proofs.Verifier.Reading

/-!
# The ledger and the accepted reports

A session accepts the report that it begins with and those that confirm a change.  Its
findings are those of the accepted reports, and what it has resolved was missing in one
of them.  A finding that is reported again after that stays resolved.

## Main definitions

* `Session.acceptedReports` — the accepted reports, in order.
* `ComesBack` — a finding that was missing in a report after it had been in one.
* `Ledger.Reported` — how a ledger follows from some reports.

## Main results

* `Turn.reported`, `Attempted.reported`, `Repaired.reported`, `Ran.reported` — a ledger
  follows from the reports that have been accepted.
* `Session.run_clean` — **where a clean session still has findings, they have come back.**
-/

namespace HarnessRepair

variable {ε : Type}

/-! ### Reports -/

/-- The findings of the wanted kind in the reports that a session accepts, in order. -/
def Session.acceptedReports (c : Controller ε) (s : Session) (w : World ε) :
    List (List Finding) :=
  (initial? c s w).toList ++ (visits c s w).filterMap (·.accepted? c)

/-- A finding was in one of some reports, and then missing in a later one. -/
def ComesBack (reports : List (List Finding)) (id : FindingId) : Prop :=
  ∃ (i j : Nat) (fs gs : List Finding), i < j ∧ reports[i]? = some fs ∧ id ∈ fs.map (·.id) ∧
    reports[j]? = some gs ∧ id ∉ gs.map (·.id)

variable {reports : List (List Finding)} {fs : List Finding} {id : FindingId}

theorem ComesBack.append (h : ComesBack reports id) (more : List (List Finding)) :
    ComesBack (reports ++ more) id := by
  obtain ⟨i, j, fs, gs, hij, hfs, hin, hgs, hout⟩ := h
  have hj := (List.getElem?_eq_some_iff.1 hgs).1
  have hi : i < reports.length := Nat.lt_trans hij hj
  exact ⟨i, j, fs, gs, hij, by rw [List.getElem?_append_left hi, hfs], hin,
    by rw [List.getElem?_append_left hj, hgs], hout⟩

/-- A finding of the last report has come back before. -/
theorem ComesBack.before_last {last : List Finding} (h : ComesBack (reports ++ [last]) id)
    (hin : id ∈ last.map (·.id)) : ComesBack reports id := by
  obtain ⟨i, j, fs, gs, hij, hfs, hfound, hgs, hout⟩ := h
  have hj := (List.getElem?_eq_some_iff.1 hgs).1
  rw [List.length_append, List.length_singleton] at hj
  have hlt : j < reports.length := by
    by_contra hge
    obtain rfl : j = reports.length := by omega
    rw [List.getElem?_concat_length] at hgs
    obtain rfl := Option.some.inj hgs
    exact hout hin
  rw [List.getElem?_append_left (Nat.lt_trans hij hlt)] at hfs
  rw [List.getElem?_append_left hlt] at hgs
  exact ⟨i, j, fs, gs, hij, hfs, hfound, hgs, hout⟩

/-- A finding of some reports is missing in the next one. -/
theorem comesBack_push (hseen : ∃ fs ∈ reports, id ∈ fs.map (·.id))
    (hout : id ∉ fs.map (·.id)) :
    ComesBack (reports ++ [fs]) id := by
  obtain ⟨gs, hgs, hin⟩ := hseen
  obtain ⟨i, hi⟩ := List.mem_iff_getElem?.1 hgs
  have hlt := (List.getElem?_eq_some_iff.1 hi).1
  exact ⟨i, reports.length, gs, fs, hlt, by rw [List.getElem?_append_left hlt, hi], hin,
    List.getElem?_concat_length, hout⟩

namespace Ledger

open LedgerEntry

variable {b : Attempts} {l m : Ledger}

/-- How a ledger follows from the reports that have been accepted. -/
structure Reported (reports : List (List Finding)) (l : Ledger) : Prop where
  /-- All findings of the reports are in the ledger. -/
  known : ∀ fs ∈ reports, ∀ f ∈ fs, ∃ e ∈ l, e.record.findingId = f.id
  /-- The ledger has no others. -/
  seen : ∀ e ∈ l, ∃ fs ∈ reports, e.record.findingId ∈ fs.map (·.id)
  /-- What is resolved was missing at some time. -/
  missed : ∀ e ∈ l, e.record.state = .resolved → ComesBack reports e.record.findingId

namespace Reported

/-- Reports that are all in the ledger stay there. -/
theorem known_of_grows (h : Reported reports l) (hgrows : l.Grows m) :
    ∀ fs ∈ reports, ∀ f ∈ fs, ∃ e ∈ m, e.record.findingId = f.id := by
  intro fs hfs f hf
  obtain ⟨e, he, hid⟩ := h.known fs hfs f hf
  obtain ⟨e', he', hgrown⟩ := hgrows.mem he
  exact ⟨e', he', hgrown.id_eq.trans hid⟩

/-- A change that resolves nothing. -/
theorem update (h : Reported reports l) {g : LedgerEntry → LedgerEntry}
    (hid : ∀ e, (g e).record.findingId = e.record.findingId)
    (hstate : ∀ e, (g e).record.state = .resolved → e.record.state = .resolved) :
    Reported reports (l.update id g) := by
  have hsame : ∀ e : LedgerEntry, (if e.record.findingId = id then g e else e).record.findingId =
      e.record.findingId := by
    intro e
    split
    · exact hid e
    · rfl
  refine ⟨?_, ?_, ?_⟩
  · intro fs hfs f hf
    obtain ⟨e, he, heq⟩ := h.known fs hfs f hf
    exact ⟨_, List.mem_map_of_mem he, (hsame e).trans heq⟩
  · intro e' he'
    obtain ⟨e, he, rfl⟩ := List.mem_map.1 he'
    rw [hsame]
    exact h.seen e he
  · intro e' he' hresolved
    obtain ⟨e, he, rfl⟩ := List.mem_map.1 he'
    rw [hsame]
    refine h.missed e he ?_
    split at hresolved
    · exact hstate e hresolved
    · exact hresolved

theorem noted (h : Reported reports l) (hm : l.Noted id m) : Reported reports m := by
  obtain ⟨g, hg, rfl⟩ := hm
  refine h.update hg.id_eq fun e hresolved => ?_
  obtain ⟨runs, usage, hrec⟩ := hg.record_eq e
  rwa [hrec] at hresolved

/-- The next report is taken in. -/
theorem taken (h : Reported reports l) (hw : Working id l) (hgrows : l.Grows m)
    (hgone : id ∉ fs.map (·.id)) (htaken : Taken id fs l m) : Reported (reports ++ [fs]) m where
  known := by
    refine List.forall_mem_append.2 ⟨h.known_of_grows hgrows, ?_⟩
    exact List.forall_mem_singleton.2 htaken.known
  seen := by
    intro e' he'
    obtain ⟨i, hi⟩ := List.mem_iff_getElem?.1 he'
    cases hl : l[i]? with
    | none =>
      obtain ⟨f, hf, hrec⟩ := htaken.fresh i e' hi hl
      rw [hrec]
      exact ⟨fs, List.mem_append_right _ List.mem_cons_self, List.mem_map_of_mem hf⟩
    | some e =>
      obtain ⟨d, hd, hgrown⟩ := hgrows i e hl
      obtain rfl := Option.some.inj (hi.symm.trans hd)
      obtain ⟨gs, hgs, hin⟩ := h.seen e (List.mem_of_getElem? hl)
      rw [hgrown.id_eq]
      exact ⟨gs, List.mem_append_left _ hgs, hin⟩
  missed := by
    intro e' he' hresolved
    obtain ⟨i, hi⟩ := List.mem_iff_getElem?.1 he'
    cases hl : l[i]? with
    | none =>
      obtain ⟨f, hf, hrec⟩ := htaken.fresh i e' hi hl
      rw [hrec] at hresolved
      cases hresolved
    | some e =>
      have hmem := List.mem_of_getElem? hl
      obtain ⟨d, hd, hgrown⟩ := hgrows i e hl
      obtain rfl := Option.some.inj (hi.symm.trans hd)
      rw [hgrown.id_eq]
      by_cases hdone : e.Done
      · -- what was resolved before stays resolved
        obtain rfl := hgrown.done hdone
        exact (h.missed _ hmem hresolved).append _
      · refine comesBack_push (h.seen e hmem) ?_
        obtain ⟨k, d, hat⟩ := hw.atWork
        rcases Nat.lt_trichotomy i k with hlt | rfl | hlt
        · exact absurd (hat.front i e hl hlt) hdone
        · -- the finding at work is not in the report
          obtain rfl := Option.some.inj (hl.symm.trans hat.entry)
          rw [hat.id_eq]
          exact hgone
        · have hpending : e.record.state = .pending := by
            rcases hat.behind i e hl hlt with ⟨hpending, -⟩ | ⟨hstate, -⟩
            · exact hpending
            · exact absurd (by rw [Done, hstate]; rfl) hdone
          obtain ⟨d', hd', hrec⟩ := htaken.waiting i e hl hpending
          obtain rfl := Option.some.inj (hi.symm.trans hd')
          intro hin
          rw [if_pos hin] at hrec
          rw [hrec, hpending] at hresolved
          cases hresolved

end Reported

end Ledger

open Ledger

/-! ### Following a session -/

/-- A ledger follows from the reports that have been accepted, one round on. -/
theorem Turn.reported {b : Attempts} {l m : Ledger} {r : Except SessionFailure RoundEnd}
    {others : Option (List Finding)} (h : Turn b id l r others m) (hw : l.Working id)
    (ho : l.InOrder b) (hl : l.Reported reports) : m.Reported (reports ++ others.toList) := by
  by_cases hsettled : r = .ok .settled
  · subst hsettled
    obtain ⟨-, fs, rfl, hgone, htaken⟩ := h.settled hw ho
    exact hl.taken hw (h.inOrder hw ho).2 hgone htaken
  · rw [h.others_eq_none hsettled, Option.toList_none, List.append_nil]
    cases h with
    | failed h cause statements => exact (hl.noted h).update (fun _ => rfl) fun _ he => he
    | fatal h failure => exact hl.noted h
    | kept h hne hgone => exact absurd rfl hsettled

theorem Visit.Due.reported {c : Controller ε} {v : Visit ε} (h : v.Due c id)
    (hl : v.session.ledger.Reported reports) :
    (v.result c).1.2.ledger.Reported (reports ++ [v].filterMap (·.accepted? c)) := by
  have hone : [v].filterMap (·.accepted? c) = (v.accepted? c).toList := by
    cases haccepted : v.accepted? c <;> simp [haccepted]
  rw [hone]
  exact h.turn.reported h.working h.inOrder hl

/-- A ledger follows from the reports that have been accepted, some rounds on. -/
theorem Attempted.reported {c : Controller ε} {s t : Session} {w u : World ε}
    {vs : List (Visit ε)} {r : Except SessionFailure Unit} (h : Attempted c id s w vs r t u)
    (hw : s.ledger.Working id) (ho : s.ledger.InOrder c.budget)
    (hl : s.ledger.Reported reports) :
    t.ledger.Reported (reports ++ vs.filterMap (·.accepted? c)) := by
  induction h generalizing reports with
  | spent hfind hnone htold =>
    rw [List.filterMap_nil, List.append_nil]
    refine hl.update (fun _ => rfl) fun e hresolved => ?_
    exact absurd hresolved (Session.spentState_ne_resolved e.record).1
  | unasked hfind hbudget hrequest => rwa [List.filterMap_nil, List.append_nil]
  | fatal hfind hbudget hresult =>
    have hreported := Visit.Due.reported ⟨hw, ho, hfind⟩ hl
    rwa [hresult] at hreported
  | settled hfind hbudget hresult =>
    have hreported := Visit.Due.reported ⟨hw, ho, hfind⟩ hl
    rwa [hresult] at hreported
  | @again v _ _ _ _ vs _ hfind hbudget hresult hrest ih =>
    have hdue : Visit.Due c id v := ⟨hw, ho, hfind⟩
    obtain ⟨hw', ho', -⟩ := hdue.again hresult
    have hreported := hdue.reported hl
    rw [hresult] at hreported
    have hcons : v :: vs = [v] ++ vs := rfl
    rw [hcons, List.filterMap_append, ← List.append_assoc]
    exact ih hw' ho' hreported

/-- Every finding that is taken up was reported, and unless the session could not go on its
ledger follows from the reports that it has accepted. -/
theorem Repaired.reported {c : Controller ε} {s t : Session} {w u : World ε}
    {ps : List (Repair ε)} {outcome : Except Overflow SessionOutcome}
    (h : Repaired c s w ps outcome t u)
    (hq : s.ledger.Queued) (ho : s.ledger.InOrder c.budget) (hl : s.ledger.Reported reports) :
    (∀ p ∈ ps, ∃ fs ∈ reports ++ (ps.flatMap (·.visits c)).filterMap (·.accepted? c),
      p.id ∈ fs.map (·.id)) ∧
    ∀ ending, outcome = .ok ending → ending.status ≠ .blocked → ending.status = t.finalStatus ∧
      t.ledger.Reported (reports ++ (ps.flatMap (·.visits c)).filterMap (·.accepted? c)) := by
  have hone : ∀ {p : Repair ε} {reports}, p.session.ledger.nextPending? = some p.id →
      p.session.ledger.Reported reports →
      (p.session.taking p.id).ledger.Reported reports ∧ ∃ fs ∈ reports, p.id ∈ fs.map (·.id) := by
    intro p reports hnext hl
    refine ⟨hl.update (fun _ => rfl) fun e hresolved => ?_, ?_⟩
    · cases hresolved
    · rw [nextPending?, Option.map_eq_some_iff] at hnext
      obtain ⟨e, hfind, hid⟩ := hnext
      rw [← hid]
      exact hl.seen e (List.mem_of_find?_eq_some hfind)
  induction h generalizing reports with
  | done hnext htold =>
    rw [List.flatMap_nil, List.filterMap_nil, List.append_nil]
    refine ⟨List.forall_mem_nil _, fun ending hending _ => ?_⟩
    obtain rfl := Except.ok.inj hending
    exact ⟨rfl, hl⟩
  | fatal hnext h htold =>
    obtain ⟨-, gs, hgs, hin⟩ := hone hnext hl
    refine ⟨List.forall_mem_singleton.2 ⟨gs, List.mem_append_left _ hgs, hin⟩, ?_⟩
    exact fun ending hending hne => absurd (Session.status_of_ended hending) hne
  | next hnext h hrest ih =>
    obtain ⟨hw, ho', -⟩ := Session.working_taking hq ho hnext
    obtain ⟨horder, -, -, hend, -⟩ := h.ends hw ho'
    obtain ⟨htaking, gs, hgs, hin⟩ := hone hnext hl
    obtain ⟨hps, hstatus⟩ := ih (hend rfl).1 horder (h.reported hw ho' htaking)
    rw [List.flatMap_cons, List.filterMap_append, ← List.append_assoc]
    refine ⟨List.forall_mem_cons.2 ⟨?_, hps⟩, hstatus⟩
    exact ⟨gs, List.mem_append_left _ (List.mem_append_left _ hgs), hin⟩

/-- The ledger after the first report. -/
theorem Session.reported_begun {s : Session} (hempty : s.ledger = []) (fs : List Finding) :
    (s.begun fs).ledger.Reported [fs] := by
  obtain ⟨-, -, hentered⟩ := queued_begun .zero hempty fs
  have hnew : ∀ e ∈ (s.begun fs).ledger, ∃ f ∈ fs, e.record = { findingId := f.id } := by
    intro e he
    obtain ⟨i, hi⟩ := List.mem_iff_getElem?.1 he
    exact hentered.fresh i e hi rfl
  refine ⟨List.forall_mem_singleton.2 hentered.known, ?_, ?_⟩
  · intro e he
    obtain ⟨f, hf, hrec⟩ := hnew e he
    rw [hrec]
    exact ⟨fs, List.mem_cons_self, List.mem_map_of_mem hf⟩
  · intro e he hresolved
    obtain ⟨f, hf, hrec⟩ := hnew e he
    rw [hrec] at hresolved
    cases hresolved

/-- The same of a whole session, which then has a first report. -/
theorem Ran.reported {c : Controller ε} {s t : Session} {w u : World ε} {ps : List (Repair ε)}
    {outcome : Except Overflow SessionOutcome} (h : Ran c s w ps outcome t u)
    (hempty : s.ledger = []) :
    (∀ p ∈ ps, ∃ fs ∈ (Session.initial? c s w).toList ++
      (ps.flatMap (·.visits c)).filterMap (·.accepted? c), p.id ∈ fs.map (·.id)) ∧
    ∀ ending, outcome = .ok ending → ending.status ≠ .blocked → ending.status = t.finalStatus ∧
      ∃ first, Session.initial? c s w = some first ∧ t.ledger.Reported
        (first :: (ps.flatMap (·.visits c)).filterMap (·.accepted? c)) := by
  cases h with
  | refused hinitial htold =>
    refine ⟨List.forall_mem_nil _, fun ending hending hopen => ?_⟩
    obtain rfl := Except.ok.inj hending
    exact absurd rfl hopen
  | started hinitial htold h =>
    obtain ⟨hqueued, horder, -⟩ := Session.queued_begun c.budget hempty _
    obtain ⟨hps, hend⟩ := h.reported hqueued horder (Session.reported_begun hempty _)
    rw [hinitial]
    refine ⟨hps, fun ending hending hopen => ?_⟩
    obtain ⟨hstatus, hreported⟩ := hend ending hending hopen
    exact ⟨hstatus, _, rfl, hreported⟩

/-- Every finding that a session takes up was in a report that it has accepted. -/
theorem Session.exists_report_of_mem_repairs {c : Controller ε} {s : Session} {w : World ε}
    (hempty : s.ledger = []) {p : Repair ε} (hp : p ∈ repairs c s w) :
    ∃ fs ∈ acceptedReports c s w, p.id ∈ fs.map (·.id) := by
  obtain ⟨outcome, t, u, -, hran⟩ := ran_run (c := c) hempty w
  rw [acceptedReports, visits_eq]
  exact (hran.reported hempty).1 p hp

/-! ### A finding that comes back -/

section

variable {id : FindingId} {s t : Session} {w u : World ε} {c : Controller ε}

/-- A change is kept if a single finding is left, which lies outside the harness and is not
the one that the change was made for, which lies outside, too. -/
theorem judge_elsewhere {kind : FindingKind} {target : HarnessTarget} (store : PatchStore)
    {finding f : Finding} (hnot : f.location.isIn target.harnessFile = false)
    (hshown : ∃ shown, shownLocation target store finding.location = .ok shown)
    (hkind : f.kind = kind) (hne : f.id ≠ finding.id) :
    judge kind target store finding ⟨[f], none⟩ = .ok (.resolved [f]) := by
  have hrebased : rebased target.harnessFile store [f] = [f] := by
    simp [rebased, rebase?, hnot]
  have hnone : introduced target.harnessFile store [f] = [] := by
    simp [introduced, statementUnder?, hnot]
  obtain ⟨shown, hshown⟩ := hshown
  unfold judge
  dsimp only
  rw [hnone, hrebased, hshown]
  simp [hkind, hne, isListedMissed]

/-- A round whose change fits, after which a single finding is left elsewhere. -/
theorem Visit.result_elsewhere {v : Visit ε} {proposal : Proposal} {next : Snapshot} {f : Finding}
    {old : String} (hask : Session.ask c v.request v.world = (.ok proposal, u))
    (hfree : v.session.store.inFlight = none)
    (hfits : v.session.store.current.extend proposal.patches = .ok next)
    (hholds : Holds v.session.store.path old u)
    (hspares : Spares v.session.store.path (c.verifier.run v.session.target))
    (hshown : ∃ shown, shownLocation v.session.target (v.session.store.changed next)
      v.entry.finding.location = .ok shown)
    (hreads : ∀ x : World ε, x.outside = u.outside →
      reading v.session.target ((c.verifier.run v.session.target).run x).1 = .ok ⟨[f], none⟩)
    (hnot : f.location.isIn v.session.target.harnessFile = false)
    (hkind : f.kind = c.mode.targets) (hne : f.id ≠ v.entry.finding.id) :
    ∃ t x y, v.result c = ((.ok .settled, t), y) ∧ v.accepted? c = some [f] ∧
      t.store = v.session.store.kept next ∧ Holds v.session.store.path next.source y ∧
      x.outside = u.outside ∧
      y.outside = ((c.verifier.run v.session.target).run x).2.outside := by
  obtain ⟨s, x, htrial, hstore, htarget, hmade, hout⟩ := v.exists_trial hask hfree hfits hholds
  have hreport : reported? c s x = some ⟨[f], none⟩ := by
    rw [reported?, htarget, hreads x hout]
    rfl
  rw [← hstore] at hshown
  have hjudge := judge_elsewhere s.store hnot hshown hkind hne
  rw [← htarget] at hjudge
  obtain ⟨t, y, hresult, haccepted, hkept, hout', hleft⟩ :=
    v.result_of_resolved htrial hreport hjudge
  rw [htarget] at hout' hleft
  have hnext : s.store.current = next := by rw [hstore]; rfl
  rw [hnext] at hkept
  exact ⟨t, x, y, hresult, haccepted, hkept, hleft _ (hspares x _ hmade), hout, hout'⟩

end

namespace Ledger

variable {id : FindingId} {d e : LedgerEntry} {f : Finding}

/-- A new finding is queued behind the only one, which is resolved. -/
theorem confirmed_new (b : Attempts) (statements : List String)
    (he : e.record.findingId = id) (hne : f.id ≠ id) :
    ∃ d, confirmed b [e] id statements [f] = [d, ⟨{ findingId := f.id }, f⟩] ∧
      d.record.findingId = id ∧ d.record.state = .resolved := by
  subst he
  refine ⟨{ e with record := { e.record.charge none statements b with
    state := .resolved, keptStatements := statements } }, ?_, rfl, rfl⟩
  simp [confirmed, updateRecord, update, settle, isGone, enter, track, find?, hne.symm,
    AttemptRecord.charge]

/-- A finding that is done with is left alone when it is reported again. -/
theorem confirmed_known (b : Attempts) (statements : List String)
    (hd : d.record.findingId = f.id) (hdone : d.record.state = .resolved)
    (he : e.record.findingId = id) (hne : f.id ≠ id) :
    ∃ e', confirmed b [d, e] id statements [f] = [d, e'] ∧ e'.record.state = .resolved := by
  subst he
  refine ⟨{ e with record := { e.record.charge none statements b with
    state := .resolved, keptStatements := statements } }, ?_, rfl⟩
  simp [confirmed, updateRecord, update, settle, isGone, enter, find?, hne, hd, hdone,
    AttemptRecord.charge, FindingState.isTerminal]

end Ledger

/-- A session whose first finding is settled in its first round, with a single other one left,
visits that one next. -/
theorem Session.mem_visits_of_settled {c : Controller ε} {s : Session} {w : World ε}
    {f g : Finding} (hempty : s.ledger = []) (hinitial : initial? c s w = some [f])
    (hbudget : ({ findingId := f.id, state := .inProgress } : AttemptRecord).hasBudget c.budget =
      true) (hne : g.id ≠ f.id) :
    ∃ u, Told ((c.verifier.run s.target).run (opened c s w)).2 u ∧
      ∀ {request : RepairRequest} (hrequest : ((s.begun [f]).taking f.id).request
          ⟨{ findingId := f.id, state := .inProgress }, f⟩ u = .ok request),
        let v : Visit ε := ⟨(s.begun [f]).taking f.id,
          ⟨{ findingId := f.id, state := .inProgress }, f⟩, u, request, hrequest⟩
        ∀ t y, v.result c = ((.ok .settled, t), y) → v.accepted? c = some [g] →
          ∀ {asked : RepairRequest} (hasked : (t.taking g.id).request
              ⟨{ findingId := g.id, state := .inProgress }, g⟩ y = .ok asked),
            ⟨t.taking g.id, ⟨{ findingId := g.id, state := .inProgress }, g⟩, y, asked, hasked⟩ ∈
              visits c s w := by
  obtain ⟨outcome, last, z, -, hran⟩ := ran_run (c := c) hempty w
  obtain ⟨u, htold, h⟩ := hran.repaired hinitial
  obtain ⟨hqueued, horder, -⟩ := queued_begun c.budget hempty [f]
  refine ⟨u, htold, fun hrequest t y hresult haccepted asked hasked => ?_⟩
  -- the first finding is taken up
  let e : LedgerEntry := ⟨{ findingId := f.id, state := .inProgress }, f⟩
  have hwaits : (s.begun [f]).ledger.nextPending? = some f.id := by
    simp [begun, Ledger.track, Ledger.find?, Ledger.nextPending?, hempty]
  have hledger : ((s.begun [f]).taking f.id).ledger = [e] := by
    simp [e, taking, begun, Ledger.updateRecord, Ledger.update, Ledger.track, Ledger.find?, hempty]
  have hfind : ((s.begun [f]).taking f.id).ledger.find? f.id = some e := by
    rw [hledger]
    simp [Ledger.find?, e]
  obtain ⟨hworking, horder', -⟩ := working_taking hqueued horder hwaits
  have hdue : Visit.Due c f.id ⟨(s.begun [f]).taking f.id, e, u, _, hrequest⟩ :=
    ⟨hworking, horder', hfind⟩
  -- once it is settled, the other one is queued behind it
  have hturn := hdue.turn
  rw [hresult, haccepted] at hturn
  obtain ⟨n, statements, ⟨k, hk, hn⟩, hafter⟩ := hturn.exists_confirmed
  have hid : (k e).record.findingId = f.id := (hk.id_eq e).trans hdue.id_eq
  rw [hledger, Ledger.update, List.map_singleton, if_pos hdue.id_eq] at hn
  rw [hn] at hafter
  obtain ⟨d, hconfirmed, hd, hresolved⟩ := Ledger.confirmed_new c.budget statements hid hne
  have hboth : t.ledger = [d, ⟨{ findingId := g.id }, g⟩] := hafter.trans hconfirmed
  have hnext : t.ledger.nextPending? = some g.id := by
    rw [hboth]
    simp [Ledger.nextPending?, hresolved]
  have hnextFind : (t.taking g.id).ledger.find? g.id =
      some ⟨{ findingId := g.id, state := .inProgress }, g⟩ := by
    simp [taking, hboth, Ledger.updateRecord, Ledger.update, Ledger.find?, hd, hne.symm]
  obtain ⟨qs, hrepairs, hvisits, hrest⟩ := h.of_settled hwaits hfind hbudget hrequest hresult
  rw [visits_eq, hrepairs, List.flatMap_cons]
  exact List.mem_append_right _ (hrest.mem_visits hnext hnextFind hbudget hasked)

/-- The documents of a run in which the property `b` has failed. -/
def otherReport : RawReport where
  result := some "\x7b\"viewer-result\":\x7b\"results\":\x7b\"false\":[\"b\"]\x7d\x7d\x7d"
  property := some ("\x7b\"viewer-property\":\x7b\"properties\":\x7b\"b\":\x7b" ++
    "\"description\":\"y\",\"location\":\x7b\"file\":\"f\",\"line\":1\x7d\x7d\x7d\x7d\x7d")

/-- The finding of the property `b`. -/
def otherFinding : Finding := .modelingError ⟨"f", "", 1⟩ "y" (some "b") []

theorem oneFinding_id_ne : oneFinding.id ≠ otherFinding.id := by decide +kernel

theorem reading_oneReport (target : HarnessTarget) :
    reading target (.ok oneReport) = .ok ⟨[oneFinding], none⟩ := by
  rw [reading, readReport_oneReport]

theorem reading_otherReport (target : HarnessTarget) :
    reading target (.ok otherReport) = .ok ⟨[otherFinding], none⟩ := by
  have hread := readReport_single target.harnessFile "b" "y" ⟨some "f", none, some (.number 1)⟩
    ⟨"f", "", 1⟩ (otherReport.result.getD "") (otherReport.property.getD "") (by decide +kernel)
    (by decide +kernel) (by decide) rfl
  have hraw : readReport target.harnessFile otherReport = .ok ⟨[otherFinding], none⟩ := hread
  rw [reading, hraw]

/-- What the oracle proposes after some runs of the verifier. -/
def returningProposal (runs : Nat) : Proposal where
  patches := [smallPatch (if runs = 1 then "assume(n > 1);" else "assume(n < 9);")]

/-- A verifier that reports the one finding, then the other, and then the one again. -/
def returningController : Controller Nat where
  verifier :=
    { name := "returning"
      run := fun _ => do
        let runs := (← get).outside
        modify fun w => { w with outside := runs + 1 }
        return .ok (if runs = 1 then otherReport else oneReport) }
  oracle :=
    { name := "returning"
      propose := fun _ => do return some (.ok (returningProposal (← get).outside)) }
  mode := .errors
  budget := .whole 1
  oracleTimeout := 60

/-- The small harness before the first run. -/
def returningStart : World Nat := ⟨smallWorld.files, [], 0⟩

namespace Session

open Ledger

theorem bystanders_returningController :
    Bystanders returningController smallSession.store.path smallSession.target where
  verifier := fun _ _ h => h
  oracle := fun _ _ _ h => h

/-- The proposals fit, one after the other. -/
theorem extend_returningProposal : ∃ next last,
    smallSession.store.current.extend (returningProposal 1).patches = .ok next ∧
      next.extend (returningProposal 2).patches = .ok last := by
  have hfits : ((smallSession.store.current.extend (returningProposal 1).patches).bind
      fun next => next.extend (returningProposal 2).patches).isOk = true := by decide
  revert hfits
  cases smallSession.store.current.extend (returningProposal 1).patches with
  | error failure => exact fun hfits => by cases hfits
  | ok next =>
    change (next.extend (returningProposal 2).patches).isOk = true → _
    cases hlast : next.extend (returningProposal 2).patches with
    | error failure => exact fun hfits => by cases hfits
    | ok last => exact fun _ => ⟨next, last, rfl, hlast⟩

/-- What the parties do depends on the number of runs alone. -/
theorem run_returningVerifier (target : HarnessTarget) (w : World Nat) :
    (returningController.verifier.run target).run w =
      (.ok (if w.outside = 1 then otherReport else oneReport),
        { w with outside := w.outside + 1 }) := rfl

theorem ask_returningOracle (request : RepairRequest) (w : World Nat) :
    ask returningController request w = (.ok (returningProposal w.outside), w) := rfl

/-- The first finding that waits is settled in its first round, after which a single finding
is left elsewhere. -/
theorem settles_returning {s t : Session} {w u : World Nat} {ps : List (Repair Nat)}
    {outcome : Except Overflow SessionOutcome} (h : Repaired returningController s w ps outcome t u)
    (hq : s.ledger.Queued) (ho : s.ledger.InOrder returningController.budget)
    (id : FindingId) {e : LedgerEntry} (hwaits : s.ledger.nextPending? = some id)
    (hfind : (s.taking id).ledger.find? id = some e)
    (hbudget : e.record.hasBudget returningController.budget = true)
    (htarget : s.target = smallSession.target)
    (hpath : s.store.path = smallSession.store.path) (hfree : s.store.inFlight = none)
    {next : Snapshot}
    (hfits : s.store.current.extend (returningProposal w.outside).patches = .ok next)
    (hheld : Holds s.store.path s.store.source w) {f : Finding}
    (hreads : reading s.target (.ok (if w.outside = 1 then otherReport else oneReport)) =
      .ok ⟨[f], none⟩)
    (houtside : e.finding.location.isIn "harness.c" = false)
    (hline : max e.finding.location.line 1 + excerptRadius < Text.wordLimit)
    (hnot : f.location.isIn "harness.c" = false) (hkind : f.kind = .modelingError)
    (hne : f.id ≠ id) :
    ∃ t' y n statements qs, Repaired returningController t' y qs outcome t u ∧
      (ps.flatMap (·.visits returningController)).filterMap (·.accepted? returningController) =
        [f] :: (qs.flatMap (·.visits returningController)).filterMap
          (·.accepted? returningController) ∧
      (s.taking id).ledger.Noted id n ∧
      t'.ledger = n.confirmed returningController.budget id statements [f] ∧
      t'.ledger.Queued ∧ t'.ledger.InOrder returningController.budget ∧
      t'.target = s.target ∧ t'.store = s.store.kept next ∧
      Holds s.store.path next.source y ∧ y.outside = w.outside + 1 := by
  obtain ⟨hw, ho', -⟩ := working_taking hq ho hwaits
  have hharness : s.target.harnessFile = "harness.c" := by
    rw [htarget]
    rfl
  obtain ⟨request, hrequest⟩ := exists_request (s := s.taking id) (e := e) (w := w)
    (fun _ => hline) fun hin => absurd (houtside.symm.trans (hharness ▸ hin)) Bool.false_ne_true
  let v : Visit Nat := ⟨s.taking id, e, w, request, hrequest⟩
  have hdue : v.Due returningController id := ⟨hw, ho', hfind⟩
  have hspares : Spares s.store.path (returningController.verifier.run s.target) := by
    rw [hpath, htarget]
    exact bystanders_returningController.verifier
  have hname : f.id ≠ e.finding.id := by
    rw [hdue.name_eq]
    exact hne
  have hshown : ∃ shown, shownLocation s.target (s.store.changed next) e.finding.location =
      .ok shown := by
    rw [shownLocation, hharness, houtside]
    exact ⟨_, rfl⟩
  obtain ⟨t', x, y, hresult, haccepted, hstore, hholds, hx, hy⟩ :=
    Visit.result_elsewhere (v := v) (ask_returningOracle request w) hfree hfits
      hheld hspares hshown (fun x hx => by rw [run_returningVerifier, hx]; exact hreads)
      (hharness ▸ hnot) hkind hname
  obtain ⟨qs, rfl, hvisits, hrest⟩ := h.of_settled hwaits hfind hbudget hrequest hresult
  have hturn := hdue.turn
  have htarget' := hdue.target_eq
  rw [hresult, haccepted] at hturn
  rw [hresult] at htarget'
  obtain ⟨hqueued, -⟩ := hturn.settled hw ho'
  obtain ⟨n, statements, hnoted, hledger⟩ := hturn.exists_confirmed
  refine ⟨t', y, n, statements, qs, hrest, ?_, hnoted, hledger, hqueued,
    (hturn.inOrder hw ho').1, htarget', hstore, hholds, ?_⟩
  · rw [List.flatMap_cons, hvisits, List.singleton_append, List.filterMap_cons, haccepted]
  · rw [hy, run_returningVerifier, hx]

/-- The session ends clean, and its last report has a finding. -/
theorem run_returning :
    ((run returningController smallSession).run returningStart).1.1.map (·.status) = .ok .clean ∧
      acceptedReports returningController smallSession returningStart =
        [[oneFinding], [otherFinding], [oneFinding]] := by
  have hne := oneFinding_id_ne
  obtain ⟨next, last, hnext, hlast⟩ := extend_returningProposal
  obtain ⟨outcome, t, v, hrun, hran⟩ :=
    ran_run (c := returningController) (s := smallSession) rfl returningStart
  have hinitial : initial? returningController smallSession returningStart =
      some [oneFinding] := by
    have hopened : (opened returningController smallSession returningStart).outside = 0 := rfl
    rw [initial?, reported?, run_returningVerifier, hopened, if_neg (by simp), reading_oneReport]
    rfl
  obtain ⟨u, htold, h⟩ := hran.repaired hinitial
  rw [hrun, acceptedReports, visits_eq, hinitial]
  obtain ⟨hqueued, horder, -⟩ :=
    queued_begun returningController.budget (s := smallSession) rfl [oneFinding]
  have hu : u.outside = 1 := htold.outside_eq
  have hheld : Holds smallSession.store.path smallHarness u := by
    refine htold.holds (bystanders_returningController.verifier _ _ ?_)
    exact (told_opened _ _ _).holds rfl
  -- the first finding is resolved while the other one is reported
  have hledger : ((smallSession.begun [oneFinding]).taking oneFinding.id).ledger =
      [⟨{ findingId := oneFinding.id, state := .inProgress }, oneFinding⟩] := by
    simp [taking, begun, updateRecord, update, track, find?, smallSession]
  obtain ⟨t₁, y₁, n₁, st₁, qs, h₁, haccepted, ⟨g, hg, rfl⟩, hledger₁, hqueued₁, horder₁,
    htarget₁, hstore₁, hheld₁, hy₁⟩ := settles_returning h hqueued horder oneFinding.id rfl
      (by rw [hledger]; simp [find?]; rfl) rfl rfl rfl rfl (by rw [hu]; exact hnext) hheld
      (f := otherFinding) (by rw [hu, if_pos rfl]; exact reading_otherReport _) (by decide)
      (by decide) (by decide) rfl hne.symm
  rw [hledger, update, List.map_singleton, if_pos rfl] at hledger₁
  obtain ⟨d, hconfirmed, hd, hresolved⟩ := confirmed_new returningController.budget st₁
    (hg.id_eq ⟨{ findingId := oneFinding.id, state := .inProgress }, oneFinding⟩) hne.symm
  rw [hconfirmed] at hledger₁
  -- the other one is resolved while the first one is reported again
  have htaking : (t₁.taking otherFinding.id).ledger =
      [d, ⟨{ findingId := otherFinding.id, state := .inProgress }, otherFinding⟩] := by
    simp [taking, hledger₁, updateRecord, update, hd, hne]
  obtain ⟨t₂, y₂, n₂, st₂, rs, h₂, haccepted₂, ⟨g₂, hg₂, rfl⟩, hledger₂, -⟩ :=
    settles_returning h₁ hqueued₁ horder₁ otherFinding.id
      (by rw [hledger₁]; simp [nextPending?, hresolved])
      (by rw [htaking]; simp [find?, hd, hne]; rfl) rfl htarget₁ (by rw [hstore₁]; rfl)
      (by rw [hstore₁]; rfl) (by rw [hstore₁, hy₁, hu]; exact hlast) (by rw [hstore₁]; exact hheld₁)
      (f := oneFinding) (by rw [hy₁, hu]; exact reading_oneReport _) (by decide) (by decide)
      (by decide) rfl hne
  rw [htaking, update, List.map_cons, List.map_singleton, if_neg (by rw [hd]; exact hne),
    if_pos rfl] at hledger₂
  obtain ⟨e, hconfirmed₂, hresolved₂⟩ := confirmed_known returningController.budget st₂ hd
    hresolved
    (hg₂.id_eq ⟨{ findingId := otherFinding.id, state := .inProgress }, otherFinding⟩) hne
  rw [hconfirmed₂] at hledger₂
  obtain ⟨rfl, -, rfl, -⟩ := h₂.of_done (by
    rw [hledger₂]
    simp [nextPending?, hresolved, hresolved₂])
  constructor
  · change Except.ok t₂.finalStatus = Except.ok SessionStatus.clean
    rw [finalStatus, hledger₂]
    simp [hresolved, hresolved₂]
  · rw [haccepted, haccepted₂]
    rfl

end Session

/-! ### What clean means -/

namespace Session

variable {c : Controller ε} {s : Session} {w : World ε}

/-- A session is clean if all its findings are resolved. -/
theorem finalStatus_eq_clean_iff :
    s.finalStatus = .clean ↔ ∀ e ∈ s.ledger, e.record.state = .resolved := by
  rw [finalStatus, ite_eq_left_iff, List.all_eq_true]
  simp

/-- **A session that ends clean has a last report, and the findings in it have come back**:
each was reported before, and then missing in a report that was accepted.  So if no finding
comes back, there are none left. -/
theorem run_clean (hempty : s.ledger = [])
    (hclean : ((run c s).run w).1.1.map (·.status) = .ok .clean) :
    ∃ last, (acceptedReports c s w).getLast? = some last ∧
      ∀ f ∈ last, ComesBack (acceptedReports c s w).dropLast f.id := by
  obtain ⟨outcome, t, u, hrun, hran⟩ := ran_run (c := c) hempty w
  rw [hrun] at hclean
  obtain ⟨ending, rfl, hends⟩ : ∃ ending, outcome = .ok ending ∧ ending.status = .clean := by
    cases outcome with
    | error o => cases hclean
    | ok ending => exact ⟨ending, rfl, Except.ok.inj hclean⟩
  have hopen : ending.status ≠ .blocked := by
    rw [hends]
    exact SessionStatus.noConfusion
  obtain ⟨hstatus, first, hinitial, hreported⟩ := (hran.reported hempty).2 ending rfl hopen
  have hall : ∀ e ∈ t.ledger, e.record.state = .resolved := by
    rw [hends] at hstatus
    exact finalStatus_eq_clean_iff.1 hstatus.symm
  rw [acceptedReports, visits_eq, hinitial, Option.toList_some, List.singleton_append]
  -- the findings of the last report are in the ledger, and so they are resolved
  have hnil := List.cons_ne_nil first
    (((repairs c s w).flatMap (·.visits c)).filterMap (·.accepted? c))
  refine ⟨_, List.getLast?_eq_some_getLast hnil, fun f hf => ?_⟩
  obtain ⟨e, he, hid⟩ := hreported.known _ (List.getLast_mem hnil) f hf
  have hmissed := hreported.missed e he (hall e he)
  rw [hid, ← List.dropLast_append_getLast hnil] at hmissed
  exact hmissed.before_last (List.mem_map_of_mem hf)

theorem run_clean_returning :
    smallSession.ledger = [] ∧
    ((run returningController smallSession).run returningStart).1.1.map (·.status) = .ok .clean ∧
    ∃ last,
      (acceptedReports returningController smallSession returningStart).getLast? = some last ∧
      ∀ f ∈ last, ComesBack
        (acceptedReports returningController smallSession returningStart).dropLast f.id :=
  ⟨rfl, run_returning.1, run_clean rfl run_returning.1⟩

/-- So a session may end clean with a finding left in the last report. -/
theorem exists_finding_of_clean :
    ¬ ∀ (c : Controller Nat) (s : Session) (w : World Nat), s.ledger = [] →
      ((run c s).run w).1.1.map (·.status) = .ok .clean →
      (acceptedReports c s w).getLast? = some [] := by
  intro hall
  have hlast := hall returningController smallSession returningStart rfl run_returning.1
  rw [run_returning.2] at hlast
  cases hlast

end Session

end HarnessRepair
