import HarnessRepair.Proofs.Oracle.Excerpt
import HarnessRepair.Proofs.Session.Loop

/-!
# Where a session stands between two rounds

Three things happen to a session: a finding is taken up, a round is made for it, and it is given
up once its budget is spent.  What none of them ends holds at every visit, and may speak of the
visits that lie behind.

Nothing is assumed here of the harness file or of the parties.  As long as the session goes
on, the store has the text it started from with some changes where the oracle is asked; the
round puts one more on trial, and its verdict keeps it or takes it back.

## Main definitions

* `Lasts` — a property that no step of a session ends.
* `StoppedAt` — a session that is stopped before it asks the oracle.

## Main results

* `Session.lasts` — **what no step ends holds at every visit of a session.**
* `Session.stopped_cases` — where a session is stopped.
* `Visit.exists_of_trial` — what is on trial.
* `Visit.concluded` — **a trial is concluded by its verdict**, or the file is lost.
* `Visit.settled_iff` — so its change is kept if and only if its finding is resolved.
* `Session.grown_at_visit` — **every visit finds the text with the changes kept before it.**
-/

namespace HarnessRepair

variable {ε : Type}

/-! ### What lasts -/

/-- A property of the visits that lie behind and of the session they have led to, which no step
of a session ends. -/
structure Lasts (c : Controller ε) (P : List (Visit ε) → Session → Prop) : Prop where
  /-- A finding is taken up. -/
  taking : ∀ {us : List (Visit ε)} {s : Session} {id : FindingId}, P us s → s.ledger.Queued →
    s.ledger.InOrder c.budget → s.ledger.nextPending? = some id → P us (s.taking id)
  /-- A round is made after which the session goes on. -/
  round : ∀ {us : List (Visit ε)} {v : Visit ε} {id : FindingId} {ending : RoundEnd}
    {t : Session} {u : World ε}, P us v.session → v.Due c id →
    v.result c = ((.ok ending, t), u) → P (us ++ [v]) t
  /-- The finding at work is given up. -/
  givenUp : ∀ {us : List (Visit ε)} {s : Session} {id : FindingId}, P us s →
    s.ledger.Working id → s.ledger.InOrder c.budget →
    (∀ e, s.ledger.find? id = some e → ¬ e.record.hasBudget c.budget = true) →
    P us (s.givenUp id)

/-- Two properties that last do so together. -/
theorem Lasts.and {c : Controller ε} {P Q : List (Visit ε) → Session → Prop} (hP : Lasts c P)
    (hQ : Lasts c Q) : Lasts c fun us s => P us s ∧ Q us s where
  taking := fun ⟨hp, hq⟩ hqueued ho hnext =>
    ⟨hP.taking hp hqueued ho hnext, hQ.taking hq hqueued ho hnext⟩
  round := fun ⟨hp, hq⟩ hdue hresult => ⟨hP.round hp hdue hresult, hQ.round hq hdue hresult⟩
  givenUp := fun ⟨hp, hq⟩ hw ho hspent => ⟨hP.givenUp hp hw ho hspent, hQ.givenUp hq hw ho hspent⟩

/-- What holds of the first place of a list and of all later ones holds of every place. -/
theorem forall_getElem?_cons {α : Type} {a : α} {as : List α} {Q : Nat → α → Prop} (hfirst : Q 0 a)
    (hlater : ∀ i b, as[i]? = some b → Q (i + 1) b) : ∀ i b, (a :: as)[i]? = some b → Q i b := by
  intro i b hb
  cases i with
  | zero =>
    obtain rfl := Option.some.inj hb
    exact hfirst
  | succ i => exact hlater i b hb

section

variable {c : Controller ε} {P : List (Visit ε) → Session → Prop} {id : FindingId} {s t : Session}
  {w u : World ε} {us : List (Visit ε)}

/-- What lasts holds at the visits of a finding, and when it is done with. -/
theorem Attempted.lasts {vs : List (Visit ε)} {r : Except SessionFailure Unit}
    (h : Attempted c id s w vs r t u) (hP : Lasts c P) (hw : s.ledger.Working id)
    (ho : s.ledger.InOrder c.budget) (hs : P us s) :
    (∀ (i : Nat) v, vs[i]? = some v → P (us ++ vs.take i) v.session) ∧
      (r = .ok () → P (us ++ vs) t) := by
  have hfirst : ∀ {s : Session} {us vs}, P us s → P (us ++ List.take 0 vs) s := by
    intro s us vs hs
    rwa [List.take_zero, List.append_nil]
  induction h generalizing us with
  | spent hfind hnone htold =>
    refine ⟨by simp, fun _ => ?_⟩
    rw [List.append_nil]
    refine hP.givenUp hs hw ho fun e he => ?_
    obtain rfl := Option.some.inj (he.symm.trans hfind)
    exact hnone
  | unasked hfind hbudget hrequest => exact ⟨by simp, nofun⟩
  | fatal hfind hbudget hresult =>
    exact ⟨forall_getElem?_cons (hfirst hs) (by simp), fun heq => by cases heq⟩
  | settled hfind hbudget hresult =>
    exact ⟨forall_getElem?_cons (hfirst hs) (by simp),
      fun _ => hP.round hs ⟨hw, ho, hfind⟩ hresult⟩
  -- the finding is still at work after a round that has settled nothing
  | again hfind hbudget hresult hrest ih =>
    have hdue : Visit.Due c id _ := ⟨hw, ho, hfind⟩
    obtain ⟨hw', ho', -⟩ := hdue.again hresult
    obtain ⟨hvs, hend⟩ := ih hw' ho' (hP.round hs hdue hresult)
    refine ⟨forall_getElem?_cons (hfirst hs) fun i v hv => ?_, fun heq => ?_⟩
    · rw [List.take_succ_cons, List.append_cons]
      exact hvs i v hv
    · rw [List.append_cons]
      exact hend heq

/-- What lasts holds at the visits of the findings that are repaired. -/
theorem Repaired.lasts {ps : List (Repair ε)} {outcome : Except Overflow SessionOutcome}
    (h : Repaired c s w ps outcome t u) (hP : Lasts c P) (hq : s.ledger.Queued)
    (ho : s.ledger.InOrder c.budget) (hs : P us s) :
    ∀ (k : Nat) p, ps[k]? = some p → ∀ (i : Nat) v, (p.visits c)[i]? = some v →
      P (us ++ ((ps.take k).flatMap (·.visits c) ++ (p.visits c).take i)) v.session := by
  induction h generalizing us with
  | done hnext htold => simp
  | fatal hnext h htold =>
    obtain ⟨hw, ho', -⟩ := Session.working_taking hq ho hnext
    obtain ⟨hvs, -⟩ := h.lasts hP hw ho' (hP.taking hs hq ho hnext)
    exact forall_getElem?_cons hvs (by simp)
  | next hnext h hrest ih =>
    obtain ⟨hw, ho', -⟩ := Session.working_taking hq ho hnext
    obtain ⟨horder, -, -, hend, -⟩ := h.ends hw ho'
    obtain ⟨hvs, hlater⟩ := h.lasts hP hw ho' (hP.taking hs hq ho hnext)
    refine forall_getElem?_cons hvs fun k p hp i v hv => ?_
    rw [List.take_succ_cons, List.flatMap_cons, List.append_assoc, ← List.append_assoc]
    exact ih (hend rfl).1 horder (hlater rfl) k p hp i v hv

/-- A session that is stopped where the oracle would be asked about an entry. -/
def StoppedAt (P : List (Visit ε) → Session → Prop) (o : Overflow) (t : Session) (u : World ε) :
    Prop :=
  ∃ us e, P us t ∧ e ∈ t.ledger ∧ ¬ e.Done ∧ t.request e u = .error o

/-- Rounds are stopped in one of them, or where the next one would ask the oracle, and there
what lasts holds. -/
theorem Attempted.stopped {vs : List (Visit ε)} {r : Except SessionFailure Unit} {o : Overflow}
    (h : Attempted c id s w vs r t u) (hP : Lasts c P) (hw : s.ledger.Working id)
    (ho : s.ledger.InOrder c.budget) (hs : P us s) (hr : r = .error (.overflow o)) :
    (∃ v ∈ vs, (v.result c).1.1 = .error (.overflow o)) ∨ StoppedAt P o t u := by
  induction h generalizing us with
  | spent hfind hnone htold => cases hr
  | @unasked s w e o' hfind hbudget hrequest =>
    obtain ⟨k, d, hat⟩ := hw.atWork
    obtain rfl : d = e := Option.some.inj (hat.find?_eq.symm.trans hfind)
    obtain rfl : o' = o := by cases hr; rfl
    exact Or.inr ⟨us, d, hs, List.mem_of_getElem? hat.entry, hat.not_done, hrequest⟩
  | @fatal v _ _ _ hfind hbudget hresult =>
    refine Or.inl ⟨v, List.mem_singleton_self v, ?_⟩
    rw [hresult, Except.error.inj hr]
  | settled hfind hbudget hresult => cases hr
  | again hfind hbudget hresult hrest ih =>
    have hdue : Visit.Due c id _ := ⟨hw, ho, hfind⟩
    obtain ⟨hw', ho', -⟩ := hdue.again hresult
    refine (ih hw' ho' (hP.round hs hdue hresult) hr).imp_left ?_
    rintro ⟨v, hv, hstopped⟩
    exact ⟨v, List.mem_cons_of_mem _ hv, hstopped⟩

/-- So are the repairs of findings. -/
theorem Repaired.stopped {ps : List (Repair ε)} {outcome : Except Overflow SessionOutcome}
    {o : Overflow} (h : Repaired c s w ps outcome t u) (hP : Lasts c P) (hq : s.ledger.Queued)
    (ho : s.ledger.InOrder c.budget) (hs : P us s) (hend : outcome = .error o) :
    (∃ v ∈ ps.flatMap (·.visits c), (v.result c).1.1 = .error (.overflow o)) ∨
      StoppedAt P o t u := by
  induction h generalizing us with
  | done hnext htold => cases hend
  | @fatal p t u v failure hnext h htold =>
    obtain ⟨hw, ho', -⟩ := Session.working_taking hq ho hnext
    cases failure with
    | infrastructure e | parse e | patch e => cases hend
    | overflow o' =>
      obtain rfl : o' = o := Except.error.inj hend
      rw [List.flatMap_singleton]
      refine (h.stopped hP hw ho' (hP.taking hs hq ho hnext) rfl).imp_right ?_
      rintro ⟨us, e, ht, he, hopen, hrequest⟩
      refine ⟨us, e, ht, he, hopen, ?_⟩
      rwa [Session.request, htold.files_eq]
  | next hnext h hrest ih =>
    obtain ⟨hw, ho', -⟩ := Session.working_taking hq ho hnext
    obtain ⟨horder, -, -, hdone, -⟩ := h.ends hw ho'
    obtain ⟨-, hlater⟩ := h.lasts hP hw ho' (hP.taking hs hq ho hnext)
    refine (ih (hdone rfl).1 horder (hlater rfl) hend).imp_left ?_
    rintro ⟨v, hv, hstopped⟩
    exact ⟨v, List.mem_append_right _ hv, hstopped⟩

end

namespace Session

variable {c : Controller ε} {P : List (Visit ε) → Session → Prop} {s : Session} {w : World ε}
  {p : Repair ε} {v : Visit ε} {fs : List Finding}

/-- A session that takes a finding up has read its first report. -/
theorem exists_initial (hp : p ∈ repairs c s w) : ∃ fs, initial? c s w = some fs := by
  obtain ⟨u, -, ⟨failure, -, hstart⟩ | ⟨fs, hinitial, -⟩⟩ := run_start_cases c s w
  · rw [repairs, hstart] at hp
    cases hp
  · exact ⟨fs, hinitial⟩

/-- **What lasts holds at every visit of a session**, of the visits that lie behind. -/
theorem lasts (hP : Lasts c P) (hempty : s.ledger = []) (hinitial : initial? c s w = some fs)
    (hbegun : P [] (s.begun fs)) {k i : Nat} (hp : (repairs c s w)[k]? = some p)
    (hv : (p.visits c)[i]? = some v) :
    P (((repairs c s w).take k).flatMap (·.visits c) ++ (p.visits c).take i) v.session := by
  obtain ⟨outcome, t, u, -, hran⟩ := ran_run (c := c) hempty w
  obtain ⟨x, -, hrepaired⟩ := hran.repaired hinitial
  obtain ⟨hqueued, horder, -⟩ := queued_begun c.budget hempty fs
  exact hrepaired.lasts hP hqueued horder hbegun k p hp i v hv

end Session

/-- So are whole sessions. -/
theorem Ran.stopped {c : Controller ε} {P : List (Visit ε) → Session → Prop} {s t : Session}
    {w u : World ε} {ps : List (Repair ε)} {outcome : Except Overflow SessionOutcome}
    {o : Overflow} (h : Ran c s w ps outcome t u) (hP : Lasts c P) (hempty : s.ledger = [])
    (hbegun : ∀ fs, Session.initial? c s w = some fs → P [] (s.begun fs))
    (hend : outcome = .error o) :
    (∃ v ∈ ps.flatMap (·.visits c), (v.result c).1.1 = .error (.overflow o)) ∨
      StoppedAt P o t u := by
  cases h with
  | refused hinitial htold => cases hend
  | started hinitial htold h =>
    obtain ⟨hqueued, horder, -⟩ := Session.queued_begun c.budget hempty _
    exact h.stopped hP hqueued horder (hbegun _ hinitial) hend

/-- **A session is stopped in one of its rounds, or where it would ask the oracle.** -/
theorem Session.stopped_cases {c : Controller ε} {P : List (Visit ε) → Session → Prop}
    {s t : Session} {w u : World ε} {o : Overflow} (hP : Lasts c P) (hempty : s.ledger = [])
    (hbegun : ∀ fs, initial? c s w = some fs → P [] (s.begun fs))
    (hstops : (run c s).run w = ((.error o, t), u)) :
    (∃ v ∈ visits c s w, (v.result c).1.1 = .error (.overflow o)) ∨ StoppedAt P o t u := by
  obtain ⟨outcome, t', u', hrun, hran⟩ := ran_run (c := c) hempty w
  cases hrun.symm.trans hstops
  rw [visits_eq]
  exact hran.stopped hP hempty hbegun rfl

/-! ### A trial -/

namespace Session

variable {c : Controller ε} {s : Session}

/-- The proposal of the oracle is put into the harness, or there is none that can be, and the
store stays as it is. -/
theorem run_prepare_store (c : Controller ε) (s : Session) (e : LedgerEntry)
    (request : RepairRequest) (w : World ε) :
    (∃ proposal next u, (ask c request w).1 = .ok proposal ∧
      s.store.current.extend proposal.patches = .ok next ∧
      (prepare c s e request).run w = ((.ok (s.store.nextId, proposal.statements),
        { s.addUsage e.record.findingId proposal.usage with store := s.store.changed next }),
        u)) ∨
    ∃ cause statements t u, (prepare c s e request).run w =
        ((.error (cause, statements), t), u) ∧
      cause ≠ .notResolved ∧ (t = s ∨ ∃ usage, t = s.addUsage e.record.findingId usage) := by
  rcases hask : ask c request w with ⟨failure | proposal, v⟩
  · exact Or.inr ⟨_, _, s, v, run_prepare_silent hask, FailureCause.noConfusion, Or.inl rfl⟩
  · have hstore : (s.addUsage e.record.findingId proposal.usage).store = s.store := rfl
    rw [run_prepare, hask]
    dsimp only
    rw [run_bind, hstore]
    rcases PatchStore.run_applyAll_cases s.store proposal.patches v with
      ⟨next, u, hext, hrun, -⟩ | ⟨failure, hrun⟩
    · rw [hrun]
      exact Or.inl ⟨proposal, next, _, rfl, hext, rfl⟩
    · rw [hrun]
      exact Or.inr ⟨_, _, _, _, rfl, FailureCause.noConfusion, Or.inr ⟨proposal.usage, rfl⟩⟩

/-- A round after which the session goes on has undone its change, or settles its finding and
has kept it. -/
theorem Concluded.of_ok {st : PatchStore} {next : Snapshot} {id : FindingId}
    {statements : List String} {decided : Verdict} {w u : World ε} {ending : RoundEnd}
    {t : Session} (h : Concluded c s st next id statements decided w ((.ok ending, t), u)) :
    (∃ cause seen, decided = .undone cause seen ∧ ending = .unsettled ∧
      t = charged c (noted { s with store := st.undone } seen) id (some cause) statements) ∨
    ∃ others, decided = .kept others ∧ ending = .settled ∧
      t = ((charged c { s with store := st.kept next } id none statements).resolvedBy id
        statements).absorbed id others := by
  generalize hx : ((Except.ok ending, t), u) = x at h
  cases h with
  | stuck hundoes hlost => cases hx
  | done houtside hholds =>
    obtain ⟨hend, -⟩ := Prod.mk.inj hx
    cases decided with
    | fatal failure | halted o => cases hend
    | undone cause seen =>
      obtain ⟨hunsettled, rfl⟩ := Prod.mk.inj hend
      exact Or.inl ⟨cause, seen, rfl, Except.ok.inj hunsettled, rfl⟩
    | kept others =>
      obtain ⟨hsettled, rfl⟩ := Prod.mk.inj hend
      exact Or.inr ⟨others, rfl, Except.ok.inj hsettled, rfl⟩

/-- A round that is stopped has been by its verdict. -/
theorem Concluded.halted_of_overflow {st : PatchStore} {next : Snapshot} {id : FindingId}
    {statements : List String} {decided : Verdict} {w : World ε}
    {x : (Except SessionFailure RoundEnd × Session) × World ε} {o : Overflow}
    (h : Concluded c s st next id statements decided w x) (hx : x.1.1 = .error (.overflow o)) :
    decided = .halted o ∨ decided = .fatal (.overflow o) := by
  cases h with
  | stuck hundoes hlost => cases hx
  | done houtside hholds =>
    cases decided with
    | undone cause seen | kept others => cases hx
    | halted o' =>
      obtain rfl := SessionFailure.overflow.inj (Except.error.inj hx)
      exact Or.inl rfl
    | fatal failure => exact Or.inr (congrArg Verdict.fatal (Except.error.inj hx))

/-- A round settles its finding exactly if its change is kept. -/
theorem Concluded.settled_iff {st : PatchStore} {next : Snapshot} {id : FindingId}
    {statements : List String} {decided : Verdict} {w : World ε}
    {x : (Except SessionFailure RoundEnd × Session) × World ε}
    (h : Concluded c s st next id statements decided w x) :
    x.1.1 = .ok .settled ↔ ∃ others, decided = .kept others := by
  cases h with
  | stuck hundoes hlost =>
    refine iff_of_false (fun hsettled => by cases hsettled) ?_
    rintro ⟨others, rfl⟩
    cases hundoes
  | done houtside hholds =>
    cases decided with
    | undone cause seen | fatal failure | halted o => simp [conclude]
    | kept others => exact iff_of_true rfl ⟨others, rfl⟩

/-- Without findings a change is kept unless the line of its finding is listed as missed. -/
theorem judge_of_nil {kind : FindingKind} {target : HarnessTarget} {store : PatchStore}
    {finding : Finding} {coverage : Option CoverageIndex} {shown : Location}
    (hshown : shownLocation target store finding.location = .ok shown)
    (h : isListedMissed ⟨[], coverage⟩ shown = false) :
    judge kind target store finding ⟨[], coverage⟩ = .ok (.resolved []) := by
  simp [judge, introduced, rebased, hshown, h]

end Session

/-! ### A round -/

namespace Visit

variable {c : Controller ε} {v : Visit ε} {start : Snapshot}

/-- What is on trial is the proposal of the oracle, and the round goes on with it. -/
theorem exists_of_trial {t : Session} {u : World ε} (htrial : v.trial? c = some (t, u)) :
    ∃ proposal next, v.answer c = .ok proposal ∧
      v.session.store.current.extend proposal.patches = .ok next ∧
      t = { v.session.addUsage v.entry.record.findingId proposal.usage with
        store := v.session.store.changed next } ∧
      v.result c = (Session.tryOut c t v.entry.finding v.session.store.nextId
        proposal.statements).run u := by
  rcases Session.run_prepare_store c v.session v.entry v.request v.world with
    ⟨proposal, next, u', hask, hext, hrun⟩ | ⟨cause, statements, t', u', hrun, -⟩
  · rw [ask_eq] at hask
    rw [trial?, hrun] at htrial
    obtain ⟨rfl, rfl⟩ := Prod.mk.inj (Option.some.inj htrial)
    refine ⟨proposal, next, hask, hext, rfl, ?_⟩
    rw [result_eq, hrun]
  · rw [trial?, hrun] at htrial
    cases htrial

/-- Without a trial the round fails and is charged; what was proposed may have cost tokens. -/
theorem result_of_not_trial (htrial : v.trial? c = none) : ∃ t cause statements u,
    cause ≠ .notResolved ∧
      (t = v.session ∨ ∃ usage, t = v.session.addUsage v.entry.record.findingId usage) ∧
      v.result c = ((.ok .unsettled,
        Session.charged c t v.entry.record.findingId (some cause) statements), u) := by
  rcases Session.run_prepare_store c v.session v.entry v.request v.world with
    ⟨proposal, next, u, -, -, hrun⟩ | ⟨cause, statements, t, u, hrun, hcause, hsame⟩
  · rw [trial?, hrun] at htrial
    cases htrial
  · obtain ⟨x, hcharge, -⟩ := Session.run_charge c t v.entry.record.findingId (some cause)
      statements u
    refine ⟨t, cause, statements, x, hcause, hsame, ?_⟩
    rw [result_eq, hrun]
    dsimp only
    rw [run_bind, hcharge]
    rfl

/-- A round in which the oracle has nothing to propose fails, and is charged. -/
theorem result_of_silent {failure : OracleFailure} (h : v.answer c = .error failure) :
    v.trial? c = none ∧ ∃ u, v.result c =
        ((.ok .unsettled, Session.charged c v.session v.entry.record.findingId
          (some (.oracleFailed failure.message)) []), u) ∧
      Told ((c.oracle.propose v.request).run v.world).2 u := by
  have hask := ask_eq c v
  rw [h] at hask
  have hprepare := Session.run_prepare_silent (s := v.session) (e := v.entry) hask
  obtain ⟨u, hcharge, htold⟩ := Session.run_charge c v.session v.entry.record.findingId
    (some (.oracleFailed failure.message)) [] ((c.oracle.propose v.request).run v.world).2
  refine ⟨?_, u, ?_, htold⟩
  · rw [trial?, hprepare]
  · rw [result_eq, hprepare]
    dsimp only
    rw [run_bind, hcharge]
    rfl

/-- **A trial is concluded by its verdict**, unless the file cannot be written any more. -/
theorem concluded {t : Session} {u : World ε} (htrial : v.trial? c = some (t, u)) :
    ∃ proposal next, v.answer c = .ok proposal ∧
      v.session.store.current.extend proposal.patches = .ok next ∧
      t.store = v.session.store.changed next ∧ t.target = v.session.target ∧
      Session.Concluded c (t.verified v.entry.finding.id) v.session.store next
        v.entry.finding.id proposal.statements
        (verdict c.mode.targets t.target t.store v.entry.finding
          (reading t.target ((c.verifier.run t.target).run u).1))
        ((c.verifier.run t.target).run u).2 (v.result c) := by
  obtain ⟨proposal, next, hanswer, hext, rfl, hresult⟩ := exists_of_trial htrial
  refine ⟨proposal, next, hanswer, hext, rfl, rfl, ?_⟩
  rw [hresult]
  exact Session.concluded_tryOut v.entry.finding proposal.statements rfl u

/-- A round that is stopped could not look up the line of its finding. -/
theorem exists_of_stopped {o : Overflow} (h : (v.result c).1.1 = .error (.overflow o)) :
    ∃ t u, v.trial? c = some (t, u) ∧
      shownLocation t.target t.store v.entry.finding.location = .error o := by
  cases htrial : v.trial? c with
  | none =>
    obtain ⟨x, cause, statements, y, -, -, hresult⟩ := result_of_not_trial htrial
    rw [hresult] at h
    cases h
  | some tried =>
    obtain ⟨t, u⟩ := tried
    obtain ⟨proposal, next, -, -, -, -, hconcluded⟩ := concluded htrial
    refine ⟨t, u, rfl, ?_⟩
    rcases hconcluded.halted_of_overflow h with hhalted | hfatal
    · exact verdict_halted hhalted
    · exact absurd (verdict_fatal hfatal) (reading_ne_overflow _ _ _)

/-- A change that fits is put on trial. -/
theorem exists_trial {proposal : Proposal} {next : Snapshot} {old : String} {w : World ε}
    (hask : Session.ask c v.request v.world = (.ok proposal, w))
    (hfree : v.session.store.inFlight = none)
    (hfits : v.session.store.current.extend proposal.patches = .ok next)
    (hholds : Holds v.session.store.path old w) :
    ∃ t u, v.trial? c = some (t, u) ∧ t.store = v.session.store.changed next ∧
      t.target = v.session.target ∧ Holds v.session.store.path next.source u ∧
      u.outside = w.outside := by
  obtain ⟨u, hrun, hmade, hout⟩ := Session.run_prepare_fits hask hfree hfits hholds
  refine ⟨{ v.session.addUsage v.entry.record.findingId proposal.usage with
    store := v.session.store.changed next }, u, ?_, rfl, rfl, hmade, hout⟩
  rw [trial?, hrun]

/-- A report is what can be read. -/
theorem reading_of_reported {t : Session} {u : World ε} {report : VerifierReport}
    (h : reported? c t u = some report) :
    reading t.target ((c.verifier.run t.target).run u).1 = .ok report := by
  rw [reported?] at h
  cases hread : reading t.target ((c.verifier.run t.target).run u).1 with
  | error failure =>
    rw [hread] at h
    cases h
  | ok read =>
    rw [hread] at h
    exact congrArg Except.ok (Option.some.inj h)

/-- A round whose finding cannot be judged is stopped. -/
theorem result_of_overflow {t : Session} {u : World ε} (htrial : v.trial? c = some (t, u))
    {report : VerifierReport} (hreport : reported? c t u = some report) {o : Overflow}
    (hjudge : judge c.mode.targets t.target t.store v.entry.finding report = .error o) :
    ∃ s w, v.result c = ((.error (.overflow o), s), w) := by
  obtain ⟨proposal, next, -, -, -, -, hconcluded⟩ := concluded htrial
  have hverdict : verdict c.mode.targets t.target t.store v.entry.finding (.ok report) =
      .halted o := by
    rw [verdict, hjudge]
  rw [reading_of_reported hreport, hverdict] at hconcluded
  generalize hresult : v.result c = x at hconcluded
  cases hconcluded with
  | stuck hundoes hlost => cases hundoes
  | done hout hholds => exact ⟨_, _, rfl⟩

/-- The change of a finding that is judged to be resolved is kept, and its report accepted. -/
theorem result_of_resolved {t : Session} {u : World ε} (htrial : v.trial? c = some (t, u))
    {report : VerifierReport} (hreport : reported? c t u = some report) {others : List Finding}
    (hjudge : judge c.mode.targets t.target t.store v.entry.finding report =
      .ok (.resolved others)) :
    ∃ s w, v.result c = ((.ok .settled, s), w) ∧ v.accepted? c = some others ∧
      s.store = v.session.store.kept t.store.current ∧
      w.outside = ((c.verifier.run t.target).run u).2.outside ∧
      ∀ old, Holds v.session.store.path old ((c.verifier.run t.target).run u).2 →
        Holds v.session.store.path old w := by
  obtain ⟨proposal, next, -, -, hstore, -, hconcluded⟩ := concluded htrial
  obtain rfl : t.store.current = next := by rw [hstore]; rfl
  have hverdict : verdict c.mode.targets t.target t.store v.entry.finding (.ok report) =
      .kept others := by
    rw [verdict, hjudge]
  rw [reading_of_reported hreport, hverdict] at hconcluded
  generalize hresult : v.result c = x at hconcluded
  cases hconcluded with
  | stuck hundoes hlost => cases hundoes
  | done hout hholds =>
    refine ⟨_, _, rfl, ?_, rfl, hout, hholds⟩
    rw [accepted?, hresult, htrial]
    dsimp only [Session.conclude]
    rw [hreport]
    exact congrArg some (judge_resolved hjudge).1.symm

/-- A round settles its finding exactly if the finding is judged to be resolved. -/
theorem settled_iff {t : Session} {u : World ε} (htrial : v.trial? c = some (t, u))
    {report : VerifierReport} (hreport : reported? c t u = some report) :
    (v.result c).1.1 = .ok .settled ↔
      ∃ others, judge c.mode.targets t.target t.store v.entry.finding report =
        .ok (.resolved others) := by
  obtain ⟨proposal, next, -, -, -, -, hconcluded⟩ := concluded htrial
  rw [reading_of_reported hreport] at hconcluded
  rw [hconcluded.settled_iff, verdict]
  rcases judge c.mode.targets t.target t.store v.entry.finding report with
    o | ⟨introduced | still | - | others⟩ <;> simp

/-- A round after which the session goes on makes the change that it keeps, or none. -/
theorem grown {changes : List (List Patch)} (h : Grown start changes v.session.store.current)
    {ending : RoundEnd} {t : Session} {u : World ε} (hresult : v.result c = ((.ok ending, t), u)) :
    Grown start (changes ++ v.kept c) t.store.current := by
  have hfailed : ending = .unsettled → t.store.current = v.session.store.current →
      Grown start (changes ++ v.kept c) t.store.current := by
    intro hunsettled hsame
    have hnone : v.kept c = [] := kept_of_unsettled (by rw [hresult, hunsettled]; simp)
    rwa [hnone, List.append_nil, hsame]
  cases htrial : v.trial? c with
  | none =>
    obtain ⟨x, cause, statements, y, -, hx, hcharged⟩ := result_of_not_trial htrial
    obtain ⟨hend, -⟩ := Prod.mk.inj (hresult.symm.trans hcharged)
    obtain ⟨hunsettled, rfl⟩ := Prod.mk.inj hend
    refine hfailed (Except.ok.inj hunsettled) ?_
    rcases hx with rfl | ⟨usage, rfl⟩ <;> rfl
  | some tried =>
    obtain ⟨x, y⟩ := tried
    obtain ⟨proposal, next, hanswer, hext, -, -, hconcluded⟩ := concluded htrial
    rw [hresult] at hconcluded
    rcases hconcluded.of_ok with ⟨cause, seen, -, hunsettled, rfl⟩ | ⟨others, -, rfl, rfl⟩
    · refine hfailed hunsettled ?_
      change (Session.noted _ seen).store.current = _
      rw [Session.store_noted]
      rfl
    · have hkept : v.kept c = [proposal.patches] := by rw [kept, hresult, hanswer]
      rw [hkept]
      exact h.more hext

end Visit

/-! ### A session -/

/-- The text has the changes kept at the visits that lie behind. -/
theorem lasts_grown (c : Controller ε) (start : Snapshot) :
    Lasts c fun us s => Grown start (keptAt c us) s.store.current where
  taking := fun h _ _ _ => h
  round := by
    intro us v id ending t u h hdue hresult
    have hone : keptAt c [v] = v.kept c := List.flatMap_singleton _ _
    rw [keptAt_append, hone]
    exact Visit.grown h hresult
  givenUp := fun h _ _ _ => h

namespace Session

variable {c : Controller ε} {s : Session} {w : World ε} {v : Visit ε}

/-- **A visit finds the text at the start with the changes kept at the visits before.** -/
theorem grown_at_visit (hempty : s.ledger = []) {p : Repair ε} {k i : Nat}
    (hp : (repairs c s w)[k]? = some p) (hv : (p.visits c)[i]? = some v) :
    Grown s.store.current
      (keptAt c (((repairs c s w).take k).flatMap (·.visits c) ++ (p.visits c).take i))
      v.session.store.current := by
  obtain ⟨fs, hinitial⟩ := exists_initial (List.mem_of_getElem? hp)
  exact lasts (lasts_grown c s.store.current) hempty hinitial .start hp hv

/-- So every visit of a session finds the text at its start with some changes. -/
theorem grown_of_mem_visits (hempty : s.ledger = []) (hv : v ∈ visits c s w) :
    ∃ changes, Grown s.store.current changes v.session.store.current := by
  rw [visits_eq] at hv
  obtain ⟨p, hp, hmem⟩ := List.mem_flatMap.1 hv
  obtain ⟨k, hk⟩ := List.mem_iff_getElem?.1 hp
  obtain ⟨i, hi⟩ := List.mem_iff_getElem?.1 hmem
  exact ⟨_, grown_at_visit hempty hk hi⟩

end Session

/-! ### How a session goes on -/

section

variable {id : FindingId} {e : LedgerEntry} {request : RepairRequest} {s t x : Session}
  {w u y : World ε} {c : Controller ε}

/-- A request can be written if its finding is shown at a word, or lies elsewhere on a line
that is far from the last word. -/
theorem Session.exists_request {e : LedgerEntry}
    (hfar : ¬ e.finding.location.isIn s.target.harnessFile = true →
      max e.finding.location.line 1 + excerptRadius < Text.wordLimit)
    (hplace : e.finding.location.isIn s.target.harnessFile = true →
      placeOf s.store.current.inserted e.finding.location.line < Text.wordLimit) :
    ∃ request, s.request e w = .ok request := by
  have hshown : ∃ shown, shownLocation s.target s.store e.finding.location = .ok shown := by
    rw [shownLocation]
    split
    · next hin =>
      rw [PatchStore.currentLine, currentLine_eq_placeOf (hplace hin)]
      exact ⟨_, rfl⟩
    · exact ⟨_, rfl⟩
  have hcontext : ∃ context,
      HarnessRepair.locationContext w.files s.target e.finding.location = .ok context := by
    rw [HarnessRepair.locationContext]
    split
    · exact ⟨_, rfl⟩
    · next hout =>
      split
      · exact ⟨_, rfl⟩
      · split
        · rw [excerpt]
          dsimp only
          rw [excerptBounds_eq, if_pos (hfar hout)]
          dsimp only [bind, Except.bind]
          split <;> exact ⟨_, rfl⟩
        · exact ⟨_, rfl⟩
  obtain ⟨shown, hshown⟩ := hshown
  obtain ⟨context, hcontext⟩ := hcontext
  rw [Session.request, buildRequest, hshown, hcontext]
  exact ⟨_, rfl⟩

/-- As long as there is budget and the request can be written, a finding that is worked on is
visited at once; and there are other rounds if that one has failed. -/
theorem Attempted.exists_cons {vs : List (Visit ε)} {r : Except SessionFailure Unit}
    (h : Attempted c id s w vs r t u) (hfind : s.ledger.find? id = some e)
    (hbudget : e.record.hasBudget c.budget = true) (hrequest : s.request e w = .ok request) :
    ∃ rest, vs = ⟨s, e, w, request, hrequest⟩ :: rest ∧
      (∀ x y, Visit.result c ⟨s, e, w, request, hrequest⟩ = ((.ok .settled, x), y) →
        rest = [] ∧ r = .ok () ∧ t = x ∧ u = y) ∧
      (∀ x y, Visit.result c ⟨s, e, w, request, hrequest⟩ = ((.ok .unsettled, x), y) →
        Attempted c id x y rest r t u) ∧
      ∀ failure x y, Visit.result c ⟨s, e, w, request, hrequest⟩ = ((.error failure, x), y) →
        r = .error failure := by
  have hsame : ∀ {v : Visit ε} (hv : v.session.ledger.find? id = some v.entry)
      (he : v.session.ledger.find? id = some e)
      (hrequest : v.session.request e v.world = .ok request),
      (⟨v.session, e, v.world, request, hrequest⟩ : Visit ε) = v :=
    fun hv he _ => Visit.eq_of_place rfl (Option.some.inj (he.symm.trans hv)) rfl
  cases h with
  | spent hfind' hnone htold =>
    obtain rfl := Option.some.inj (hfind'.symm.trans hfind)
    exact absurd hbudget hnone
  | unasked hfind' hbudget' hoverflow =>
    obtain rfl := Option.some.inj (hfind'.symm.trans hfind)
    cases hoverflow.symm.trans hrequest
  | fatal hfind' hbudget' hresult =>
    rw [hsame hfind' hfind hrequest]
    refine ⟨[], rfl, fun x y hsettled => ?_, fun x y hunsettled => ?_,
      fun failure x y hfailed => ?_⟩
    · cases hresult.symm.trans hsettled
    · cases hresult.symm.trans hunsettled
    · cases hresult.symm.trans hfailed
      rfl
  | settled hfind' hbudget' hresult =>
    rw [hsame hfind' hfind hrequest]
    refine ⟨[], rfl, fun x y hsettled => ?_, fun x y hunsettled => ?_,
      fun failure x y hfailed => ?_⟩
    · cases hresult.symm.trans hsettled
      exact ⟨rfl, rfl, rfl, rfl⟩
    · cases hresult.symm.trans hunsettled
    · cases hresult.symm.trans hfailed
  | again hfind' hbudget' hresult hrest =>
    rw [hsame hfind' hfind hrequest]
    refine ⟨_, rfl, fun x y hsettled => ?_, fun x y hunsettled => ?_, fun failure x y hfailed => ?_⟩
    · cases hresult.symm.trans hsettled
    · cases hresult.symm.trans hunsettled
      exact hrest
    · cases hresult.symm.trans hfailed

/-- A finding that waits is taken up; and when that is done, the session goes on or has ended. -/
theorem Repaired.exists_cons {ps : List (Repair ε)} {outcome : Except Overflow SessionOutcome}
    (h : Repaired c s w ps outcome t u) (hnext : s.ledger.nextPending? = some id) :
    ∃ qs r x y, ps = ⟨id, s, w⟩ :: qs ∧
      Attempted c id (s.taking id) w (Repair.visits c ⟨id, s, w⟩) r x y ∧
      (r = .ok () → Repaired c x y qs outcome t u) ∧
      ∀ failure, r = .error failure → outcome = (x.ended failure).1 := by
  cases h with
  | done hnone htold => cases hnone.symm.trans hnext
  | fatal hnext' h htold =>
    obtain rfl := Option.some.inj (hnext'.symm.trans hnext)
    refine ⟨[], _, _, _, rfl, h, fun hok => (by cases hok), fun failure hfailed => ?_⟩
    rw [Except.error.inj hfailed]
  | next hnext' h hrest =>
    obtain rfl := Option.some.inj (hnext'.symm.trans hnext)
    exact ⟨_, _, _, _, rfl, h, fun _ => hrest, fun failure hfailed => by cases hfailed⟩

/-- What is known of a session whose first finding is settled in its first round. -/
theorem Repaired.of_settled {ps : List (Repair ε)} {outcome : Except Overflow SessionOutcome}
    (h : Repaired c s w ps outcome t u) (hnext : s.ledger.nextPending? = some id)
    (hfind : (s.taking id).ledger.find? id = some e)
    (hbudget : e.record.hasBudget c.budget = true)
    (hrequest : (s.taking id).request e w = .ok request)
    (hresult : Visit.result c ⟨s.taking id, e, w, request, hrequest⟩ = ((.ok .settled, x), y)) :
    ∃ qs, ps = ⟨id, s, w⟩ :: qs ∧
      Repair.visits c ⟨id, s, w⟩ = [⟨s.taking id, e, w, request, hrequest⟩] ∧
      Repaired c x y qs outcome t u := by
  obtain ⟨qs, r, x', y', rfl, hattempted, hgoes, -⟩ := h.exists_cons hnext
  obtain ⟨rest, hvisits, hsettled, -⟩ := hattempted.exists_cons hfind hbudget hrequest
  obtain ⟨rfl, rfl, rfl, rfl⟩ := hsettled _ _ hresult
  exact ⟨qs, rfl, hvisits, hgoes rfl⟩

/-- A session whose first finding is stopped in its first round is stopped. -/
theorem Repaired.of_stopped {ps : List (Repair ε)} {outcome : Except Overflow SessionOutcome}
    {o : Overflow} (h : Repaired c s w ps outcome t u) (hnext : s.ledger.nextPending? = some id)
    (hfind : (s.taking id).ledger.find? id = some e)
    (hbudget : e.record.hasBudget c.budget = true)
    (hrequest : (s.taking id).request e w = .ok request)
    (hresult : Visit.result c ⟨s.taking id, e, w, request, hrequest⟩ =
      ((.error (.overflow o), x), y)) : outcome = .error o := by
  obtain ⟨qs, r, x', y', -, hattempted, -, hends⟩ := h.exists_cons hnext
  obtain ⟨rest, -, -, -, hfailed⟩ := hattempted.exists_cons hfind hbudget hrequest
  exact hends _ (hfailed _ _ _ hresult)

/-- As long as there is budget, the first finding that waits is visited. -/
theorem Repaired.mem_visits {ps : List (Repair ε)} {outcome : Except Overflow SessionOutcome}
    (h : Repaired c s w ps outcome t u) (hnext : s.ledger.nextPending? = some id)
    (hfind : (s.taking id).ledger.find? id = some e)
    (hbudget : e.record.hasBudget c.budget = true)
    (hrequest : (s.taking id).request e w = .ok request) :
    ⟨s.taking id, e, w, request, hrequest⟩ ∈ ps.flatMap (·.visits c) := by
  obtain ⟨qs, r, x', y', rfl, hattempted, -⟩ := h.exists_cons hnext
  obtain ⟨rest, hvisits, -⟩ := hattempted.exists_cons hfind hbudget hrequest
  rw [List.flatMap_cons, hvisits]
  exact List.mem_cons_self

/-- What is known of a session in which no finding waits. -/
theorem Repaired.of_done {ps : List (Repair ε)} {outcome : Except Overflow SessionOutcome}
    (h : Repaired c s w ps outcome t u) (hnone : s.ledger.nextPending? = none) :
    ps = [] ∧ t = s ∧ outcome = .ok ⟨s.finalStatus, none⟩ ∧ u.outside = w.outside := by
  cases h with
  | done hnext htold => exact ⟨rfl, rfl, rfl, htold.outside_eq⟩
  | fatal hnext h htold => cases hnone.symm.trans hnext
  | next hnext h hrest => cases hnone.symm.trans hnext

end

end HarnessRepair
