import HarnessRepair.Proofs.Session.Reports
import Mathlib.Algebra.Group.Action.Defs
import Mathlib.Algebra.Order.BigOperators.Group.List
import Mathlib.Algebra.Order.Ring.Nat
import Mathlib.Order.Bounds.Basic

/-!
# What a session spends

A finding is asked about until it is resolved, the session ends, or the nominal costs
of its failed rounds make up the budget.  As every failure costs at least half an
attempt, the budget bounds the calls made for it; and as no finding is taken up twice,
the findings that are reported bound the calls of the session.

## Main definitions

* `Visit.cause?`, `Visit.nominal` — why a round has failed, and what it costs nominally.
* `EndsAt` — where the rounds of a finding have to end.
* `Session.calls` — the calls of a session.

## Main results

* `Attempted.isLeast_length` — **the rounds end as soon as they have to.**
* `Ran.blocked_iff`, `Ran.closed` — how a session ends, and its findings.
* `Session.run_spends` — what a session spends on its findings, and how it ends.
-/

namespace HarnessRepair

variable {ε : Type}

/-! ### Rounds -/

/-- Why the round of a visit has failed, as it is written down. -/
def Visit.cause? (c : Controller ε) (v : Visit ε) : Option FailureCause :=
  ((v.result c).1.2.ledger.find? v.entry.record.findingId).bind (·.record.lastCause?)

/-- What a visit costs nominally, in halves. -/
def Visit.nominal (c : Controller ε) (v : Visit ε) : Nat := nominalCost (v.cause? c)

/-- Where the rounds of a finding, of which `spent` halves have been spent before, have to
end: the `n`-th round resolves it or ends the session, or the nominal costs of the rounds up
to there make up the budget. -/
def EndsAt (c : Controller ε) (spent : Nat) (vs : List (Visit ε)) (n : Nat) : Prop :=
  0 < n ∧ ((∃ v, vs[n - 1]? = some v ∧ (v.result c).1.1 ≠ .ok .unsettled) ∨
    c.budget.halves.toNat ≤ spent + ((vs.take n).map (·.nominal c)).sum)

theorem Visit.Due.nominal_eq {c : Controller ε} {id : FindingId} {v : Visit ε} (h : v.Due c id)
    {t : Session} {u : World ε} (hresult : v.result c = ((.ok .unsettled, t), u)) :
    1 ≤ v.nominal c ∧ ∃ e, t.ledger.find? id = some e ∧
      e.record.nominal = v.entry.record.nominal + v.nominal c := by
  have hturn := h.turn
  rw [hresult] at hturn
  obtain ⟨e, cause, hfind, hlast, hnominal⟩ := hturn.charged h.entry
  have hcause : v.cause? c = some cause := by
    rw [cause?, hresult, h.id_eq]
    change (t.ledger.find? id).bind _ = _
    rw [hfind]
    exact hlast
  rw [nominal, hcause]
  exact ⟨cause.one_le_cost, e, hfind, hnominal⟩

section

variable {c : Controller ε} {v : Visit ε} {vs : List (Visit ε)} {spent n : Nat}

/-- The first round settles its finding or ends the session. -/
theorem isLeast_endsAt_single (h : (v.result c).1.1 ≠ .ok .unsettled) :
    IsLeast {n | EndsAt c spent [v] n} [v].length := by
  constructor
  · exact ⟨Nat.one_pos, Or.inl ⟨v, rfl, h⟩⟩
  · rintro n ⟨hpos, -⟩
    exact hpos

/-- Later rounds end where they do with the cost of the first one spent. -/
theorem endsAt_cons_iff :
    EndsAt c spent (v :: vs) (n + 2) ↔ EndsAt c (spent + v.nominal c) vs (n + 1) := by
  have hsum : spent + (((v :: vs).take (n + 2)).map (·.nominal c)).sum =
      spent + v.nominal c + ((vs.take (n + 1)).map (·.nominal c)).sum := by
    rw [List.take_succ_cons, List.map_cons, List.sum_cons, Nat.add_assoc]
  have hget : (v :: vs)[n + 2 - 1]? = vs[n + 1 - 1]? := rfl
  rw [EndsAt, EndsAt, hsum, hget]
  simp

/-- The first round has failed, so only its cost counts. -/
theorem endsAt_one_iff (h : (v.result c).1.1 = .ok .unsettled) :
    EndsAt c spent (v :: vs) 1 ↔ c.budget.halves.toNat ≤ spent + v.nominal c := by
  simp [EndsAt, h]

end

/-- Once the budget is spent, there are no more rounds. -/
theorem Attempted.eq_nil {c : Controller ε} {id : FindingId} {s t : Session} {w u : World ε}
    {vs : List (Visit ε)} {r : Except SessionFailure Unit} (h : Attempted c id s w vs r t u)
    {e : LedgerEntry} (hfind : s.ledger.find? id = some e)
    (hnone : ¬ e.record.hasBudget c.budget = true) : vs = [] := by
  cases h with
  | spent => rfl
  | unasked => rfl
  | fatal hfind' hbudget =>
    obtain rfl := Option.some.inj (hfind'.symm.trans hfind)
    exact absurd hbudget hnone
  | settled hfind' hbudget =>
    obtain rfl := Option.some.inj (hfind'.symm.trans hfind)
    exact absurd hbudget hnone
  | again hfind' hbudget =>
    obtain rfl := Option.some.inj (hfind'.symm.trans hfind)
    exact absurd hbudget hnone

/-- The budget bounds the rounds of a finding. -/
theorem Attempted.length_le {c : Controller ε} {id : FindingId} {s t : Session} {w u : World ε}
    {vs : List (Visit ε)} {r : Except SessionFailure Unit} (h : Attempted c id s w vs r t u)
    (hw : s.ledger.Working id) (ho : s.ledger.InOrder c.budget) {e : LedgerEntry}
    (hfind : s.ledger.find? id = some e) (hopen : e.record.nominal < c.budget.halves.toNat) :
    e.record.nominal + vs.length ≤ c.budget.halves.toNat := by
  induction h generalizing e with
  | spent | unasked => exact Nat.le_of_lt hopen
  | fatal | settled => exact hopen
  | @again v _ _ _ _ vs _ hfind' hbudget hresult hrest ih =>
    obtain rfl := Option.some.inj (hfind'.symm.trans hfind)
    have hdue : Visit.Due c id v := ⟨hw, ho, hfind'⟩
    obtain ⟨hw', ho', -⟩ := hdue.again hresult
    obtain ⟨hcost, e, hfound, hnominal⟩ := hdue.nominal_eq hresult
    rw [List.length_cons]
    by_cases hmore : e.record.nominal < c.budget.halves.toNat
    · have hle := ih hw' ho' hfound hmore
      omega
    · have hbalanced := (ho'.standing _ (List.mem_of_find?_eq_some hfound)).balanced
      obtain rfl := hrest.eq_nil hfound (mt hbalanced.hasBudget_iff.1 hmore)
      exact hopen

/-- **The rounds of a finding end as soon as they have to**, unless the program is stopped. -/
theorem Attempted.isLeast_length {c : Controller ε} {id : FindingId} {s t : Session}
    {w u : World ε} {vs : List (Visit ε)} {r : Except SessionFailure Unit}
    (h : Attempted c id s w vs r t u) (hgoes : ∀ o, r ≠ .error (.overflow o))
    (hw : s.ledger.Working id) (ho : s.ledger.InOrder c.budget) {e : LedgerEntry}
    (hfind : s.ledger.find? id = some e) (hopen : e.record.nominal < c.budget.halves.toNat) :
    IsLeast {n | EndsAt c e.record.nominal vs n} vs.length := by
  induction h generalizing e with
  | spent hfind' hnone htold =>
    obtain rfl := Option.some.inj (hfind'.symm.trans hfind)
    have hbalanced := (ho.standing _ (List.mem_of_find?_eq_some hfind')).balanced
    exact absurd (hbalanced.hasBudget_iff.2 hopen) hnone
  | unasked => exact absurd rfl (hgoes _)
  | fatal hfind' hbudget hresult => exact isLeast_endsAt_single (by rw [hresult]; simp)
  | settled hfind' hbudget hresult => exact isLeast_endsAt_single (by rw [hresult]; simp)
  | @again v _ _ _ _ vs _ hfind' hbudget hresult hrest ih =>
    obtain rfl := Option.some.inj (hfind'.symm.trans hfind)
    have hdue : Visit.Due c id v := ⟨hw, ho, hfind'⟩
    obtain ⟨hw', ho', -⟩ := hdue.again hresult
    obtain ⟨hcost, e, hfound, hnominal⟩ := hdue.nominal_eq hresult
    have hfailed : (v.result c).1.1 = .ok .unsettled := by rw [hresult]
    -- the end of the later rounds is the end of all, unless the first one leaves no budget
    by_cases hmore : e.record.nominal < c.budget.halves.toNat
    · obtain ⟨hends, hleast⟩ := ih hgoes hw' ho' hfound hmore
      rw [hnominal] at hends hleast
      rw [List.length_cons]
      constructor
      · obtain ⟨m, hm⟩ : ∃ m, vs.length = m + 1 := ⟨vs.length - 1, by have := hends.1; omega⟩
        rw [hm] at hends ⊢
        exact endsAt_cons_iff.2 hends
      · rintro n hn
        match n with
        | 0 => exact absurd hn.1 (Nat.lt_irrefl 0)
        | 1 =>
          have hspent := (endsAt_one_iff hfailed).1 hn
          omega
        | n + 2 =>
          have hle := hleast (endsAt_cons_iff.1 hn)
          omega
    · have hbalanced := (ho'.standing _ (List.mem_of_find?_eq_some hfound)).balanced
      obtain rfl := hrest.eq_nil hfound (mt hbalanced.hasBudget_iff.1 hmore)
      refine ⟨(endsAt_one_iff hfailed).2 (by omega), ?_⟩
      rintro n ⟨hpos, -⟩
      exact hpos

/-- Unless the program is stopped, the rounds come to a fatal end exactly if one of them is
fatal. -/
theorem Attempted.error_iff {c : Controller ε} {id : FindingId} {s t : Session}
    {w u : World ε} {vs : List (Visit ε)} {r : Except SessionFailure Unit}
    (h : Attempted c id s w vs r t u) (hgoes : ∀ o, r ≠ .error (.overflow o)) :
    (∃ failure, r = .error failure) ↔ ∃ v ∈ vs, ∃ failure, (v.result c).1.1 = .error failure := by
  induction h with
  | spent hfind hnone htold => simp
  | unasked => exact absurd rfl (hgoes _)
  | fatal hfind hbudget hresult => simp [hresult]
  | settled hfind hbudget hresult => simp [hresult]
  | again hfind hbudget hresult hrest ih => simp [hresult, ih hgoes]

/-! ### Findings -/

/-- Nothing has been tried for a finding that is taken up. -/
theorem Repair.Due.untried {c : Controller ε} {p : Repair ε} (h : p.Due c) :
    ∃ e, (p.session.taking p.id).ledger.find? p.id = some e ∧ e.record.Untried := by
  have hnext := h.waits
  rw [Ledger.nextPending?, Option.map_eq_some_iff] at hnext
  obtain ⟨e, hfind, hid⟩ := hnext
  have hmem := List.mem_of_find?_eq_some hfind
  have hfound := List.find?_some hfind
  have huntried := ((h.inOrder.standing e hmem).pending (beq_iff_eq.1 hfound)).2
  have hentry : p.session.ledger.find? p.id = some e :=
    h.queued.filed.find?_eq_some_iff.2 ⟨hmem, hid⟩
  refine ⟨{ e with record := { e.record with state := .inProgress } }, ?_, huntried⟩
  rw [Session.taking, Ledger.updateRecord, Ledger.find?_update, hentry]
  · rfl
  · exact fun d => rfl

/-- The budget bounds the visits at a finding. -/
theorem Repair.Due.length_le {c : Controller ε} {p : Repair ε} (h : p.Due c)
    (hb : 0 < c.budget.halves.toNat) : (p.visits c).length ≤ c.budget.halves.toNat := by
  obtain ⟨hw, ho, -⟩ := Session.working_taking h.queued h.inOrder h.waits
  obtain ⟨r, t, u, hattempted⟩ := h.attempted
  obtain ⟨e, hfind, huntried⟩ := h.untried
  have hzero := huntried.nominal_eq
  have hle := hattempted.length_le hw ho hfind (by omega)
  omega

/-- The visits at a finding end as soon as they have to, unless the program is stopped. -/
theorem Repair.Due.isLeast_length {c : Controller ε} {p : Repair ε} (h : p.Due c)
    (hb : 0 < c.budget.halves.toNat) {r : Except SessionFailure Unit} {t : Session} {u : World ε}
    (hattempted : Attempted c p.id (p.session.taking p.id) p.world (p.visits c) r t u)
    (hgoes : ∀ o, r ≠ .error (.overflow o)) :
    IsLeast {n | EndsAt c 0 (p.visits c) n} (p.visits c).length := by
  obtain ⟨hw, ho, -⟩ := Session.working_taking h.queued h.inOrder h.waits
  obtain ⟨e, hfind, huntried⟩ := h.untried
  have hzero := huntried.nominal_eq
  have hleast := hattempted.isLeast_length hgoes hw ho hfind (by omega)
  rwa [hzero] at hleast

namespace Repaired

variable {c : Controller ε} {s t : Session} {w u : World ε} {ps : List (Repair ε)}
  {outcome : Except Overflow SessionOutcome} {ending : SessionOutcome}

/-- In a session that has an outcome, no round has been stopped. -/
theorem goes (h : Repaired c s w ps outcome t u) (hending : outcome = .ok ending) :
    ∀ p ∈ ps, ∃ r t u,
      Attempted c p.id (p.session.taking p.id) p.world (p.visits c) r t u ∧
      ∀ o, r ≠ .error (.overflow o) := by
  induction h with
  | done hnext htold => exact List.forall_mem_nil _
  | fatal hnext h htold =>
    refine List.forall_mem_singleton.2 ⟨_, _, _, h, fun o heq => ?_⟩
    exact Session.not_overflow_of_ended hending o (Except.error.inj heq)
  | next hnext h hrest ih =>
    exact List.forall_mem_cons.2 ⟨⟨_, _, _, h, fun o heq => by cases heq⟩, ih hending⟩

/-- Such a session is blocked exactly if one of its rounds was fatal. -/
theorem blocked_iff (h : Repaired c s w ps outcome t u) (hending : outcome = .ok ending) :
    ending.status = .blocked ↔
      ∃ v ∈ ps.flatMap (·.visits c), ∃ failure, (v.result c).1.1 = .error failure := by
  induction h with
  | @done s _ _ hnext htold =>
    obtain rfl := Except.ok.inj hending
    have hopen : s.finalStatus ≠ .blocked := by
      rw [Session.finalStatus]
      split <;> exact SessionStatus.noConfusion
    simpa using hopen
  | fatal hnext h htold =>
    have hfatal := h.error_iff fun o heq =>
      Session.not_overflow_of_ended hending o (Except.error.inj heq)
    rw [List.flatMap_singleton, ← hfatal]
    exact ⟨fun _ => ⟨_, rfl⟩, fun _ => Session.status_of_ended hending⟩
  | next hnext h hrest ih =>
    have hnone := mt (h.error_iff fun o heq => by cases heq).2 (by simp)
    rw [List.flatMap_cons, ih hending]
    constructor
    · rintro ⟨v, hv, hfatal⟩
      exact ⟨v, List.mem_append_right _ hv, hfatal⟩
    · rintro ⟨v, hv, hfatal⟩
      rcases List.mem_append.1 hv with hv | hv
      · exact absurd ⟨v, hv, hfatal⟩ hnone
      · exact ⟨v, hv, hfatal⟩

/-- Unless the session could not go on, all its findings are done with, and stand well. -/
theorem closed (h : Repaired c s w ps outcome t u) (hq : s.ledger.Queued)
    (ho : s.ledger.InOrder c.budget) (hending : outcome = .ok ending)
    (hopen : ending.status ≠ .blocked) :
    ∀ e ∈ t.ledger, e.Done ∧ e.record.Standing c.budget := by
  induction h with
  | done hnext htold =>
    intro e he
    refine ⟨?_, ho.standing e he⟩
    rw [Ledger.nextPending?, Option.map_eq_none_iff] at hnext
    obtain ⟨before, after, heq, hbefore, hafter⟩ := hq.split
    rw [heq] at he
    rcases List.mem_append.1 he with he' | he'
    · exact hbefore e he'
    · rcases hafter e he' with ⟨hpending, -⟩ | ⟨hresolved, -⟩
      · rw [← heq] at he
        exact absurd (beq_iff_eq.2 hpending) (List.find?_eq_none.1 hnext e he)
      · rw [LedgerEntry.Done, hresolved]
        rfl
  | fatal hnext h htold => exact absurd (Session.status_of_ended hending) hopen
  | next hnext h hrest ih =>
    obtain ⟨hw, ho', -⟩ := Session.working_taking hq ho hnext
    obtain ⟨horder, -, -, hend, -⟩ := h.ends hw ho'
    exact ih (hend rfl).1 horder hending

end Repaired

namespace Ran

variable {c : Controller ε} {s t : Session} {w u : World ε} {ps : List (Repair ε)}
  {outcome : Except Overflow SessionOutcome} {ending : SessionOutcome}

/-- In a session that has an outcome, the visits at each finding end as soon as they have to. -/
theorem isLeast_length (h : Ran c s w ps (.ok ending) t u) (hempty : s.ledger = [])
    (hb : 0 < c.budget.halves.toNat) :
    ∀ p ∈ ps, IsLeast {n | EndsAt c 0 (p.visits c) n} (p.visits c).length := by
  intro p hp
  have hdue := h.due hempty p hp
  cases h with
  | refused hinitial htold => cases hp
  | started hinitial htold h =>
    obtain ⟨r, t, u, hattempted, hgoes⟩ := h.goes rfl p hp
    exact hdue.isLeast_length hb hattempted hgoes

/-- It is blocked exactly if it has no first report, or one of its rounds was fatal. -/
theorem blocked_iff (h : Ran c s w ps (.ok ending) t u) :
    ending.status = .blocked ↔ Session.initial? c s w = none ∨
      ∃ v ∈ ps.flatMap (·.visits c), ∃ failure, (v.result c).1.1 = .error failure := by
  cases h with
  | refused hinitial htold => exact ⟨fun _ => Or.inl hinitial, fun _ => rfl⟩
  | started hinitial htold h => simp [h.blocked_iff rfl, hinitial]

/-- Unless it is, all its findings are done with in the end, and stand well. -/
theorem closed (h : Ran c s w ps (.ok ending) t u) (hempty : s.ledger = [])
    (hopen : ending.status ≠ .blocked) :
    ∀ e ∈ t.ledger, e.Done ∧ e.record.Standing c.budget := by
  cases h with
  | refused hinitial htold => exact absurd rfl hopen
  | started hinitial htold h =>
    obtain ⟨hqueued, horder, -⟩ := Session.queued_begun c.budget hempty _
    exact h.closed hqueued horder rfl hopen

end Ran

/-! ### Calls -/

/-- Whether a call asks the oracle. -/
def Call.isAsked : Call → Bool
  | .asked _ => true
  | .verified _ => false

namespace Session

variable {c : Controller ε} {s : Session} {w : World ε}

/-- The calls of a session: the verifier is run on the harness as it is, and then those of
its visits follow. -/
def calls (c : Controller ε) (path : String) (s : Session) (w : World ε) : List Call :=
  .verified (w.files.readText path) ::
    (repairs c s w).flatMap fun p => (p.visits c).flatMap (·.calls c path)

/-- A visit asks the oracle once. -/
theorem countP_isAsked (path : String) (vs : List (Visit ε)) :
    (vs.flatMap (·.calls c path)).countP (·.isAsked) = vs.length := by
  induction vs with
  | nil => rfl
  | cons v vs ih =>
    have hone : (v.calls c path).countP (·.isAsked) = 1 := by
      rw [Visit.calls]
      cases v.trial? c <;> rfl
    rw [List.flatMap_cons, List.countP_append, hone, ih, List.length_cons, Nat.add_comm]

/-- It runs the verifier at most once. -/
theorem countP_not_isAsked_le (path : String) (vs : List (Visit ε)) :
    (vs.flatMap (·.calls c path)).countP (!·.isAsked) ≤ vs.length := by
  induction vs with
  | nil => exact Nat.le_refl 0
  | cons v vs ih =>
    have hone : (v.calls c path).countP (!·.isAsked) ≤ 1 := by
      rw [Visit.calls]
      cases v.trial? c <;> simp [Call.isAsked]
    rw [List.flatMap_cons, List.countP_append, List.length_cons]
    omega

/-- So the calls of a session are bounded by its visits. -/
theorem countP_calls (path : String) :
    (calls c path s w).countP (·.isAsked) = (visits c s w).length ∧
      (calls c path s w).countP (!·.isAsked) ≤ (visits c s w).length + 1 := by
  have hcalls : calls c path s w =
      .verified (w.files.readText path) :: (visits c s w).flatMap (·.calls c path) := by
    rw [calls, visits_eq, List.flatMap_assoc]
  have hle := countP_not_isAsked_le (c := c) path (visits c s w)
  rw [hcalls, List.countP_cons, List.countP_cons, countP_isAsked]
  simpa [Call.isAsked] using hle

/-- The findings that are reported bound the visits. -/
theorem length_visits_le (hempty : s.ledger = []) (hb : 0 < c.budget.halves.toNat)
    (hnodup : ((repairs c s w).map (·.id)).Nodup) {F : Finset FindingId}
    (hF : ∀ fs ∈ acceptedReports c s w, ∀ f ∈ fs, f.id ∈ F) :
    (visits c s w).length ≤ F.card * c.budget.halves.toNat := by
  have hfew : (repairs c s w).length ≤ F.card := by
    rw [← List.length_map (·.id), ← List.toFinset_card_of_nodup hnodup]
    refine Finset.card_le_card fun id hid => ?_
    obtain ⟨p, hp, rfl⟩ := List.mem_map.1 (List.mem_toFinset.1 hid)
    obtain ⟨fs, hfs, hin⟩ := exists_report_of_mem_repairs hempty hp
    obtain ⟨f, hf, heq⟩ := List.mem_map.1 hin
    rw [← heq]
    exact hF fs hfs f hf
  have hshort : ((repairs c s w).map fun p => (p.visits c).length).sum ≤
      (repairs c s w).length * c.budget.halves.toNat := by
    have hsum := List.sum_le_card_nsmul ((repairs c s w).map fun p => (p.visits c).length)
      c.budget.halves.toNat fun n hn => by
        obtain ⟨p, hp, rfl⟩ := List.mem_map.1 hn
        exact (due_of_mem_repairs hempty hp).length_le hb
    rwa [List.length_map, smul_eq_mul] at hsum
  rw [visits_eq, List.length_flatMap]
  exact hshort.trans (Nat.mul_le_mul_right _ hfew)

/-- **What a session spends.**  No finding is taken up twice, and each is asked about no more
often than there are halves in the budget.  What is written down as spent is what the rounds were
charged, and never more than the budget.  The findings that are reported bound all calls.  In a
session that is not stopped by a line that is no word, each finding is asked about exactly until
it has to end; only a fatal round, or a first report that cannot be read, blocks the session;
otherwise all its findings are done with in the end, and the ways in which one may have been given
up can be told by the books. -/
theorem run_spends (hempty : s.ledger = []) (hb : 0 < c.budget.halves.toNat) :
    ((repairs c s w).map (·.id)).Nodup ∧
    (∀ p ∈ repairs c s w, (p.visits c).length ≤ c.budget.halves.toNat) ∧
    (∀ m ∈ moments c s w, ∀ e ∈ m.ledger,
      e.record.attemptsSpent.halves.toNat =
        (e.record.history.map (·.cost.halves.toNat)).sum ∧
      e.record.attemptsSpent.halves.toNat ≤ c.budget.halves.toNat) ∧
    ∃ outcome t u, (run c s).run w = ((outcome, t), u) ∧
      (∀ ending, outcome = .ok ending →
        (∀ p ∈ repairs c s w, ∀ path, IsLeast {n | EndsAt c 0 (p.visits c) n}
          (((p.visits c).flatMap (·.calls c path)).countP (·.isAsked))) ∧
        (ending.status = .blocked ↔ initial? c s w = none ∨
          ∃ v ∈ visits c s w, ∃ failure, (v.result c).1.1 = .error failure) ∧
        (ending.status ≠ .blocked → ∀ e ∈ t.ledger, e.record.state.isTerminal = true ∧
          (e.record.state = .exhausted ↔
            e.record.attemptsSpent = c.budget ∧ e.record.lastCause? = some .notResolved) ∧
          (e.record.state = .blocked ↔ e.record.attemptsSpent = c.budget ∧
            ∃ cause, e.record.lastCause? = some cause ∧ cause.cost = .half))) ∧
      (∀ path book, Scribe c path s.target book →
        book u.outside = book w.outside ++ calls c path s w) ∧
      ∀ F : Finset FindingId, (∀ fs ∈ acceptedReports c s w, ∀ f ∈ fs, f.id ∈ F) →
        ∀ path, (calls c path s w).countP (·.isAsked) ≤ F.card * c.budget.halves.toNat ∧
          (calls c path s w).countP (!·.isAsked) ≤ F.card * c.budget.halves.toNat + 1 := by
  have hzero : c.budget ≠ .zero := by
    intro heq
    rw [heq] at hb
    exact Nat.lt_irrefl 0 hb
  obtain ⟨outcome, t, u, hrun, hran⟩ := ran_run (c := c) hempty w
  have hnodup := hran.nodup hempty
  refine ⟨hnodup, ?_, ?_, outcome, t, u, hrun, ?_, ?_, ?_⟩
  · exact fun p hp => (due_of_mem_repairs hempty hp).length_le hb
  · intro m hm e he
    have hbalanced := (passes_moments hempty).balanced m hm e he
    exact ⟨hbalanced.spent_eq, hbalanced.le⟩
  · rintro ending rfl
    refine ⟨fun p hp path => ?_, ?_, fun hopen e he => ?_⟩
    · rw [countP_isAsked]
      exact hran.isLeast_length hempty hb p hp
    · rw [visits_eq]
      exact hran.blocked_iff
    · obtain ⟨hdone, hstanding⟩ := hran.closed hempty hopen e he
      exact ⟨hdone, hstanding.exhausted_iff hzero hdone, hstanding.blocked_iff hzero hdone⟩
  · exact fun path book hbook => hran.calls hempty hbook
  · intro F hF path
    have hle := length_visits_le hempty hb hnodup hF
    obtain ⟨hasked, hverified⟩ := countP_calls (c := c) (s := s) (w := w) path
    exact ⟨hasked.le.trans hle, by omega⟩

theorem run_spends_smallSession :
    smallSession.ledger = [] ∧ 0 < hesitantController.budget.halves.toNat ∧
    ∃ p v₁ v₂ t u, Hesitated smallSession smallStart p v₁ v₂ t u ∧
      IsLeast {n | EndsAt hesitantController 0 [v₁, v₂] n} 2 ∧
      calls hesitantController "harness.c" smallSession smallStart =
        [.verified (.ok smallHarness), .asked v₁.request, .asked v₂.request,
          .verified (.ok smallRepaired)] ∧
      ∀ e ∈ t.ledger, e.record.state.isTerminal = true := by
  obtain ⟨p, v₁, v₂, t, u, h⟩ := exists_hesitated onSmall_smallSession
  obtain ⟨-, -, -, outcome, t', u', hrun, hends, hcalls, -⟩ := run_spends
    (c := hesitantController) (s := smallSession) (w := smallStart) rfl (by decide)
  cases hrun.symm.trans h.run_eq
  obtain ⟨hleast, -, hdone⟩ := hends _ rfl
  have hleast := hleast p (h.repairs_eq ▸ List.mem_singleton_self p) "harness.c"
  rw [countP_isAsked, h.visits_eq] at hleast
  have hbook := hcalls _ _ (scribe_hesitantController _)
  rw [h.outside_eq] at hbook
  exact ⟨rfl, by decide, p, v₁, v₂, t, u, h, hleast, (List.append_cancel_left hbook).symm,
    fun e he => (hdone (by simp) e he).1⟩

end Session

end HarnessRepair
