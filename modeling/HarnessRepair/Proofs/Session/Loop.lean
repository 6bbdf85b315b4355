import HarnessRepair.Proofs.Session.Course
import HarnessRepair.Proofs.Session.Order
import Mathlib.Data.Fintype.Card

/-!
# The loops of a session

The loops of a session are written with a limit.  Here they are told without one, as
relations, and the limits turn out never to be reached: a round that fails costs at
least half an attempt, and no finding is taken up twice.

## Main definitions

* `Attempted` — the rounds made for a finding until it is done with.
* `Repair`, `Session.repairs` — a finding that is taken up, and all of them in order.
* `Repaired`, `Ran` — the findings of a session until none waits, and the whole session.

## Main results

* `Turn.inOrder`, `Turn.working`, `Turn.settled` — what one round does to a ledger.
* `Session.attempted_attempts`, `Session.repaired_repairAll` — **no limit is reached.**
* `Session.ran_run` — so a run is told by the relations.
-/

namespace HarnessRepair

variable {ε : Type}

/-! ### One round -/

namespace Ledger

open LedgerEntry

variable {id : FindingId} {l m n : Ledger}

theorem find?_update {g : LedgerEntry → LedgerEntry}
    (hg : ∀ e, (g e).record.findingId = e.record.findingId) :
    (l.update id g).find? id = (l.find? id).map g := by
  rw [update, find?_map fun e => by split; exacts [hg e, rfl]]
  cases hf : l.find? id with
  | none => rfl
  | some e =>
    have hfound := List.find?_some hf
    rw [Option.map_some, Option.map_some, if_pos (beq_iff_eq.1 hfound)]

/-- The entry of a finding once a round has been charged to it. -/
theorem Noted.find?_charge (h : l.Noted id m) {e : LedgerEntry} (he : l.find? id = some e)
    (cause : Option FailureCause) (statements : List String) (b : Attempts) :
    ∃ d : LedgerEntry, (m.updateRecord id fun r => r.charge cause statements b).find? id =
        some { d with record := d.record.charge cause statements b } ∧
      d.record.history = e.record.history := by
  obtain ⟨g, hg, rfl⟩ := h
  obtain ⟨runs, usage, hrec⟩ := hg.record_eq e
  refine ⟨g e, ?_, by rw [hrec]⟩
  rw [Ledger.updateRecord, find?_update, find?_update hg.id_eq, he]
  · rfl
  · intro d
    rfl

/-- A report is taken in the same way if only counters have changed before. -/
theorem Taken.of_noted {others : List Finding} (h : Taken id others m n) (hw : Working id l)
    (hm : l.Noted id m) : Taken id others l n := by
  obtain ⟨g, -, rfl⟩ := hm
  obtain ⟨k, e, hat⟩ := hw.atWork
  rw [hat.update_eq] at h
  refine { known := h.known, waiting := ?_, resolver := h.resolver, fresh := ?_ }
  · intro i d hd hpending
    have hlt := hat.lt_of_pending hd hpending
    exact h.waiting i d (by rw [List.getElem?_set_ne (Nat.ne_of_lt hlt), hd]) hpending
  · intro i d hd hnone
    refine h.fresh i d hd ?_
    rw [List.getElem?_eq_none_iff] at hnone ⊢
    rwa [List.length_set]

end Ledger

namespace Turn

open Ledger LedgerEntry

variable {b : Attempts} {id : FindingId} {l m : Ledger} {r : Except SessionFailure RoundEnd}
  {others : Option (List Finding)} {fs : List Finding}

/-- Whatever a round does, the ledger stays in order and grows. -/
theorem inOrder (h : Turn b id l r others m) (hw : Working id l) (ho : InOrder b l) :
    InOrder b m ∧ l.Grows m := by
  cases h with
  | failed h cause statements =>
    obtain ⟨hworking, horder, hgrows⟩ := hw.noted ho h
    obtain ⟨-, horder', hgrows'⟩ := hworking.failed horder cause statements
    exact ⟨horder', hgrows.trans hgrows'⟩
  | fatal h failure => exact (hw.noted ho h).2
  | kept h hne hgone =>
    obtain ⟨hworking, horder, hgrows⟩ := hw.noted ho h
    obtain ⟨-, horder', hgrows', -⟩ := hworking.confirmed horder hne _
    exact ⟨horder', hgrows.trans hgrows'⟩

/-- Unless it is settled, the finding stays at work. -/
theorem working (h : Turn b id l r others m) (hw : Working id l) (ho : InOrder b l)
    (hopen : r ≠ .ok .settled) : Working id m := by
  cases h with
  | failed h cause statements =>
    obtain ⟨hworking, horder, -⟩ := hw.noted ho h
    exact (hworking.failed horder cause statements).1
  | fatal h failure => exact (hw.noted ho h).1
  | kept h hne hgone => exact absurd rfl hopen

/-- A round that settles its finding takes in a report in which it is missing. -/
theorem settled (h : Turn b id l (.ok .settled) others m) (hw : Working id l)
    (ho : InOrder b l) : Queued m ∧
      ∃ fs, others = some fs ∧ id ∉ fs.map (·.id) ∧ Taken id fs l m := by
  cases h with
  | kept h hne hgone =>
    obtain ⟨hworking, horder, -⟩ := hw.noted ho h
    obtain ⟨hqueued, -, -, htaken⟩ := hworking.confirmed horder hne _
    exact ⟨hqueued, _, rfl, hgone, htaken.of_noted hw h⟩

/-- It is taken in once the finding has been charged and resolved. -/
theorem exists_confirmed (h : Turn b id l (.ok .settled) (some fs) m) :
    ∃ n statements, l.Noted id n ∧ m = n.confirmed b id statements fs := by
  cases h with
  | kept h hne hgone => exact ⟨_, _, h, rfl⟩

/-- A report is taken in only if the finding is settled. -/
theorem others_eq_none (h : Turn b id l r others m) (hopen : r ≠ .ok .settled) :
    others = none := by
  cases h with
  | failed h cause statements => rfl
  | fatal h failure => rfl
  | kept h hne hgone => exact absurd rfl hopen

/-- A round that has failed is written into the history of its finding under the next
number. -/
theorem history (h : Turn b id l (.ok .unsettled) others m) {e : LedgerEntry}
    (he : l.find? id = some e) : ∃ e' cost cause statements, m.find? id = some e' ∧
      e'.record.history = e.record.history ++
        [⟨AttemptRecord.nextNumber e.record.history.length, cost, some cause, statements⟩] := by
  cases h with
  | failed h cause statements =>
    obtain ⟨d, hfind, hsame⟩ := h.find?_charge he (some cause) statements b
    refine ⟨_, d.record.chargeFor (some cause) b, cause, statements, hfind, ?_⟩
    rw [AttemptRecord.history_charge, hsame]

/-- So it is charged with the cost of its cause. -/
theorem charged (h : Turn b id l (.ok .unsettled) others m) {e : LedgerEntry}
    (he : l.find? id = some e) : ∃ e' cause, m.find? id = some e' ∧
      e'.record.lastCause? = some cause ∧
      e'.record.nominal = e.record.nominal + nominalCost (some cause) := by
  obtain ⟨e', cost, cause, statements, hfind, hhistory⟩ := h.history he
  refine ⟨e', cause, hfind, ?_, ?_⟩
  · rw [AttemptRecord.lastCause?, hhistory, List.getLast?_concat]
    rfl
  · rw [AttemptRecord.nominal, hhistory, List.map_append, List.sum_append]
    rfl

end Turn

/-! ### The rounds of a finding -/

/-- A visit at the finding that is worked on. -/
structure Visit.Due (c : Controller ε) (id : FindingId) (v : Visit ε) : Prop where
  working : v.session.ledger.Working id
  inOrder : v.session.ledger.InOrder c.budget
  entry : v.session.ledger.find? id = some v.entry

namespace Visit.Due

variable {c : Controller ε} {id : FindingId} {v : Visit ε}

theorem id_eq (h : v.Due c id) : v.entry.record.findingId = id :=
  (h.working.filed.find?_eq_some_iff.1 h.entry).2

theorem name_eq (h : v.Due c id) : v.entry.finding.id = id :=
  (h.working.filed.named _ (List.mem_of_find?_eq_some h.entry)).trans h.id_eq

theorem turn (h : v.Due c id) : Turn c.budget id v.session.ledger (v.result c).1.1
    (v.accepted? c) (v.result c).1.2.ledger :=
  (v.result_cases h.id_eq h.name_eq).1

theorem target_eq (h : v.Due c id) : (v.result c).1.2.target = v.session.target :=
  (v.result_cases (c := c) h.id_eq h.name_eq).2.1

theorem calls (h : v.Due c id) {path : String} {book : ε → List Call}
    (hbook : Scribe c path v.session.target book) :
    book (v.result c).2.outside = book v.world.outside ++ v.calls c path :=
  (v.result_cases h.id_eq h.name_eq).2.2 path book hbook

theorem balanced (h : v.Due c id) : v.entry.record.Balanced c.budget :=
  (h.inOrder.standing _ (List.mem_of_find?_eq_some h.entry)).balanced

/-- Only counters have changed once the verifier has been run. -/
theorem noted_verified (h : v.Due c id) {s : Session} {w : World ε}
    (htrial : v.trial? c = some (s, w)) :
    v.session.ledger.Noted id (s.verified id).ledger := by
  have hnoted := Visit.noted_trial htrial
  rw [h.id_eq] at hnoted
  exact hnoted.updateRecord fun r => ⟨r.verifierRuns + 1, r.usage, rfl⟩

/-- The next visit, if the round has failed. -/
theorem again (h : v.Due c id) {t : Session} {u : World ε}
    (hresult : v.result c = ((.ok .unsettled, t), u)) :
    t.ledger.Working id ∧ t.ledger.InOrder c.budget ∧ t.target = v.session.target := by
  have hturn := h.turn
  have htarget := h.target_eq
  rw [hresult] at hturn htarget
  exact ⟨hturn.working h.working h.inOrder (by simp), (hturn.inOrder h.working h.inOrder).1,
    htarget⟩

end Visit.Due

/-- Rounds are made for a finding until it is done with. -/
inductive Attempted (c : Controller ε) (id : FindingId) :
    Session → World ε → List (Visit ε) → Except SessionFailure Unit → Session → World ε → Prop
  /-- The budget is spent. -/
  | spent {s : Session} {w u : World ε} {e : LedgerEntry} (hfind : s.ledger.find? id = some e)
      (hnone : ¬ e.record.hasBudget c.budget = true) (htold : Told w u) :
    Attempted c id s w [] (.ok ()) (s.givenUp id) u
  /-- What would be asked cannot be written down. -/
  | unasked {s : Session} {w : World ε} {e : LedgerEntry} {o : Overflow}
      (hfind : s.ledger.find? id = some e) (hbudget : e.record.hasBudget c.budget = true)
      (hrequest : s.request e w = .error o) :
    Attempted c id s w [] (.error (.overflow o)) s w
  /-- The session cannot go on. -/
  | fatal {v : Visit ε} {t : Session} {u : World ε} {failure : SessionFailure}
      (hfind : v.session.ledger.find? id = some v.entry)
      (hbudget : v.entry.record.hasBudget c.budget = true)
      (hresult : v.result c = ((.error failure, t), u)) :
    Attempted c id v.session v.world [v] (.error failure) t u
  /-- The finding is resolved. -/
  | settled {v : Visit ε} {t : Session} {u : World ε}
      (hfind : v.session.ledger.find? id = some v.entry)
      (hbudget : v.entry.record.hasBudget c.budget = true)
      (hresult : v.result c = ((.ok .settled, t), u)) :
    Attempted c id v.session v.world [v] (.ok ()) t u
  /-- The round has failed, and others are made. -/
  | again {v : Visit ε} {t x : Session} {u y : World ε} {vs : List (Visit ε)}
      {r : Except SessionFailure Unit} (hfind : v.session.ledger.find? id = some v.entry)
      (hbudget : v.entry.record.hasBudget c.budget = true)
      (hresult : v.result c = ((.ok .unsettled, t), u)) (hrest : Attempted c id t u vs r x y) :
    Attempted c id v.session v.world (v :: vs) r x y

namespace Attempted

variable {c : Controller ε} {id : FindingId} {s t : Session} {w u : World ε}
  {vs : List (Visit ε)} {r : Except SessionFailure Unit}

/-- Every visit is due. -/
theorem due (h : Attempted c id s w vs r t u) (hw : s.ledger.Working id)
    (ho : s.ledger.InOrder c.budget) : ∀ v ∈ vs, v.Due c id := by
  induction h with
  | spent hfind hnone htold | unasked hfind hbudget hrequest => exact List.forall_mem_nil _
  | fatal hfind hbudget hresult => exact List.forall_mem_singleton.2 ⟨hw, ho, hfind⟩
  | settled hfind hbudget hresult => exact List.forall_mem_singleton.2 ⟨hw, ho, hfind⟩
  | again hfind hbudget hresult hrest ih =>
    have hdue : Visit.Due c id _ := ⟨hw, ho, hfind⟩
    obtain ⟨hw', ho', -⟩ := hdue.again hresult
    exact List.forall_mem_cons.2 ⟨hdue, ih hw' ho'⟩

/-- In the end the finding is done with, or still at work if the session cannot go on. -/
theorem ends (h : Attempted c id s w vs r t u) (hw : s.ledger.Working id)
    (ho : s.ledger.InOrder c.budget) :
    t.ledger.InOrder c.budget ∧ s.ledger.Grows t.ledger ∧ t.target = s.target ∧
      (r = .ok () → t.ledger.Queued ∧ ∃ e ∈ t.ledger, e.record.findingId = id ∧ e.Done) ∧
      (r ≠ .ok () → t.ledger.Working id) := by
  induction h with
  | spent hfind hnone htold =>
    obtain ⟨hqueued, horder, hgrows⟩ := hw.givenUp ho fun e he => by
      obtain rfl := Option.some.inj (he.symm.trans hfind)
      exact hnone
    refine ⟨horder, hgrows, rfl, fun _ => ⟨hqueued, ?_⟩, fun hne => absurd rfl hne⟩
    obtain ⟨hmem, hid⟩ := hw.filed.find?_eq_some_iff.1 hfind
    refine ⟨_, List.mem_map_of_mem hmem, ?_, ?_⟩
    · rw [if_pos hid]
      exact hid
    · rw [if_pos hid]
      exact (Session.spentState_ne_resolved _).2
  | unasked hfind hbudget hrequest =>
    exact ⟨ho, .refl _, rfl, nofun, fun _ => hw⟩
  | fatal hfind hbudget hresult =>
    have hdue : Visit.Due c id _ := ⟨hw, ho, hfind⟩
    have hturn := hdue.turn
    have htarget := hdue.target_eq
    rw [hresult] at hturn htarget
    obtain ⟨horder, hgrows⟩ := hturn.inOrder hw ho
    refine ⟨horder, hgrows, htarget, ?_, fun _ => hturn.working hw ho (by simp)⟩
    intro heq
    cases heq
  | settled hfind hbudget hresult =>
    have hdue : Visit.Due c id _ := ⟨hw, ho, hfind⟩
    have hturn := hdue.turn
    have htarget := hdue.target_eq
    rw [hresult] at hturn htarget
    obtain ⟨horder, hgrows⟩ := hturn.inOrder hw ho
    obtain ⟨hqueued, fs, -, -, htaken⟩ := hturn.settled hw ho
    obtain ⟨e, he, hid, hdirect⟩ := htaken.resolver
    refine ⟨horder, hgrows, htarget, fun _ => ⟨hqueued, e, he, hid, ?_⟩, fun hne => absurd rfl hne⟩
    rw [LedgerEntry.Done, (LedgerEntry.isDirect_eq_true_iff.1 hdirect).1]
    rfl
  | again hfind hbudget hresult hrest ih =>
    have hdue : Visit.Due c id _ := ⟨hw, ho, hfind⟩
    obtain ⟨hw', ho', htarget⟩ := hdue.again hresult
    have hturn := hdue.turn
    rw [hresult] at hturn
    obtain ⟨horder, hgrows, htarget', hend⟩ := ih hw' ho'
    exact ⟨horder, (hturn.inOrder hw ho).2.trans hgrows, htarget'.trans htarget, hend⟩

/-- The calls are those of the visits. -/
theorem calls (h : Attempted c id s w vs r t u) (hw : s.ledger.Working id)
    (ho : s.ledger.InOrder c.budget) {path : String} {book : ε → List Call}
    (hbook : Scribe c path s.target book) :
    book u.outside = book w.outside ++ vs.flatMap (·.calls c path) := by
  have hone : ∀ {v : Visit ε} {x}, v.session.ledger.Working id →
      v.session.ledger.InOrder c.budget → v.session.ledger.find? id = some v.entry →
      Scribe c path v.session.target book → v.result c = x →
      book x.2.outside = book v.world.outside ++ v.calls c path := by
    rintro v x hw ho hfind hbook rfl
    exact Visit.Due.calls ⟨hw, ho, hfind⟩ hbook
  induction h with
  | spent hfind hnone htold => rw [htold.outside_eq, List.flatMap_nil, List.append_nil]
  | unasked hfind hbudget hrequest => rw [List.flatMap_nil, List.append_nil]
  | fatal hfind hbudget hresult =>
    rw [List.flatMap_singleton]
    exact hone hw ho hfind hbook hresult
  | settled hfind hbudget hresult =>
    rw [List.flatMap_singleton]
    exact hone hw ho hfind hbook hresult
  | again hfind hbudget hresult hrest ih =>
    have hdue : Visit.Due c id _ := ⟨hw, ho, hfind⟩
    obtain ⟨hw', ho', htarget⟩ := hdue.again hresult
    rw [ih hw' ho' (htarget ▸ hbook), hone hw ho hfind hbook hresult, List.flatMap_cons,
      List.append_assoc]

end Attempted

/-! ### The findings of a session -/

namespace Session

/-- The session once a finding is worked on. -/
def taking (s : Session) (id : FindingId) : Session :=
  { s with ledger := s.ledger.updateRecord id fun r => { r with state := .inProgress } }

end Session

/-- A finding is taken up in a session. -/
structure Repair (ε : Type) where
  id : FindingId
  session : Session
  world : World ε

/-- The visits at a finding that is taken up. -/
def Repair.visits (c : Controller ε) (r : Repair ε) : List (Visit ε) :=
  Session.repairVisits c r.session r.id r.world

/-- The findings of a session are repaired one after the other until none waits. -/
inductive Repaired (c : Controller ε) :
    Session → World ε → List (Repair ε) → Except Overflow SessionOutcome → Session → World ε →
      Prop
  | done {s : Session} {w u : World ε} (hnext : s.ledger.nextPending? = none)
      (htold : Told w u) :
    Repaired c s w [] (.ok ⟨s.finalStatus, none⟩) s u
  | fatal {p : Repair ε} {t : Session} {u v : World ε} {failure : SessionFailure}
      (hnext : p.session.ledger.nextPending? = some p.id)
      (h : Attempted c p.id (p.session.taking p.id) p.world (p.visits c) (.error failure) t u)
      (htold : Told u v) :
    Repaired c p.session p.world [p] (t.ended failure).1 (t.ended failure).2 v
  | next {p : Repair ε} {t x : Session} {u y : World ε} {ps : List (Repair ε)}
      {outcome : Except Overflow SessionOutcome} (hnext : p.session.ledger.nextPending? = some p.id)
      (h : Attempted c p.id (p.session.taking p.id) p.world (p.visits c) (.ok ()) t u)
      (hrest : Repaired c t u ps outcome x y) :
    Repaired c p.session p.world (p :: ps) outcome x y

namespace Session

open Ledger

variable {c : Controller ε} {s : Session} {w : World ε} {id : FindingId}

/-- **The rounds of a finding come to an end by themselves**: as long as their limit and
what has been spent make up the budget, the limit is not reached. -/
theorem attempted_attempts (hw : s.ledger.Working id) (ho : s.ledger.InOrder c.budget)
    {rounds : Nat} (hfuel : ∀ e, s.ledger.find? id = some e →
      c.budget.halves.toNat ≤ rounds + e.record.nominal) :
    ∃ r t u, (attempts c id rounds s).run w = ((r, t), u) ∧
      Attempted c id s w (attemptVisits c id rounds s w) r t u := by
  -- a failed round uses up one of the limit, but also at least one half of the budget
  induction rounds generalizing s w with
  | zero =>
    obtain ⟨u, hrun, htold⟩ := run_giveUp s id w
    obtain ⟨e, hfind, -⟩ := hw.find?_eq_some
    have hbalanced := (ho.standing e (List.mem_of_find?_eq_some hfind)).balanced
    refine ⟨.ok (), givenUp s id, u, ?_, .spent hfind ?_ htold⟩
    · rw [attempts, run_bind, hrun]
      rfl
    · have hle := hfuel e hfind
      intro hbudget
      have hlt := hbalanced.hasBudget_iff.1 hbudget
      omega
  | succ rounds ih =>
    obtain ⟨e, hfind, -⟩ := hw.find?_eq_some
    rw [attempts, attemptVisits, hfind]
    dsimp only
    by_cases hbudget : e.record.hasBudget c.budget = true
    · rw [if_pos hbudget, if_pos hbudget, run_bind]
      cases hrequest : s.request e w with
      | error o =>
        rw [Visit.of?_eq_none hrequest, run_round_unasked hrequest]
        exact ⟨_, s, w, rfl, .unasked hfind hbudget hrequest⟩
      | ok request =>
        let v : Visit ε := ⟨s, e, w, request, hrequest⟩
        have hdue : v.Due c id := ⟨hw, ho, hfind⟩
        have hround : (round c s e).run w = v.result c := rfl
        rw [Visit.of?_eq_some hrequest, hround]
        dsimp only
        rcases hresult : v.result c with ⟨⟨failure | ending, t⟩, u⟩
        · exact ⟨_, t, u, rfl, .fatal hfind hbudget hresult⟩
        · cases ending with
          | settled => exact ⟨_, t, u, rfl, .settled hfind hbudget hresult⟩
          | unsettled =>
            obtain ⟨hw', ho', -⟩ := hdue.again hresult
            have hturn := hdue.turn
            rw [hresult] at hturn
            obtain ⟨e', cause, hfind', -, hnominal⟩ := hturn.charged hfind
            have hcost := cause.one_le_cost
            have hle := hfuel e hfind
            obtain ⟨r, x, y, hrun, hrest⟩ := ih (s := t) (w := u) hw' ho' fun d hd => by
              obtain rfl := Option.some.inj (hd.symm.trans hfind')
              rw [hnominal]
              change _ ≤ rounds + (e.record.nominal + cause.cost.halves.toNat)
              omega
            exact ⟨r, x, y, hrun, .again hfind hbudget hresult hrest⟩
    · rw [if_neg hbudget, if_neg hbudget]
      obtain ⟨u, hrun, htold⟩ := run_giveUp s id w
      refine ⟨.ok (), givenUp s id, u, ?_, .spent hfind hbudget htold⟩
      rw [run_bind, hrun]
      rfl

/-- The first finding that waits is taken up. -/
theorem working_taking {b : Attempts} (hq : s.ledger.Queued) (ho : s.ledger.InOrder b)
    (hnext : s.ledger.nextPending? = some id) :
    (s.taking id).ledger.Working id ∧ (s.taking id).ledger.InOrder b ∧
      s.ledger.Grows (s.taking id).ledger := by
  obtain ⟨ho', hgrows⟩ := hq.taken ho hnext
  exact ⟨(hq.begin hnext).1, ho', hgrows⟩

/-- A finding that is taken up is repaired within the limit of its rounds. -/
theorem attempted_repair (hq : s.ledger.Queued) (ho : s.ledger.InOrder c.budget)
    (hnext : s.ledger.nextPending? = some id) :
    ∃ r t u, (repair c s id).run w = ((r, t), u) ∧
      Attempted c id (s.taking id) w (repairVisits c s id w) r t u := by
  obtain ⟨hw, ho', -⟩ := working_taking hq ho hnext
  exact attempted_attempts (s := s.taking id) hw ho' fun e _ => by omega

/-- The findings that are taken up, at most `limit` of them. -/
def repairsFrom (c : Controller ε) : Nat → Session → World ε → List (Repair ε)
  | limit, s, w =>
    match s.ledger.nextPending? with
    | none => []
    | some id =>
      match limit with
      | 0 => []
      | limit + 1 =>
        ⟨id, s, w⟩ ::
          match (repair c s id).run w with
          | ((.ok (), s), w) => repairsFrom c limit s w
          | _ => []

/-- The findings that a session takes up, in order. -/
def repairs (c : Controller ε) (s : Session) (w : World ε) : List (Repair ε) :=
  match (start c s).run w with
  | ((.ok (), s), w) => repairsFrom c findingLimit s w
  | _ => []

/-- The visits of a session are those at the findings that it takes up. -/
theorem visits_eq (c : Controller ε) (s : Session) (w : World ε) :
    visits c s w = (repairs c s w).flatMap (·.visits c) := by
  have hfrom : ∀ limit (s : Session) (w : World ε),
      findingVisits c limit s w = (repairsFrom c limit s w).flatMap (·.visits c) := by
    intro limit
    induction limit with
    | zero =>
      intro s w
      rw [findingVisits, repairsFrom]
      cases s.ledger.nextPending? <;> rfl
    | succ limit ih =>
      intro s w
      rw [findingVisits, repairsFrom]
      cases s.ledger.nextPending? with
      | none => rfl
      | some id =>
        dsimp only
        rw [List.flatMap_cons]
        rcases (repair c s id).run w with ⟨⟨failure | _, t⟩, u⟩
        · rfl
        · exact congrArg _ (ih t u)
  rw [visits, repairs]
  rcases (start c s).run w with ⟨⟨failure | _, t⟩, u⟩
  · rfl
  · exact hfrom _ t u

/-- There are no more findings than identities. -/
theorem length_le_findingLimit {ids : List FindingId} (h : ids.Nodup) :
    ids.length ≤ findingLimit := by
  have hinj : Function.Injective fun id : FindingId => id.uuid.value.toFin := by
    rintro ⟨⟨a⟩⟩ ⟨⟨b⟩⟩ heq
    obtain rfl := BitVec.toFin_inj.1 heq
    rfl
  have hle := (h.map hinj).length_le_card
  rwa [List.length_map, Fintype.card_fin] at hle

/-- A finding that is done with does not wait. -/
theorem notMem_of_nextPending? {seen : List FindingId} (hq : s.ledger.Queued)
    (hdone : ∀ id ∈ seen, ∃ e ∈ s.ledger, e.record.findingId = id ∧ e.Done)
    (hnext : s.ledger.nextPending? = some id) : id ∉ seen := by
  intro hmem
  obtain ⟨e, he, hid, hterminal⟩ := hdone id hmem
  rw [nextPending?, Option.map_eq_some_iff] at hnext
  obtain ⟨d, hfind, hd⟩ := hnext
  have hfound := List.find?_some hfind
  obtain rfl := hq.filed.eq_of_id he (List.mem_of_find?_eq_some hfind) (hid.trans hd.symm)
  rw [LedgerEntry.Done, beq_iff_eq.1 hfound] at hterminal
  cases hterminal

/-- What has been done with stays so, and one more finding has been. -/
theorem done_cons {seen : List FindingId} {t : Session} (hgrows : s.ledger.Grows t.ledger)
    (hdone : ∀ id ∈ seen, ∃ e ∈ s.ledger, e.record.findingId = id ∧ e.Done)
    (hid : ∃ e ∈ t.ledger, e.record.findingId = id ∧ e.Done) :
    ∀ id' ∈ id :: seen, ∃ e ∈ t.ledger, e.record.findingId = id' ∧ e.Done := by
  refine List.forall_mem_cons.2 ⟨hid, fun id' hmem => ?_⟩
  obtain ⟨e, he, heq, hterminal⟩ := hdone id' hmem
  obtain ⟨e', he', hgrown⟩ := hgrows.mem he
  obtain rfl := hgrown.done hterminal
  exact ⟨_, he', heq, hterminal⟩

/-- **The findings come to an end by themselves**: as long as their limit and the findings
that have been done with make up all identities, the limit is not reached. -/
theorem repaired_repairAll (hq : s.ledger.Queued) (ho : s.ledger.InOrder c.budget)
    {seen : List FindingId} (hseen : seen.Nodup)
    (hdone : ∀ id ∈ seen, ∃ e ∈ s.ledger, e.record.findingId = id ∧ e.Done) {limit : Nat}
    (hfuel : findingLimit ≤ limit + seen.length) :
    ∃ outcome t u, (repairAll c limit s).run w = ((outcome, t), u) ∧
      Repaired c s w (repairsFrom c limit s w) outcome t u := by
  -- the finding that is taken up is a new one, and moves from the limit to what was seen
  induction limit generalizing s w seen with
  | zero =>
    rw [repairAll, repairsFrom]
    cases hnext : s.ledger.nextPending? with
    | none => exact ⟨_, s, _, rfl, .done hnext (told_tell ..)⟩
    | some id =>
      -- with a finding that still waits, there would be more findings than identities
      have hmore := length_le_findingLimit
        (List.nodup_cons.2 ⟨notMem_of_nextPending? hq hdone hnext, hseen⟩)
      rw [List.length_cons] at hmore
      omega
  | succ limit ih =>
    rw [repairAll, repairsFrom]
    cases hnext : s.ledger.nextPending? with
    | none => exact ⟨_, s, _, rfl, .done hnext (told_tell ..)⟩
    | some id =>
      obtain ⟨hw, ho', hbegun⟩ := working_taking hq ho hnext
      obtain ⟨r, t, u, hrun, hattempted⟩ := attempted_repair (w := w) hq ho hnext
      obtain ⟨horder, hgrows, -, hend, -⟩ := hattempted.ends hw ho'
      dsimp only
      rw [run_bind, hrun]
      cases r with
      | error failure =>
        obtain ⟨v, hgives, htold⟩ := run_giveIn t id failure u
        exact ⟨_, _, v, hgives, .fatal (p := ⟨id, s, w⟩) hnext hattempted htold⟩
      | ok _ =>
        obtain ⟨hqueued, hid⟩ := hend rfl
        have hnodup := List.nodup_cons.2 ⟨notMem_of_nextPending? hq hdone hnext, hseen⟩
        obtain ⟨outcome, x, y, hrest, hrepaired⟩ := ih (w := u) hqueued horder hnodup
          (done_cons (hbegun.trans hgrows) hdone hid) (by rw [List.length_cons]; omega)
        exact ⟨outcome, x, y, hrest, .next (p := ⟨id, s, w⟩) hnext hattempted hrepaired⟩

end Session

/-- A finding that is taken up as the first one that waits. -/
structure Repair.Due (c : Controller ε) (p : Repair ε) : Prop where
  queued : p.session.ledger.Queued
  inOrder : p.session.ledger.InOrder c.budget
  waits : p.session.ledger.nextPending? = some p.id
  attempted : ∃ r t u, Attempted c p.id (p.session.taking p.id) p.world (p.visits c) r t u

/-- Then the visits at it are due. -/
theorem Repair.Due.visit {c : Controller ε} {p : Repair ε} (h : p.Due c) {v : Visit ε}
    (hv : v ∈ p.visits c) : v.Due c p.id := by
  obtain ⟨hw, ho, -⟩ := Session.working_taking h.queued h.inOrder h.waits
  obtain ⟨r, t, u, hattempted⟩ := h.attempted
  exact hattempted.due hw ho v hv

namespace Repaired

variable {c : Controller ε} {s t : Session} {w u : World ε} {ps : List (Repair ε)}
  {outcome : Except Overflow SessionOutcome}

/-- Every finding is taken up when it is due. -/
theorem due (h : Repaired c s w ps outcome t u) (hq : s.ledger.Queued)
    (ho : s.ledger.InOrder c.budget) : ∀ p ∈ ps, p.Due c := by
  induction h with
  | done hnext htold => exact List.forall_mem_nil _
  | fatal hnext h htold => exact List.forall_mem_singleton.2 ⟨hq, ho, hnext, _, _, _, h⟩
  | next hnext h hrest ih =>
    obtain ⟨hw, ho', -⟩ := Session.working_taking hq ho hnext
    obtain ⟨horder, -, -, hend, -⟩ := h.ends hw ho'
    exact List.forall_mem_cons.2 ⟨⟨hq, ho, hnext, _, _, _, h⟩, ih (hend rfl).1 horder⟩

/-- No finding is taken up twice, nor one that has been done with before. -/
theorem nodup (h : Repaired c s w ps outcome t u) (hq : s.ledger.Queued)
    (ho : s.ledger.InOrder c.budget) {seen : List FindingId}
    (hdone : ∀ id ∈ seen, ∃ e ∈ s.ledger, e.record.findingId = id ∧ e.Done) :
    (∀ p ∈ ps, p.id ∉ seen) ∧ (ps.map (·.id)).Nodup := by
  induction h generalizing seen with
  | done hnext htold => exact ⟨List.forall_mem_nil _, List.nodup_nil⟩
  | fatal hnext h htold =>
    exact ⟨List.forall_mem_singleton.2 (Session.notMem_of_nextPending? hq hdone hnext),
      List.nodup_singleton _⟩
  | @next p _ _ _ _ ps _ hnext h hrest ih =>
    obtain ⟨hw, ho', hbegun⟩ := Session.working_taking hq ho hnext
    obtain ⟨horder, hgrows, -, hend, -⟩ := h.ends hw ho'
    obtain ⟨hqueued, hid⟩ := hend rfl
    obtain ⟨hnot, hnodup⟩ := ih hqueued horder
      (Session.done_cons (hbegun.trans hgrows) hdone hid)
    refine ⟨List.forall_mem_cons.2 ⟨Session.notMem_of_nextPending? hq hdone hnext, ?_⟩,
      List.nodup_cons.2 ⟨?_, hnodup⟩⟩
    · exact fun q hq hmem => hnot q hq (List.mem_cons_of_mem _ hmem)
    · intro hmem
      obtain ⟨q, hq, heq⟩ := List.mem_map.1 hmem
      exact hnot q hq (heq ▸ List.mem_cons_self)

/-- The calls are those of the visits. -/
theorem calls (h : Repaired c s w ps outcome t u) (hq : s.ledger.Queued)
    (ho : s.ledger.InOrder c.budget) {path : String} {book : ε → List Call}
    (hbook : Scribe c path s.target book) :
    book u.outside = book w.outside ++
      ps.flatMap fun p => (p.visits c).flatMap (·.calls c path) := by
  induction h with
  | done hnext htold => rw [htold.outside_eq, List.flatMap_nil, List.append_nil]
  | fatal hnext h htold =>
    obtain ⟨hw, ho', -⟩ := Session.working_taking hq ho hnext
    rw [htold.outside_eq, h.calls hw ho' hbook, List.flatMap_singleton]
  | next hnext h hrest ih =>
    obtain ⟨hw, ho', -⟩ := Session.working_taking hq ho hnext
    obtain ⟨horder, -, htarget, hend, -⟩ := h.ends hw ho'
    have hbook' : Scribe c path _ book := htarget ▸ hbook
    rw [ih (hend rfl).1 horder hbook', h.calls hw ho' hbook, List.flatMap_cons,
      List.append_assoc]

end Repaired

namespace Session

variable {c : Controller ε} {s : Session} {w : World ε}

open Ledger

/-! ### The whole session -/

/-- The world in which a session runs the verifier for the first time. -/
def opened (c : Controller ε) (s : Session) (w : World ε) : World ε :=
  ((tell .info .session "Starting repair session"
    [s.harnessField, ("mode", .text c.mode.name), ("verifier", .text c.verifier.name),
      ("oracle", .text c.oracle.name)]).run w).2

/-- The findings of the wanted kind in the report that a session begins with, if it can be
read. -/
def initial? (c : Controller ε) (s : Session) (w : World ε) : Option (List Finding) :=
  (reported? c s (opened c s w)).map fun report =>
    report.findings.filter fun f => f.kind = c.mode.targets

/-- The session after the first report has been read. -/
def begun (s : Session) (fs : List Finding) : Session :=
  { s with ledger := fs.foldl track s.ledger, verifierRuns := s.verifierRuns + 1 }

theorem told_opened (c : Controller ε) (s : Session) (w : World ε) : Told w (opened c s w) :=
  told_tell ..

/-- The first verification is read, or ends the session. -/
theorem run_start_cases (c : Controller ε) (s : Session) (w : World ε) :
    ∃ u, Told ((c.verifier.run s.target).run (opened c s w)).2 u ∧
      ((∃ failure, initial? c s w = none ∧
          (start c s).run w =
            ((.error failure, { s with verifierRuns := s.verifierRuns + 1 }), u)) ∨
        ∃ fs, initial? c s w = some fs ∧ (start c s).run w = ((.ok (), s.begun fs), u)) := by
  obtain ⟨w₁, hverify, htold⟩ := run_verify c s (opened c s w)
  rw [start, run_bind, ← opened, run_bind, hverify, initial?, reported?]
  cases reading s.target ((c.verifier.run s.target).run (opened c s w)).1 with
  | error failure => exact ⟨_, htold.trans (told_tell ..), Or.inl ⟨failure, rfl, rfl⟩⟩
  | ok report => exact ⟨_, htold.trans (told_tell ..), Or.inr ⟨_, rfl, rfl⟩⟩

/-- A session begins as if its findings were taken in later. -/
theorem ledger_begun (hempty : s.ledger = []) (fs : List Finding) :
    (s.begun fs).ledger = fs.foldl enter [] := by
  rw [← foldl_track_eq fs (List.forall_mem_nil _), ← hempty]
  rfl

/-- The ledger that a session begins with. -/
theorem queued_begun (b : Attempts) (hempty : s.ledger = []) (fs : List Finding) :
    (s.begun fs).ledger.Queued ∧ (s.begun fs).ledger.InOrder b ∧
      Entered fs [] (s.begun fs).ledger := by
  rw [ledger_begun hempty]
  obtain ⟨hqueued, hentered⟩ := queued_nil.entered fs
  exact ⟨hqueued, hentered.inOrder (inOrder_nil b), hentered⟩

end Session

/-- A whole session: the first report cannot be read, or the findings are repaired. -/
inductive Ran (c : Controller ε) (s : Session) (w : World ε) :
    List (Repair ε) → Except Overflow SessionOutcome → Session → World ε → Prop
  | refused {u : World ε} {reason : String} (hinitial : Session.initial? c s w = none)
      (htold : Told ((c.verifier.run s.target).run (Session.opened c s w)).2 u) :
    Ran c s w [] (.ok (.blocked reason))
      { s with verifierRuns := s.verifierRuns + 1, ledger := s.ledger.blockRemaining } u
  | started {fs : List Finding} {u v : World ε} {ps : List (Repair ε)}
      {outcome : Except Overflow SessionOutcome} {t : Session}
      (hinitial : Session.initial? c s w = some fs)
      (htold : Told ((c.verifier.run s.target).run (Session.opened c s w)).2 u)
      (h : Repaired c (s.begun fs) u ps outcome t v) :
    Ran c s w ps outcome t v

/-- **A session that has not begun runs as told**, whatever the files are and whoever the
parties. -/
theorem Session.ran_run {c : Controller ε} {s : Session} (hempty : s.ledger = [])
    (w : World ε) : ∃ outcome t u, (run c s).run w = ((outcome, t), u) ∧
      Ran c s w (repairs c s w) outcome t u := by
  obtain ⟨u, htold, ⟨failure, hinitial, hstart⟩ | ⟨fs, hinitial, hstart⟩⟩ := run_start_cases c s w
  · rw [run, repairs, run_bind, hstart]
    exact ⟨_, _, u, rfl, .refused hinitial htold⟩
  · rw [run, repairs, run_bind, hstart]
    obtain ⟨hqueued, horder, -⟩ := queued_begun c.budget hempty fs
    have hfuel : findingLimit ≤ findingLimit + ([] : List FindingId).length := Nat.le_refl _
    obtain ⟨outcome, t, v, hrun, hrepaired⟩ := repaired_repairAll (c := c) (w := u) hqueued horder
      List.nodup_nil (List.forall_mem_nil _) hfuel
    exact ⟨outcome, t, v, hrun, .started hinitial htold hrepaired⟩

namespace Ran

variable {c : Controller ε} {s t : Session} {w u : World ε} {ps : List (Repair ε)}
  {outcome : Except Overflow SessionOutcome}

/-- Once the first report has been read, the findings are repaired. -/
theorem repaired (h : Ran c s w ps outcome t u) {fs : List Finding}
    (hinitial : Session.initial? c s w = some fs) :
    ∃ v, Told ((c.verifier.run s.target).run (Session.opened c s w)).2 v ∧
      Repaired c (s.begun fs) v ps outcome t u := by
  cases h with
  | refused hnone htold => cases hnone.symm.trans hinitial
  | started hsome htold h =>
    obtain rfl := Option.some.inj (hsome.symm.trans hinitial)
    exact ⟨_, htold, h⟩

/-- Every finding is taken up when it is due. -/
theorem due (h : Ran c s w ps outcome t u) (hempty : s.ledger = []) : ∀ p ∈ ps, p.Due c := by
  cases h with
  | refused hinitial htold => exact List.forall_mem_nil _
  | started hinitial htold h =>
    obtain ⟨hqueued, horder, -⟩ := Session.queued_begun c.budget hempty _
    exact h.due hqueued horder

/-- No finding is taken up twice. -/
theorem nodup (h : Ran c s w ps outcome t u) (hempty : s.ledger = []) :
    (ps.map (·.id)).Nodup := by
  cases h with
  | refused hinitial htold => exact List.nodup_nil
  | started hinitial htold h =>
    obtain ⟨hqueued, horder, -⟩ := Session.queued_begun c.budget hempty _
    exact (h.nodup hqueued horder (List.forall_mem_nil _)).2

/-- The verifier is run on the harness as it is, and then come the calls of the visits. -/
theorem calls (h : Ran c s w ps outcome t u) (hempty : s.ledger = []) {path : String}
    {book : ε → List Call} (hbook : Scribe c path s.target book) :
    book u.outside = book w.outside ++ .verified (w.files.readText path) ::
      ps.flatMap fun p => (p.visits c).flatMap (·.calls c path) := by
  have hfirst : book ((c.verifier.run s.target).run (Session.opened c s w)).2.outside =
      book w.outside ++ [.verified (w.files.readText path)] := hbook.verified _
  cases h with
  | refused hinitial htold => rw [htold.outside_eq, hfirst, List.flatMap_nil]
  | started hinitial htold h =>
    obtain ⟨hqueued, horder, -⟩ := Session.queued_begun c.budget hempty _
    rw [h.calls hqueued horder hbook, htold.outside_eq, hfirst, List.append_assoc,
      List.singleton_append]

end Ran

namespace Session

variable {c : Controller ε} {s : Session} {w : World ε}

/-- Every finding that a session takes up is due. -/
theorem due_of_mem_repairs (hempty : s.ledger = []) {p : Repair ε} (hp : p ∈ repairs c s w) :
    p.Due c := by
  obtain ⟨outcome, t, u, -, hran⟩ := ran_run (c := c) hempty w
  exact hran.due hempty p hp

/-- Every visit of a session is due. -/
theorem due_of_mem_visits (hempty : s.ledger = []) {v : Visit ε} (hv : v ∈ visits c s w) :
    ∃ id, v.Due c id := by
  rw [visits_eq] at hv
  obtain ⟨p, hp, hmem⟩ := List.mem_flatMap.1 hv
  exact ⟨p.id, (due_of_mem_repairs hempty hp).visit hmem⟩

end Session

end HarnessRepair
