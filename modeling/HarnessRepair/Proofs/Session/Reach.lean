import HarnessRepair.Proofs.Session.Acceptance

/-!
# Where findings are resolved

Every finding that is resolved in the end has become so at a visit, by the report on the
change of that visit.  If the visit was made for it, the report does not list its line as
missed.  Otherwise it has waited, and is resolved because the report does not have it any
more; nobody asks then whether its line is still reached.

## Main definitions

* `Visit.Resolves` — an entry of the ledger becomes resolved at a visit.
* `Explained` — what is resolved in a ledger has become so at one of some visits.

## Main results

* `Visit.Due.resolves_cases` — **the two ways in which an entry becomes resolved.**
* `Attempted.explained`, `Repaired.explained`, `Ran.explained` — there are no others.
* `Session.run_reaches` — **what a patch of its own has resolved is still reached.**
-/

namespace HarnessRepair

open Ledger

variable {ε : Type}

/-- The `i`-th entry of the ledger becomes resolved at a visit: it was `e`, and is `e'`. -/
structure Visit.Resolves (c : Controller ε) (v : Visit ε) (i : Nat) (e e' : LedgerEntry) :
    Prop where
  before : v.session.ledger[i]? = some e
  after : (v.result c).1.2.ledger[i]? = some e'
  unresolved : e.record.state ≠ .resolved
  resolved : e'.record.state = .resolved

/-! ### One visit -/

section

variable {b : Attempts} {id : FindingId} {l m : Ledger} {r : Except SessionFailure RoundEnd}
  {others : Option (List Finding)} {c : Controller ε} {v : Visit ε} {i : Nat}
  {e e' : LedgerEntry}

/-- An entry of a ledger in which the entry of a finding has changed, but not its state. -/
theorem Ledger.exists_of_update {g : LedgerEntry → LedgerEntry}
    (h : (l.update id g)[i]? = some e') (hg : ∀ e, (g e).record.state = e.record.state) :
    ∃ e, l[i]? = some e ∧ e'.record.state = e.record.state := by
  rw [Ledger.update, List.getElem?_map, Option.map_eq_some_iff] at h
  obtain ⟨e, he, rfl⟩ := h
  refine ⟨e, he, ?_⟩
  split
  · exact hg e
  · rfl

/-- What is resolved after a round was there before, and becomes resolved only if the round
settles its finding. -/
theorem Turn.exists_before (h : Turn b id l r others m) (hw : Working id l) (ho : InOrder b l)
    (he' : m[i]? = some e') (hresolved : e'.record.state = .resolved) :
    ∃ e, l[i]? = some e ∧ (r ≠ .ok .settled → e.record.state = .resolved) := by
  by_cases hsettled : r = .ok .settled
  · subst hsettled
    obtain ⟨-, fs, -, -, htaken⟩ := h.settled hw ho
    cases hl : l[i]? with
    | none =>
      -- what is new waits
      obtain ⟨f, hf, hrec⟩ := htaken.fresh i e' he' hl
      rw [hrec] at hresolved
      cases hresolved
    | some e => exact ⟨e, rfl, fun hne => absurd rfl hne⟩
  · have hnoted : ∀ {n : Ledger} {d : LedgerEntry}, l.Noted id n → n[i]? = some d →
        ∃ e, l[i]? = some e ∧ d.record.state = e.record.state := by
      rintro n d ⟨g, hg, rfl⟩ hd
      exact exists_of_update hd (Quiet.mild hg).state_eq
    cases h with
    | kept h hne hgone => exact absurd rfl hsettled
    | fatal h failure =>
      obtain ⟨e, he, hstate⟩ := hnoted h he'
      exact ⟨e, he, fun _ => hstate ▸ hresolved⟩
    | failed h cause statements =>
      obtain ⟨d, hd, hcharged⟩ := exists_of_update he' fun _ => rfl
      obtain ⟨e, he, hstate⟩ := hnoted h hd
      exact ⟨e, he, fun _ => (hcharged.trans hstate) ▸ hresolved⟩

/-- **An entry becomes resolved in one of two ways**: by the visit that is made for it, and
then the report does not list its line as missed, or because it waits and is not in the
report. -/
theorem Visit.Due.resolves_cases (h : v.Due c id) (hresolves : v.Resolves c i e e') :
    ∃ t u report, v.trial? c = some (t, u) ∧ reported? c t u = some report ∧
      ((e = v.entry ∧ e'.record.resolvedBy = none ∧
          ∃ shown, shownLocation t.target t.store e.finding.location = .ok shown ∧
            isListedMissed report shown = false) ∨
        (e.record.state = .pending ∧ e'.record.resolvedBy = some id ∧
          e.record.findingId ∉ (relevant c t report).map (·.id))) := by
  obtain ⟨he, he', hunresolved, hresolved⟩ := hresolves
  have hturn := h.turn
  have hsettled : (v.result c).1.1 = .ok .settled := by
    obtain ⟨d, hd, hbefore⟩ := hturn.exists_before h.working h.inOrder he' hresolved
    obtain rfl := Option.some.inj (he.symm.trans hd)
    by_contra hopen
    exact hunresolved (hbefore hopen)
  rw [hsettled] at hturn
  obtain ⟨hqueued, fs, haccepted, -, htaken⟩ := hturn.settled h.working h.inOrder
  obtain ⟨t, u, report, htrial, hreport, rfl⟩ := v.exists_report_of_accepted haccepted
  refine ⟨t, u, report, htrial, hreport, ?_⟩
  obtain ⟨d, hd, hgrown⟩ := (hturn.inOrder h.working h.inOrder).2 i e he
  obtain rfl := Option.some.inj (he'.symm.trans hd)
  have hopen : ¬ e.Done := by
    intro hdone
    rw [hgrown.done hdone] at hresolved
    exact hunresolved hresolved
  obtain ⟨k, d, hat⟩ := h.working.atWork
  rcases Nat.lt_trichotomy i k with hlt | rfl | hlt
  · exact absurd (hat.front i e he hlt) hopen
  · -- the entry is the one that the visit is made for
    obtain rfl : e = d := Option.some.inj (he.symm.trans hat.entry)
    obtain rfl : e = v.entry := Option.some.inj (hat.find?_eq.symm.trans h.entry)
    refine Or.inl ⟨rfl, ?_, ?_⟩
    · obtain ⟨d, hd, hid, hdirect⟩ := htaken.resolver
      obtain rfl := hqueued.filed.eq_of_id hd (List.mem_of_getElem? he')
        (hid.trans (hgrown.id_eq.trans hat.id_eq).symm)
      exact (LedgerEntry.isDirect_eq_true_iff.1 hdirect).2
    · obtain ⟨others, hjudge⟩ := (v.settled_iff htrial hreport).1 hsettled
      exact (judge_resolved hjudge).2.2
  · -- the entry stands behind it, and waits
    rcases hat.behind i e he hlt with ⟨hpending, -⟩ | ⟨hstate, -⟩
    · obtain ⟨d, hd, hrec⟩ := htaken.waiting i e he hpending
      obtain rfl := Option.some.inj (he'.symm.trans hd)
      have hout : e.record.findingId ∉ (relevant c t report).map (·.id) := by
        intro hin
        rw [if_pos hin] at hrec
        rw [hrec, hpending] at hresolved
        cases hresolved
      rw [if_neg hout] at hrec
      exact Or.inr ⟨hpending, by rw [hrec], hout⟩
    · exact absurd hstate hunresolved

end

/-! ### Following a session -/

/-- All that is resolved in a ledger has become so at one of some visits. -/
def Explained (c : Controller ε) (vs : List (Visit ε)) (l : Ledger) : Prop :=
  ∀ (i : Nat) (e' : LedgerEntry), l[i]? = some e' → e'.record.state = .resolved →
    ∃ v ∈ vs, ∃ e, v.Resolves c i e e'

section

variable {c : Controller ε} {id : FindingId} {vs us : List (Visit ε)} {l : Ledger}
  {s t : Session} {w u : World ε}

/-- Where nothing is resolved, there is nothing to explain. -/
theorem Explained.of_open (h : ∀ e ∈ l, e.record.state ≠ .resolved) : Explained c vs l :=
  fun _ _ he' hresolved => absurd hresolved (h _ (List.mem_of_getElem? he'))

/-- A change that leaves its finding unresolved. -/
theorem Explained.update (h : Explained c vs l) {g : LedgerEntry → LedgerEntry}
    (hg : ∀ e, (g e).record.state ≠ .resolved) : Explained c vs (l.update id g) := by
  intro i e' he' hresolved
  rw [Ledger.update, List.getElem?_map, Option.map_eq_some_iff] at he'
  obtain ⟨e, he, rfl⟩ := he'
  split at hresolved
  · exact absurd hresolved (hg e)
  · next hother =>
    rw [if_neg hother]
    exact h i e he hresolved

/-- Ending what is left resolves nothing. -/
theorem Explained.blockRemaining (h : Explained c vs l) : Explained c vs l.blockRemaining := by
  intro i e' he' hresolved
  rw [Ledger.blockRemaining, List.getElem?_map, Option.map_eq_some_iff] at he'
  obtain ⟨e, he, rfl⟩ := he'
  split at hresolved
  · next hterminal =>
    rw [if_pos hterminal]
    exact h i e he hresolved
  · cases hresolved

/-- A visit explains what it resolves; all else was explained before. -/
theorem Visit.Due.explained {v : Visit ε} (h : v.Due c id)
    (hl : Explained c us v.session.ledger) :
    Explained c (us ++ [v]) (v.result c).1.2.ledger := by
  intro i e' he' hresolved
  obtain ⟨e, he, -⟩ := h.turn.exists_before h.working h.inOrder he' hresolved
  by_cases hbefore : e.record.state = .resolved
  · obtain ⟨d, hd, hgrown⟩ := (h.turn.inOrder h.working h.inOrder).2 i e he
    obtain rfl := Option.some.inj (he'.symm.trans hd)
    obtain rfl : e' = e := hgrown.done (by rw [LedgerEntry.Done, hbefore]; rfl)
    obtain ⟨v', hv', d, hresolves⟩ := hl i e' he hresolved
    exact ⟨v', List.mem_append_left _ hv', d, hresolves⟩
  · exact ⟨v, List.mem_append_right _ List.mem_cons_self, e, he, he', hbefore, hresolved⟩

/-- The rounds made for a finding explain what they resolve. -/
theorem Attempted.explained {r : Except SessionFailure Unit} (h : Attempted c id s w vs r t u)
    (hw : s.ledger.Working id) (ho : s.ledger.InOrder c.budget)
    (hl : Explained c us s.ledger) : Explained c (us ++ vs) t.ledger := by
  induction h generalizing us with
  | spent hfind hnone htold =>
    rw [List.append_nil]
    exact hl.update fun e => (Session.spentState_ne_resolved e.record).1
  | unasked hfind hbudget hrequest => rwa [List.append_nil]
  | fatal hfind hbudget hresult =>
    have hexplained := Visit.Due.explained ⟨hw, ho, hfind⟩ hl
    rwa [hresult] at hexplained
  | settled hfind hbudget hresult =>
    have hexplained := Visit.Due.explained ⟨hw, ho, hfind⟩ hl
    rwa [hresult] at hexplained
  | again hfind hbudget hresult hrest ih =>
    have hdue : Visit.Due c id _ := ⟨hw, ho, hfind⟩
    obtain ⟨hw', ho', -⟩ := hdue.again hresult
    have hexplained := hdue.explained hl
    rw [hresult] at hexplained
    rw [List.append_cons]
    exact ih hw' ho' hexplained

/-- So do the repairs of all findings. -/
theorem Repaired.explained {ps : List (Repair ε)} {outcome : Except Overflow SessionOutcome}
    (h : Repaired c s w ps outcome t u) (hq : s.ledger.Queued) (ho : s.ledger.InOrder c.budget)
    (hl : Explained c us s.ledger) : Explained c (us ++ ps.flatMap (·.visits c)) t.ledger := by
  have htaken : ∀ {s : Session} {id us}, Explained c us s.ledger →
      Explained c us (s.taking id).ledger := fun hl => hl.update fun e heq => by cases heq
  induction h generalizing us with
  | done hnext htold => rwa [List.flatMap_nil, List.append_nil]
  | fatal hnext h htold =>
    obtain ⟨hw, ho', -⟩ := Session.working_taking hq ho hnext
    rw [List.flatMap_singleton]
    have hexplained := h.explained hw ho' (htaken hl)
    exact Session.of_ledger_ended _ hexplained hexplained.blockRemaining
  | next hnext h hrest ih =>
    obtain ⟨hw, ho', -⟩ := Session.working_taking hq ho hnext
    obtain ⟨horder, -, -, hend, -⟩ := h.ends hw ho'
    rw [List.flatMap_cons, ← List.append_assoc]
    exact ih (hend rfl).1 horder (h.explained hw ho' (htaken hl))

/-- At the beginning nothing is resolved. -/
theorem Session.explained_begun (hempty : s.ledger = []) (fs : List Finding) :
    Explained c [] (s.begun fs).ledger := by
  obtain ⟨-, -, hentered⟩ := queued_begun .zero hempty fs
  refine .of_open fun e he => ?_
  obtain ⟨i, hi⟩ := List.mem_iff_getElem?.1 he
  obtain ⟨f, hf, hrec⟩ := hentered.fresh i e hi rfl
  rw [hrec]
  exact FindingState.noConfusion

/-- And so does a whole session. -/
theorem Ran.explained {ps : List (Repair ε)} {outcome : Except Overflow SessionOutcome}
    (h : Ran c s w ps outcome t u) (hempty : s.ledger = []) :
    Explained c (ps.flatMap (·.visits c)) t.ledger := by
  cases h with
  | refused hinitial htold =>
    refine Explained.blockRemaining (.of_open ?_)
    simp [hempty]
  | started hinitial htold h =>
    obtain ⟨hqueued, horder, -⟩ := Session.queued_begun c.budget hempty _
    exact h.explained hqueued horder (Session.explained_begun hempty _)

end

namespace Session

variable {c : Controller ε} {s : Session} {w : World ε}

/-- **What a patch of its own has resolved is still reached.**  Every finding that is resolved
in the end has become so at a visit, by the report on the change of that visit.  If it was
resolved by a patch of its own, the report does not list its line as missed; if it went away
with the patch of another finding, it had waited and is not in the report. -/
theorem run_reaches (hempty : s.ledger = []) {i : Nat} {e' : LedgerEntry}
    (he' : ((run c s).run w).1.2.ledger[i]? = some e') (hresolved : e'.record.state = .resolved) :
    ∃ v ∈ visits c s w, ∃ e t u report, v.Resolves c i e e' ∧ v.trial? c = some (t, u) ∧
      reported? c t u = some report ∧
      (e'.record.resolvedBy = none → e = v.entry ∧
        ∃ shown, shownLocation t.target t.store e.finding.location = .ok shown ∧
          isListedMissed report shown = false) ∧
      ∀ id, e'.record.resolvedBy = some id → id = v.entry.record.findingId ∧
        e.record.state = .pending ∧ e.record.findingId ∉ (relevant c t report).map (·.id) := by
  obtain ⟨outcome, x, y, hrun, hran⟩ := ran_run (c := c) hempty w
  rw [hrun] at he'
  obtain ⟨v, hv, e, hresolves⟩ := hran.explained hempty i e' he' hresolved
  rw [← visits_eq] at hv
  obtain ⟨id, hdue⟩ := due_of_mem_visits hempty hv
  obtain ⟨t, u, report, htrial, hreport, hcases⟩ := hdue.resolves_cases hresolves
  refine ⟨v, hv, e, t, u, report, hresolves, htrial, hreport, ?_⟩
  rcases hcases with ⟨hentry, hnone, hreached⟩ | ⟨hpending, hby, hout⟩
  · refine ⟨fun _ => ⟨hentry, hreached⟩, fun id' hsome => ?_⟩
    rw [hnone] at hsome
    cases hsome
  · refine ⟨fun hnone => ?_, fun id' hsome => ⟨?_, hpending, hout⟩⟩
    · rw [hby] at hnone
      cases hnone
    · rw [hdue.id_eq]
      exact Option.some.inj (hsome.symm.trans hby)

theorem run_reaches_shading : smallSession.ledger = [] ∧ ∃ e' : LedgerEntry,
    ((run shadingController smallSession).run returningStart).1.2.ledger[0]? = some e' ∧
    e'.record.state = .resolved ∧ e'.record.resolvedBy = none ∧
    ∃ v ∈ visits shadingController smallSession returningStart, ∃ e t u report,
      v.Resolves shadingController 0 e e' ∧ v.trial? shadingController = some (t, u) ∧
      reported? shadingController t u = some report ∧ e = v.entry ∧
      ∃ shown, shownLocation t.target t.store e.finding.location = .ok shown ∧
        isListedMissed report shown = false := by
  obtain ⟨v, t, u, e', -, -, -, -, -, -, -, -, hend, hledger, hresolved, hnone⟩ := run_shading
  have he' : ((run shadingController smallSession).run returningStart).1.2.ledger[0]? =
      some e' := by
    rw [hend, hledger]
    rfl
  obtain ⟨v, hv, e, t, u, report, hresolves, htrial, hreport, hdirect, -⟩ :=
    run_reaches rfl he' hresolved
  obtain ⟨hentry, hreached⟩ := hdirect hnone
  exact ⟨rfl, e', he', hresolved, hnone, v, hv, e, t, u, report, hresolves, htrial, hreport,
    hentry, hreached⟩

/-- A finding that goes away with the patch of another one may have become unreachable. -/
theorem not_reached_shading :
    ¬ ∀ (c : Controller Nat) (s : Session) (w : World Nat), c.mode = .errors → s.ledger = [] →
      ∀ v ∈ visits c s w, ∀ i e e', v.Resolves c i e e' → ∀ t u report,
        v.trial? c = some (t, u) → reported? c t u = some report →
          ∀ shown, shownLocation t.target t.store e.finding.location = .ok shown →
            isListedMissed report shown = false := by
  intro hall
  obtain ⟨v, t, u, d, hmem, -, hwaits, htrial, htarget, -, hreport, -, -, hledger, -⟩ :=
    run_shading
  have hresolves : v.Resolves shadingController 1 ⟨{ findingId := farFinding.id }, farFinding⟩
      ⟨{ findingId := farFinding.id, state := .resolved, resolvedBy := some nearFinding.id },
        farFinding⟩ := by
    refine ⟨hwaits, ?_, FindingState.noConfusion, rfl⟩
    rw [hledger]
    rfl
  have hshown : shownLocation t.target t.store farFinding.location = .ok ⟨"p", "f", 1⟩ := by
    have hout : farFinding.location.isIn t.target.harnessFile = false := by
      rw [htarget]
      decide
    rw [shownLocation, hout]
    rfl
  have hreached := hall _ _ _ rfl rfl v hmem 1 _ _ hresolves t u _ htrial hreport _ hshown
  rw [isListedMissed_shaded, decide_eq_true rfl] at hreached
  cases hreached

end Session

end HarnessRepair
