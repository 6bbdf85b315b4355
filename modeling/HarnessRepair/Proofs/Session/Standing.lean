import HarnessRepair.Proofs.Budget.Clamp
import HarnessRepair.Proofs.Session.Books

/-!
# How a finding stands

What is written of a finding depends on its state alone: one that waits has cost
nothing, one that is worked on has only failed so far, and one that is given up has
spent its budget.  So the state can be read off the books again.

## Main definitions

* `AttemptRecord.Standing` — what is written of a finding, by its state.

## Main results

* `AttemptRecord.Standing.fail`, `resolve`, `settle`, `giveUp` — it stays right
  whatever becomes of the finding.
* `AttemptRecord.Standing.exhausted_iff`, `blocked_iff` — **how the books decide
  between the two ways of giving a finding up.**
-/

namespace HarnessRepair

namespace AttemptRecord

/-- What is written of a finding under the budget `b`, by its state. -/
structure Standing (b : Attempts) (r : AttemptRecord) : Prop where
  balanced : r.Balanced b
  /-- A finding that waits has cost nothing. -/
  pending : r.state = .pending → r.resolvedBy = none ∧ r.Untried
  /-- One that is worked on has only failed so far. -/
  inProgress : r.state = .inProgress → r.resolvedBy = none ∧ ∀ a ∈ r.history, a.cause ≠ none
  /-- One that was resolved by a patch of its own has statements, and the last round was
  the one that resolved it. -/
  direct : r.state = .resolved → r.resolvedBy = none →
    r.keptStatements ≠ [] ∧ r.lastCause? = none
  /-- One that went away with another has cost nothing. -/
  indirect : r.resolvedBy ≠ none → r.state = .resolved ∧ r.Untried
  exhausted : r.state = .exhausted → r.attemptsSpent = b ∧ r.lastCause? = some .notResolved
  blocked : r.state = .blocked → r.attemptsSpent = b ∧
    (b ≠ .zero → ∃ cause, r.lastCause? = some cause ∧ cause ≠ .notResolved)

theorem Untried.lastCause? {r : AttemptRecord} (h : r.Untried) : r.lastCause? = none := by
  rw [AttemptRecord.lastCause?, h.2]
  rfl

/-- The cause of the round that has just been charged is the last one. -/
theorem lastCause?_charge (r : AttemptRecord) (cause : Option FailureCause)
    (statements : List String) (b : Attempts) :
    (r.charge cause statements b).lastCause? = cause := by
  rw [AttemptRecord.lastCause?, history_charge, List.getLast?_concat]
  rfl

variable {b : Attempts} {r : AttemptRecord}

theorem standing_new (b : Attempts) (id : FindingId) : Standing b { findingId := id } where
  balanced := Untried.balanced ⟨rfl, rfl⟩
  pending := fun _ => ⟨rfl, rfl, rfl⟩
  inProgress := fun h => by cases h
  direct := fun h => by cases h
  indirect := fun h => absurd rfl h
  exhausted := fun h => by cases h
  blocked := fun h => by cases h

/-! ### What becomes of a finding -/

namespace Standing

/-- Counters do not matter. -/
theorem recount (h : Standing b r) (runs : UInt32) (usage : TokenUsage) :
    Standing b { r with verifierRuns := runs, usage := usage } :=
  ⟨⟨h.balanced.spent_eq, h.balanced.clamped⟩, h.pending, h.inProgress, h.direct, h.indirect,
    h.exhausted, h.blocked⟩

theorem begin (h : Standing b r) (hs : r.state = .pending) :
    Standing b { r with state := .inProgress } where
  balanced := ⟨h.balanced.spent_eq, h.balanced.clamped⟩
  pending := fun h' => by cases h'
  inProgress := by
    intro _
    obtain ⟨hby, -, hnone⟩ := h.pending hs
    refine ⟨hby, fun a ha => ?_⟩
    change a ∈ r.history at ha
    rw [hnone] at ha
    cases ha
  direct := fun h' => by cases h'
  indirect := fun hby => absurd (h.pending hs).1 hby
  exhausted := fun h' => by cases h'
  blocked := fun h' => by cases h'

/-- A round that has failed leaves the finding at work. -/
theorem fail (h : Standing b r) (hs : r.state = .inProgress) (cause : FailureCause)
    (statements : List String) : Standing b (r.charge (some cause) statements b) := by
  have hstate : (r.charge (some cause) statements b).state = .inProgress := hs
  obtain ⟨hby, hfailed⟩ := h.inProgress hs
  refine
    { balanced := h.balanced.charge _ _
      pending := fun h' => by rw [hstate] at h'; cases h'
      inProgress := fun _ => ⟨hby, ?_⟩
      direct := fun h' => by rw [hstate] at h'; cases h'
      indirect := fun hby' => absurd hby hby'
      exhausted := fun h' => by rw [hstate] at h'; cases h'
      blocked := fun h' => by rw [hstate] at h'; cases h' }
  intro a ha
  rw [history_charge] at ha
  rcases List.mem_append.1 ha with ha | ha
  · exact hfailed a ha
  · rw [List.mem_singleton.1 ha]
    exact Option.some_ne_none _

/-- The round that resolves the finding. -/
theorem resolve (h : Standing b r) (hs : r.state = .inProgress) {statements : List String}
    (hne : statements ≠ []) :
    Standing b { r.charge none statements b with
      state := .resolved
      keptStatements := statements } where
  balanced :=
    have hcharged := h.balanced.charge none statements
    ⟨hcharged.spent_eq, hcharged.clamped⟩
  pending := fun h' => by cases h'
  inProgress := fun h' => by cases h'
  direct := fun _ _ => ⟨hne, lastCause?_charge r none statements b⟩
  indirect := fun hby => absurd (h.inProgress hs).1 hby
  exhausted := fun h' => by cases h'
  blocked := fun h' => by cases h'

/-- A finding that waits goes away with another. -/
theorem settle (h : Standing b r) (hs : r.state = .pending) (resolver : FindingId) :
    Standing b { r with state := .resolved, resolvedBy := some resolver } where
  balanced := ⟨h.balanced.spent_eq, h.balanced.clamped⟩
  pending := fun h' => by cases h'
  inProgress := fun h' => by cases h'
  direct := fun _ h' => by cases h'
  indirect := fun _ => ⟨rfl, (h.pending hs).2⟩
  exhausted := fun h' => by cases h'
  blocked := fun h' => by cases h'

/-- A finding whose budget is spent is given up. -/
theorem giveUp (h : Standing b r) (hs : r.state = .inProgress) (hnone : ¬ r.hasBudget b = true) :
    Standing b { r with state := Session.spentState r } := by
  have hspent := h.balanced.spent_of_not_hasBudget hnone
  obtain ⟨hby, hfailed⟩ := h.inProgress hs
  have hterminal := (Session.spentState_ne_resolved r).2
  refine
    { balanced := ⟨h.balanced.spent_eq, h.balanced.clamped⟩
      pending := fun h' => by
        rw [show Session.spentState r = _ from h'] at hterminal; cases hterminal
      inProgress := fun h' => by
        rw [show Session.spentState r = _ from h'] at hterminal; cases hterminal
      direct := fun h' => absurd h' (Session.spentState_ne_resolved r).1
      indirect := fun hby' => absurd hby hby'
      exhausted := fun h' => ⟨hspent, ?_⟩
      blocked := fun h' => ⟨hspent, fun hb => ?_⟩ }
  · change Session.spentState r = .exhausted at h'
    rw [Session.spentState] at h'
    split at h'
    · next hlast => exact hlast
    · cases h'
  · -- a budget that is not zero has been spent in a round, and every round has failed
    have hlast : ∃ cause, r.lastCause? = some cause := by
      cases hhistory : r.history.getLast? with
      | none =>
        have huntried := h.balanced.untried_of_history (List.getLast?_eq_none_iff.1 hhistory)
        exact absurd (hspent.symm.trans huntried.1) hb
      | some a =>
        have hcause := hfailed a (List.mem_of_getLast? hhistory)
        obtain ⟨cause, hcause⟩ := Option.ne_none_iff_exists'.1 hcause
        exact ⟨cause, by rw [AttemptRecord.lastCause?, hhistory]; exact hcause⟩
    obtain ⟨cause, hlast⟩ := hlast
    refine ⟨cause, hlast, ?_⟩
    rintro rfl
    change Session.spentState r = .blocked at h'
    rw [Session.spentState, hlast] at h'
    cases h'

/-! ### The verdict on a finding -/

/-- A finding that is done with is exhausted exactly if the budget is spent and the verifier
still reported it in the end. -/
theorem exhausted_iff (h : Standing b r) (hb : b ≠ .zero) (ht : r.state.isTerminal = true) :
    r.state = .exhausted ↔ r.attemptsSpent = b ∧ r.lastCause? = some .notResolved := by
  refine ⟨h.exhausted, ?_⟩
  rintro ⟨-, hlast⟩
  cases hs : r.state with
  | pending => rw [hs] at ht; cases ht
  | inProgress => rw [hs] at ht; cases ht
  | exhausted => rfl
  | resolved =>
    by_cases hby : r.resolvedBy = none
    · rw [(h.direct hs hby).2] at hlast
      cases hlast
    · rw [(h.indirect hby).2.lastCause?] at hlast
      cases hlast
  | blocked =>
    obtain ⟨cause, hlast', hne⟩ := (h.blocked hs).2 hb
    rw [hlast] at hlast'
    exact absurd (Option.some.inj hlast').symm hne

/-- It is blocked exactly if the budget is spent and the last round did not get as far as a
verdict. -/
theorem blocked_iff (h : Standing b r) (hb : b ≠ .zero) (ht : r.state.isTerminal = true) :
    r.state = .blocked ↔
      r.attemptsSpent = b ∧ ∃ cause, r.lastCause? = some cause ∧ cause.cost = .half := by
  constructor
  · intro hs
    obtain ⟨hspent, hlast⟩ := h.blocked hs
    obtain ⟨cause, hlast, hne⟩ := hlast hb
    refine ⟨hspent, cause, hlast, ?_⟩
    rcases cause.cost_cases with ⟨heq, -⟩ | ⟨-, hcost⟩
    · exact absurd heq hne
    · exact hcost
  · rintro ⟨-, cause, hlast, hcost⟩
    cases hs : r.state with
    | pending => rw [hs] at ht; cases ht
    | inProgress => rw [hs] at ht; cases ht
    | blocked => rfl
    | resolved =>
      by_cases hby : r.resolvedBy = none
      · rw [(h.direct hs hby).2] at hlast
        cases hlast
      · rw [(h.indirect hby).2.lastCause?] at hlast
        cases hlast
    | exhausted =>
      rw [(h.exhausted hs).2] at hlast
      obtain rfl := Option.some.inj hlast
      cases hcost

end Standing

end AttemptRecord

end HarnessRepair
