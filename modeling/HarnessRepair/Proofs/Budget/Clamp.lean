import HarnessRepair.Budget.Record
import Mathlib.Algebra.BigOperators.Group.List.Basic
import Mathlib.Algebra.GroupWithZero.Nat

/-!
# What a record has spent

Every round is written down with what it was charged.  As long as the charges come
from one ceiling, they add up to what the rounds cost nominally, cut off at the
ceiling, and no sum of them leaves the 32 bits it is kept in.  So the sum does not depend
on the order of the rounds, and each of them is charged what it adds to the minimum,
which is nothing once the ceiling is reached.

## Main definitions

* `AttemptEntry.nominal`, `AttemptRecord.nominal` — the cost of a round, and of all
  rounds, before anything is cut off.
* `AttemptRecord.Balanced` — a record whose books are right.
* `Charge`, `AttemptRecord.chargeAll` — rounds, and how they are charged in a row.
* `nominalCosts`, `clampedCosts` — what they cost, before and after the cut.
* `AttemptRecord.Tallies` — what a record says of the rounds charged to it.

## Main results

* `AttemptRecord.Balanced.charge` — **charging a round keeps the books right.**
* `AttemptRecord.Balanced.hasBudget_iff` — budget is left exactly below the ceiling.
* `AttemptRecord.history_chargeAll` — what is written down for each round.
* `AttemptRecord.Untried.tallies` — a record tallies after fewer than 2³² rounds.
* `AttemptRecord.chargeAll_clamped` — **the ledger is a clamped sum.**
-/

namespace HarnessRepair

/-! ### Costs -/

namespace Attempts

theorem eq_of_halves {a b : Attempts} (h : a.halves.toNat = b.halves.toNat) : a = b := by
  obtain ⟨a⟩ := a
  obtain ⟨b⟩ := b
  exact congrArg Attempts.mk (UInt32.toNat_inj.1 h)

theorem isLess_eq_true_iff {a b : Attempts} :
    a.isLess b = true ↔ a.halves.toNat < b.halves.toNat := by
  rw [isLess, decide_eq_true_iff, UInt32.lt_iff_toNat_lt]

end Attempts

/-- A failure costs a half or a full attempt. -/
theorem FailureCause.cost_cases (c : FailureCause) :
    c = .notResolved ∧ c.cost = .full ∨ c ≠ .notResolved ∧ c.cost = .half := by
  cases c with
  | notResolved => exact Or.inl ⟨rfl, rfl⟩
  | _ => exact Or.inr ⟨by simp, rfl⟩

theorem FailureCause.one_le_cost (c : FailureCause) : 1 ≤ c.cost.halves.toNat := by
  rcases c.cost_cases with ⟨-, h⟩ | ⟨-, h⟩ <;> rw [h] <;> decide

/-- What a round costs before the ceiling cuts anything off: the cost of its cause, and a
full attempt without one. -/
def nominalCost (cause : Option FailureCause) : Nat :=
  ((cause.map FailureCause.cost).getD .full).halves.toNat

/-- The nominal cost of a round that has been written down. -/
def AttemptEntry.nominal (a : AttemptEntry) : Nat := nominalCost a.cause

/-- A round that is over: why it failed, if it did, and what was tried in it. -/
structure Charge where
  cause : Option FailureCause
  statements : List String := []
  deriving DecidableEq, Repr

/-- What some rounds cost before the ceiling cuts anything off, in halves. -/
def nominalCosts (cs : List Charge) : Nat := (cs.map fun c => nominalCost c.cause).sum

/-- What they cost under a ceiling, in halves. -/
def clampedCosts (b : Attempts) (cs : List Charge) : Nat := min b.halves.toNat (nominalCosts cs)

theorem nominalCosts_append (cs ds : List Charge) :
    nominalCosts (cs ++ ds) = nominalCosts cs + nominalCosts ds := by
  rw [nominalCosts, List.map_append, List.sum_append]
  rfl

theorem nominalCosts_perm {cs ds : List Charge} (h : cs.Perm ds) :
    nominalCosts cs = nominalCosts ds :=
  (h.map _).sum_eq

/-- A round costs a half or a full attempt. -/
theorem one_le_nominalCost (cause : Option FailureCause) : 1 ≤ nominalCost cause := by
  cases cause with
  | none => decide
  | some c => exact c.one_le_cost

/-! ### Books -/

namespace AttemptRecord

variable {b : Attempts} {r : AttemptRecord}

/-- The nominal cost of all rounds, in halves. -/
def nominal (r : AttemptRecord) : Nat := (r.history.map (·.nominal)).sum

/-- The books of a record are right under a ceiling. -/
structure Balanced (b : Attempts) (r : AttemptRecord) : Prop where
  /-- What is spent is what the rounds were charged. -/
  spent_eq : r.attemptsSpent.halves.toNat = (r.history.map (·.cost.halves.toNat)).sum
  /-- That is what they cost nominally, cut off at the ceiling. -/
  clamped : r.attemptsSpent.halves.toNat = min b.halves.toNat r.nominal

theorem Balanced.le (h : Balanced b r) : r.attemptsSpent.halves.toNat ≤ b.halves.toNat := by
  have hclamped := h.clamped
  omega

/-- Budget is left as long as the nominal costs are below the ceiling. -/
theorem Balanced.hasBudget_iff (h : Balanced b r) :
    r.hasBudget b = true ↔ r.nominal < b.halves.toNat := by
  rw [hasBudget, Attempts.isLess_eq_true_iff, h.clamped]
  omega

/-- Without budget, the ceiling is spent. -/
theorem Balanced.spent_of_not_hasBudget (h : Balanced b r) (hnone : ¬ r.hasBudget b = true) :
    r.attemptsSpent = b := by
  rw [h.hasBudget_iff] at hnone
  refine Attempts.eq_of_halves ?_
  rw [h.clamped]
  omega

/-- A record under which nothing has been tried. -/
def Untried (r : AttemptRecord) : Prop := r.attemptsSpent = .zero ∧ r.history = []

theorem Untried.nominal_eq (h : Untried r) : r.nominal = 0 := by
  rw [nominal, h.2]
  rfl

theorem Untried.balanced (h : Untried r) : Balanced b r where
  spent_eq := by
    rw [h.1, h.2]
    rfl
  clamped := by
    rw [h.nominal_eq, h.1]
    simp

theorem nominal_charge (cause : Option FailureCause) (statements : List String) :
    (r.charge cause statements b).nominal = r.nominal + nominalCost cause := by
  rw [nominal, history_charge, List.map_append, List.sum_append]
  rfl

/-- What a round is charged, in halves. -/
theorem chargeFor_halves (cause : Option FailureCause) :
    (r.chargeFor cause b).halves.toNat =
      min (nominalCost cause) (b.halves.toNat - r.attemptsSpent.halves.toNat) := by
  rw [chargeFor, Attempts.halves_min, Attempts.halves_minus]
  rfl

/-- **Charging a round keeps the books right.** -/
theorem Balanced.charge (h : Balanced b r) (cause : Option FailureCause)
    (statements : List String) : Balanced b (r.charge cause statements b) := by
  have hle := h.le
  have hfits := b.halves.toNat_lt
  have hspent : (r.charge cause statements b).attemptsSpent.halves.toNat =
      r.attemptsSpent.halves.toNat + (r.chargeFor cause b).halves.toNat := by
    change (r.attemptsSpent + r.chargeFor cause b).halves.toNat = _
    rw [Attempts.halves_plus, UInt32.toNat_add, chargeFor_halves]
    omega
  constructor
  · rw [hspent, h.spent_eq, history_charge, List.map_append, List.sum_append]
    rfl
  · have hclamped := h.clamped
    rw [hspent, chargeFor_halves, nominal_charge]
    omega

/-- A record is untried as long as no round is written down. -/
theorem Balanced.untried_of_history (h : Balanced b r) (hnone : r.history = []) : Untried r := by
  refine ⟨Attempts.eq_of_halves ?_, hnone⟩
  rw [h.spent_eq, hnone]
  rfl

/-! ### Rounds in a row -/

/-- The record after some rounds, charged one after the other under one ceiling. -/
def chargeAll (b : Attempts) (r : AttemptRecord) (cs : List Charge) : AttemptRecord :=
  cs.foldl (fun r c => r.charge c.cause c.statements b) r

/-- What is written down for a round that is charged next. -/
def nextEntry (b : Attempts) (r : AttemptRecord) (c : Charge) : AttemptEntry :=
  ⟨nextNumber r.history.length, r.chargeFor c.cause b, c.cause, c.statements⟩

theorem chargeAll_cons (c : Charge) (cs : List Charge) :
    r.chargeAll b (c :: cs) = (r.charge c.cause c.statements b).chargeAll b cs := rfl

/-- Any number of rounds keeps the books right. -/
theorem Balanced.chargeAll (h : Balanced b r) (cs : List Charge) :
    Balanced b (r.chargeAll b cs) := by
  induction cs generalizing r with
  | nil => exact h
  | cons c cs ih => exact ih (h.charge c.cause c.statements)

theorem nominal_chargeAll (cs : List Charge) :
    (r.chargeAll b cs).nominal = r.nominal + nominalCosts cs := by
  induction cs generalizing r with
  | nil => rfl
  | cons c cs ih =>
    rw [chargeAll_cons, ih, nominal_charge, Nat.add_assoc]
    rfl

/-- Each round is written down as the next one after those before it. -/
theorem history_chargeAll (cs : List Charge) :
    (r.chargeAll b cs).history =
      r.history ++ cs.mapIdx fun i c => nextEntry b (r.chargeAll b (cs.take i)) c := by
  induction cs generalizing r with
  | nil => exact (List.append_nil _).symm
  | cons c cs ih =>
    rw [chargeAll_cons, ih, history_charge, List.mapIdx_cons, List.append_assoc]
    rfl

theorem length_history_chargeAll (cs : List Charge) :
    (r.chargeAll b cs).history.length = r.history.length + cs.length := by
  rw [history_chargeAll, List.length_append, List.length_mapIdx]

/-! ### From a record without rounds -/

/-- What is spent after some rounds. -/
theorem Untried.spent_chargeAll (h : r.Untried) (cs : List Charge) :
    (r.chargeAll b cs).attemptsSpent.halves.toNat = clampedCosts b cs := by
  rw [(h.balanced.chargeAll cs).clamped, nominal_chargeAll, h.nominal_eq, Nat.zero_add]
  rfl

/-- The next round adds to the minimum what it is charged. -/
theorem Untried.chargeFor_chargeAll (h : r.Untried) (cs : List Charge) (c : Charge) :
    clampedCosts b cs + ((r.chargeAll b cs).chargeFor c.cause b).halves.toNat =
      clampedCosts b (cs ++ [c]) := by
  have hcost : nominalCosts [c] = nominalCost c.cause := Nat.add_zero _
  rw [chargeFor_halves, h.spent_chargeAll, clampedCosts, clampedCosts, nominalCosts_append, hcost]
  omega

/-- What a record says of the rounds that were charged to it under a ceiling. -/
structure Tallies (b : Attempts) (cs : List Charge) (r : AttemptRecord) : Prop where
  /-- What is spent is what they cost nominally, cut off at the ceiling. -/
  spent_eq : r.attemptsSpent.halves.toNat = clampedCosts b cs
  /-- Nothing but the rounds is written down. -/
  length_eq : r.history.length = cs.length
  /-- Each of them is, under its place in the row, which is a 32-bit number, and with what it
  has added to the minimum. -/
  entry : ∀ (i : Nat) (c : Charge), cs[i]? = some c → ∃ e, r.history[i]? = some e ∧
    e.number = i + 1 ∧ e.number < 2 ^ 32 ∧
    clampedCosts b (cs.take i) + e.cost.halves.toNat = clampedCosts b (cs.take (i + 1)) ∧
    e.cause = c.cause ∧ e.statements = c.statements
  /-- Budget is left exactly as long as the nominal costs are below the ceiling. -/
  hasBudget_iff : r.hasBudget b = true ↔ nominalCosts cs < b.halves.toNat
  /-- Then the next round costs at least a half. -/
  next_cost : r.hasBudget b = true → ∀ cause, 1 ≤ (r.chargeFor cause b).halves.toNat
  /-- Whatever it costs, the sum is a 32-bit number. -/
  next_fits : ∀ cause,
    r.attemptsSpent.halves.toNat + (r.chargeFor cause b).halves.toNat < 2 ^ 32

/-- **A record tallies after fewer than 2³² rounds.** -/
theorem Untried.tallies (h : r.Untried) {cs : List Charge} (hfew : cs.length < 2 ^ 32) :
    Tallies b cs (r.chargeAll b cs) := by
  have hbalanced : Balanced b (r.chargeAll b cs) := h.balanced.chargeAll cs
  have hnominal : (r.chargeAll b cs).nominal = nominalCosts cs := by
    rw [nominal_chargeAll, h.nominal_eq, Nat.zero_add]
  have hlength : ∀ ds, (r.chargeAll b ds).history.length = ds.length := by
    intro ds
    rw [length_history_chargeAll, h.2, List.length_nil, Nat.zero_add]
  constructor
  case spent_eq => exact h.spent_chargeAll cs
  case length_eq => exact hlength cs
  case entry =>
    intro i c hc
    obtain ⟨hi, rfl⟩ := List.getElem?_eq_some_iff.1 hc
    have hwritten : (r.chargeAll b cs).history[i]? =
        some (nextEntry b (r.chargeAll b (cs.take i)) cs[i]) := by
      rw [history_chargeAll, h.2, List.nil_append, List.getElem?_mapIdx, hc]
      rfl
    have hnumber : (nextEntry b (r.chargeAll b (cs.take i)) cs[i]).number = i + 1 := by
      rw [nextEntry, hlength, List.length_take_of_le (Nat.le_of_lt hi)]
      exact Nat.min_eq_left (by omega)
    refine ⟨_, hwritten, hnumber, by omega, ?_, rfl, rfl⟩
    rw [← List.take_append_getElem hi]
    exact h.chargeFor_chargeAll (cs.take i) cs[i]
  case hasBudget_iff => rw [hbalanced.hasBudget_iff, hnominal]
  case next_cost =>
    intro hleft cause
    have hbelow := hbalanced.hasBudget_iff.1 hleft
    have hone := one_le_nominalCost cause
    rw [chargeFor_halves, hbalanced.clamped]
    omega
  case next_fits =>
    intro cause
    have hle := hbalanced.le
    have hceiling := b.halves.toNat_lt
    rw [chargeFor_halves]
    omega

/-- **The ledger is a clamped sum.**  A new record tallies after each of fewer than 2³² rounds
under one ceiling, and what is spent in the end does not depend on their order. -/
theorem chargeAll_clamped (b : Attempts) (id : FindingId) {cs : List Charge}
    (hfew : cs.length < 2 ^ 32) :
    (∀ n, Tallies b (cs.take n) (chargeAll b { findingId := id } (cs.take n))) ∧
    ∀ ds, ds.Perm cs → (chargeAll b { findingId := id } ds).attemptsSpent =
      (chargeAll b { findingId := id } cs).attemptsSpent := by
  have hnew : Untried { findingId := id } := ⟨rfl, rfl⟩
  constructor
  · intro n
    have hlength : (cs.take n).length ≤ cs.length := List.length_take_le' n cs
    exact hnew.tallies (by omega)
  · intro ds hperm
    refine Attempts.eq_of_halves ?_
    rw [hnew.spent_chargeAll, hnew.spent_chargeAll, clampedCosts, clampedCosts,
      nominalCosts_perm hperm]

/-- Three rounds under a ceiling of one and a half attempts, which the second reaches. -/
theorem chargeAll_clamped_oddCeiling :
    let cs : List Charge := [⟨some (.oracleFailed "x"), []⟩, ⟨some .notResolved, ["a"]⟩, ⟨none, []⟩]
    let new : AttemptRecord := { findingId := ⟨⟨7⟩⟩ }
    cs.length < 2 ^ 32 ∧ Tallies ⟨3⟩ (cs.take 2) (new.chargeAll ⟨3⟩ (cs.take 2)) ∧
      cs.reverse.Perm cs ∧
      (new.chargeAll ⟨3⟩ cs.reverse).attemptsSpent = (new.chargeAll ⟨3⟩ cs).attemptsSpent ∧
      (new.chargeAll ⟨3⟩ cs).attemptsSpent = ⟨3⟩ ∧
      (new.chargeAll ⟨3⟩ cs).history.map (·.cost) = [⟨1⟩, ⟨2⟩, ⟨0⟩] ∧
      (new.chargeAll ⟨3⟩ cs.reverse).history.map (·.cost) = [⟨2⟩, ⟨1⟩, ⟨0⟩] := by
  intro cs new
  have hfew : cs.length < 2 ^ 32 := by decide
  obtain ⟨htallies, horder⟩ := chargeAll_clamped ⟨3⟩ ⟨⟨7⟩⟩ hfew
  have hperm : cs.reverse.Perm cs := List.reverse_perm cs
  exact ⟨hfew, htallies 2, hperm, horder _ hperm, by decide, by decide, by decide⟩

end AttemptRecord

end HarnessRepair
