import HarnessRepair.Proofs.Session.Acceptance
import HarnessRepair.Proofs.Session.Spending
import HarnessRepair.Summary.Session
import Mathlib.Algebra.BigOperators.Group.List.Basic
import Mathlib.Algebra.Group.Prod
import Mathlib.Data.UInt

/-!
# What a session and its findings count

Runs of the verifier and tokens are counted twice: for the session, and for the finding
that they are spent on.  What the session counts beyond its findings is the first run of
the verifier alone, whatever becomes of its rounds.

## Main definitions

* `Session.counts`, `AttemptRecord.counts` — what is counted, in words.
* `Session.excess` — what a session counts beyond its findings.
* `SessionReport.Accounted` — a report whose sums are right.

## Main results

* `Visit.Due.excess_eq` — **a round counts the same for the session and its finding.**
* `Ran.excess_eq` — so a whole session does, but for its first verification.
* `Ran.accounted` — **the report of every session that has an outcome is accounted.**
-/

namespace HarnessRepair

variable {ε : Type}

/-! ### Counts -/

/-- Runs of the verifier, and the tokens read and written by the oracle. -/
abbrev Counts := UInt32 × UInt64 × UInt64

/-- What is counted for a finding. -/
def AttemptRecord.counts (r : AttemptRecord) : Counts :=
  (r.verifierRuns, r.usage.input, r.usage.output)

/-- What is counted for all findings. -/
def Ledger.counts (l : Ledger) : Counts := (l.map fun e => e.record.counts).sum

/-- What is counted for a session. -/
def Session.counts (s : Session) : Counts := (s.verifierRuns, s.usage.input, s.usage.output)

/-- What a session counts beyond its findings. -/
def Session.excess (s : Session) : Counts := s.counts - s.ledger.counts

namespace Ledger

open LedgerEntry

variable {id : FindingId} {l : Ledger}

/-- A change of entries that leaves their counts alone. -/
theorem counts_map {g : LedgerEntry → LedgerEntry}
    (hg : ∀ e, (g e).record.counts = e.record.counts) : counts (l.map g) = l.counts := by
  rw [counts, counts, List.map_map]
  exact congrArg List.sum (List.map_congr_left fun e _ => hg e)

theorem counts_update {g : LedgerEntry → LedgerEntry}
    (hg : ∀ e, (g e).record.counts = e.record.counts) (id : FindingId) :
    (l.update id g).counts = l.counts := by
  refine counts_map fun e => ?_
  split
  · exact hg e
  · rfl

theorem counts_updateRecord {f : AttemptRecord → AttemptRecord}
    (hf : ∀ r, (f r).counts = r.counts) (id : FindingId) :
    (l.updateRecord id f).counts = l.counts :=
  counts_update (fun e => hf e.record) id

theorem counts_settle (resolver : FindingId) (present : List FindingId) :
    (l.settle resolver present).counts = l.counts := by
  refine counts_map fun e => ?_
  split <;> rfl

theorem counts_blockRemaining : l.blockRemaining.counts = l.counts := by
  refine counts_map fun e => ?_
  split <;> rfl

theorem counts_observe (f : Finding) : (l.observe f).counts = l.counts :=
  counts_update (g := fun e => { e with finding := f }) (fun _ => rfl) f.id

/-- A finding that is queued has cost nothing. -/
theorem counts_track (f : Finding) : (l.track f).counts = l.counts := by
  rw [track]
  cases l.find? f.id with
  | some e => exact counts_observe f
  | none =>
    dsimp only
    rw [counts, List.map_append, List.sum_append]
    exact add_zero _

theorem counts_enter (f : Finding) : (l.enter f).counts = l.counts := by
  rw [enter]
  split
  · split
    · rfl
    · exact counts_observe f
  · exact counts_track f

theorem counts_foldl_enter (fs : List Finding) : (fs.foldl enter l).counts = l.counts := by
  induction fs generalizing l with
  | nil => rfl
  | cons f fs ih => exact ih.trans (counts_enter f)

theorem counts_foldl_track (fs : List Finding) : (fs.foldl track l).counts = l.counts := by
  induction fs generalizing l with
  | nil => rfl
  | cons f fs ih => exact ih.trans (counts_track f)

/-- What is counted for the finding at work is counted once. -/
theorem Working.counts_add (h : Working id l) {f : AttemptRecord → AttemptRecord}
    {d : Counts} (hf : ∀ r, (f r).counts = r.counts + d) :
    (l.updateRecord id f).counts = l.counts + d := by
  obtain ⟨k, e, hat⟩ := h.atWork
  obtain ⟨hlt, hget⟩ := List.getElem?_eq_some_iff.1 hat.entry
  have hplace : k < (l.map fun e => e.record.counts).length := by rwa [List.length_map]
  rw [Ledger.updateRecord, hat.update_eq, counts, counts, List.map_set, List.sum_set',
    dif_pos hplace, List.getElem_map, hget]
  dsimp only
  rw [hf, neg_add_cancel_left]

end Ledger

/-! ### Rounds -/

namespace Session

open Ledger

variable {c : Controller ε} {s : Session} {id : FindingId}

theorem excess_congr {t : Session} (hcounts : t.counts = s.counts)
    (hledger : t.ledger.counts = s.ledger.counts) : t.excess = s.excess := by
  rw [excess, excess, hcounts, hledger]

theorem excess_charged (cause : Option FailureCause) (statements : List String) :
    (charged c s id cause statements).excess = s.excess :=
  excess_congr rfl (counts_updateRecord (f := fun r => r.charge cause statements c.budget)
    (fun _ => rfl) id)

theorem excess_givenUp : (s.givenUp id).excess = s.excess :=
  excess_congr rfl (counts_updateRecord (f := fun r => { r with state := spentState r })
    (fun _ => rfl) id)

theorem excess_taking : (s.taking id).excess = s.excess :=
  excess_congr rfl (counts_updateRecord (f := fun r => { r with state := .inProgress })
    (fun _ => rfl) id)

theorem excess_resolvedBy (statements : List String) :
    (s.resolvedBy id statements).excess = s.excess :=
  excess_congr rfl (counts_updateRecord
    (f := fun r => { r with state := .resolved, keptStatements := statements }) (fun _ => rfl) id)

theorem excess_absorbed (others : List Finding) : (s.absorbed id others).excess = s.excess :=
  excess_congr rfl ((counts_foldl_enter others).trans (counts_settle id _))

theorem excess_blockRemaining :
    ({ s with ledger := s.ledger.blockRemaining } : Session).excess = s.excess :=
  excess_congr rfl counts_blockRemaining

theorem excess_ended (failure : SessionFailure) : (s.ended failure).2.excess = s.excess := by
  cases failure with
  | overflow o => rfl
  | infrastructure e | parse e | patch e => exact excess_blockRemaining

theorem excess_noted (seen : Option Finding) : (s.noted seen).excess = s.excess := by
  cases seen with
  | none => rfl
  | some f => exact excess_congr rfl (counts_observe f)

/-- Tokens are counted for the session and for the finding. -/
theorem excess_addUsage (h : Working id s.ledger) (usage : TokenUsage) :
    (s.addUsage id usage).excess = s.excess := by
  have hledger : (s.addUsage id usage).ledger.counts =
      s.ledger.counts + (0, usage.input, usage.output) := by
    refine h.counts_add (f := fun r => { r with usage := r.usage + usage }) fun r => ?_
    exact Prod.ext (add_zero r.verifierRuns).symm rfl
  have hcounts : (s.addUsage id usage).counts = s.counts + (0, usage.input, usage.output) :=
    Prod.ext (add_zero s.verifierRuns).symm rfl
  rw [excess, excess, hledger, hcounts, add_sub_add_right_eq_sub]

/-- So is a run of the verifier. -/
theorem excess_verified (h : Working id s.ledger) : (s.verified id).excess = s.excess := by
  have hledger : (s.verified id).ledger.counts = s.ledger.counts + (1, 0, 0) := by
    refine h.counts_add (f := fun r => { r with verifierRuns := r.verifierRuns + 1 }) fun r => ?_
    exact Prod.ext rfl (Prod.ext (add_zero r.usage.input).symm (add_zero r.usage.output).symm)
  have hcounts : (s.verified id).counts = s.counts + (1, 0, 0) :=
    Prod.ext rfl (Prod.ext (add_zero s.usage.input).symm (add_zero s.usage.output).symm)
  rw [excess, excess, hledger, hcounts, add_sub_add_right_eq_sub]

/-- A verdict counts nothing. -/
theorem excess_conclude {st : PatchStore} {next : Snapshot} {statements : List String}
    (decided : Verdict) :
    (conclude c s st next id statements decided).2.excess = s.excess := by
  cases decided with
  | fatal failure | halted o => rfl
  | undone cause seen =>
    exact (excess_charged _ _).trans (excess_noted (s := { s with store := st.undone }) seen)
  | kept others =>
    exact (excess_absorbed others).trans ((excess_resolvedBy statements).trans
      (excess_charged (s := { s with store := st.kept next }) none statements))

/-- Neither does giving a round up because the change cannot be undone. -/
theorem Concluded.excess_eq {st : PatchStore} {next : Snapshot} {statements : List String}
    {decided : Verdict} {w : World ε} {x : (Except SessionFailure RoundEnd × Session) × World ε}
    (h : Concluded c s st next id statements decided w x) : x.1.2.excess = s.excess := by
  cases h with
  | done houtside hholds => exact excess_conclude decided
  | stuck hundoes hlost => rfl

end Session

namespace Visit.Due

open Session

variable {c : Controller ε} {id : FindingId} {v : Visit ε}

/-- **A round counts the same for the session and its finding.** -/
theorem excess_eq (h : v.Due c id) : (v.result c).1.2.excess = v.session.excess := by
  have hworking : Ledger.Working v.entry.record.findingId v.session.ledger := by
    rw [h.id_eq]
    exact h.working
  cases htrial : v.trial? c with
  | none =>
    obtain ⟨t, cause, statements, u, -, ht, hresult⟩ := result_of_not_trial htrial
    rw [hresult]
    refine (excess_charged _ _).trans ?_
    rcases ht with rfl | ⟨usage, rfl⟩
    · rfl
    · exact excess_addUsage hworking usage
  | some tried =>
    obtain ⟨t, u⟩ := tried
    obtain ⟨proposal, next, -, -, rfl, hresult⟩ := Visit.exists_of_trial htrial
    have hverified : Ledger.Working v.entry.finding.id
        (v.session.addUsage v.entry.record.findingId proposal.usage).ledger := by
      have hnamed : v.entry.finding.id = v.entry.record.findingId := h.name_eq.trans h.id_eq.symm
      rw [hnamed]
      exact (working_addUsage hworking proposal.usage).1
    rw [hresult]
    refine (concluded_tryOut v.entry.finding proposal.statements rfl u).excess_eq.trans ?_
    refine (excess_verified ?_).trans ?_
    · exact hverified
    · exact excess_addUsage hworking proposal.usage

end Visit.Due

/-! ### Sessions -/

open Session

/-- The rounds of a finding count the same for the session and its findings. -/
theorem Attempted.excess_eq {c : Controller ε} {id : FindingId} {s t : Session} {w u : World ε}
    {vs : List (Visit ε)} {r : Except SessionFailure Unit} (h : Attempted c id s w vs r t u)
    (hw : s.ledger.Working id) (ho : s.ledger.InOrder c.budget) : t.excess = s.excess := by
  induction h with
  | spent hfind hnone htold => exact excess_givenUp
  | unasked hfind hbudget hrequest => rfl
  | fatal hfind hbudget hresult =>
    have hround := Visit.Due.excess_eq ⟨hw, ho, hfind⟩
    rwa [hresult] at hround
  | settled hfind hbudget hresult =>
    have hround := Visit.Due.excess_eq ⟨hw, ho, hfind⟩
    rwa [hresult] at hround
  | again hfind hbudget hresult hrest ih =>
    have hdue : Visit.Due c id _ := ⟨hw, ho, hfind⟩
    have hround := hdue.excess_eq
    obtain ⟨hw', ho', -⟩ := hdue.again hresult
    rw [hresult] at hround
    exact (ih hw' ho').trans hround

theorem Repaired.excess_eq {c : Controller ε} {s t : Session} {w u : World ε}
    {ps : List (Repair ε)} {outcome : Except Overflow SessionOutcome}
    (h : Repaired c s w ps outcome t u) (hq : s.ledger.Queued) (ho : s.ledger.InOrder c.budget) :
    t.excess = s.excess := by
  induction h with
  | done hnext htold => rfl
  | fatal hnext h htold =>
    obtain ⟨hw, ho', -⟩ := working_taking hq ho hnext
    exact (excess_ended _).trans ((h.excess_eq hw ho').trans excess_taking)
  | next hnext h hrest ih =>
    obtain ⟨hw, ho', -⟩ := working_taking hq ho hnext
    obtain ⟨horder, -, -, hend, -⟩ := h.ends hw ho'
    exact (ih (hend rfl).1 horder).trans ((h.excess_eq hw ho').trans excess_taking)

/-- **A session counts one run of the verifier beyond its findings**: the first one. -/
theorem Ran.excess_eq {c : Controller ε} {s t : Session} {w u : World ε} {ps : List (Repair ε)}
    {outcome : Except Overflow SessionOutcome} (h : Ran c s w ps outcome t u)
    (hempty : s.ledger = []) :
    t.excess = s.excess + (1, 0, 0) := by
  have hcounts : s.counts + (1, 0, 0) =
      (s.verifierRuns + 1, s.usage.input, s.usage.output) :=
    Prod.ext rfl (Prod.ext (add_zero s.usage.input) (add_zero s.usage.output))
  have hverified : ∀ l : Ledger, l.counts = s.ledger.counts →
      ({ s with verifierRuns := s.verifierRuns + 1, ledger := l } : Session).excess =
        s.excess + (1, 0, 0) := by
    intro l hl
    rw [excess, hl, excess, ← add_sub_right_comm, hcounts]
    rfl
  cases h with
  | refused hinitial htold => exact hverified _ Ledger.counts_blockRemaining
  | started hinitial htold h =>
    obtain ⟨hqueued, horder, -⟩ := queued_begun c.budget hempty _
    exact (h.excess_eq hqueued horder).trans (hverified _ (Ledger.counts_foldl_track _))

/-! ### Sums of words -/

/-- Words are added up like numbers, cut off at a limit. -/
theorem toNat_sum {α : Type} [AddMonoid α] (toNat : α → Nat) {limit : Nat}
    (hzero : toNat 0 = 0) (hadd : ∀ a b, toNat (a + b) = (toNat a + toNat b) % limit)
    (as : List α) : toNat as.sum = (as.map toNat).sum % limit := by
  induction as with
  | nil => rw [List.sum_nil, hzero, List.map_nil, List.sum_nil, Nat.zero_mod]
  | cons a as ih => rw [List.sum_cons, hadd, ih, List.map_cons, List.sum_cons, Nat.add_mod_mod]

theorem toNat_runs_sum (counts : List Counts) :
    counts.sum.1.toNat = (counts.map (·.1.toNat)).sum % 2 ^ 32 :=
  toNat_sum (fun n : Counts => n.1.toNat) rfl (fun a b => UInt32.toNat_add a.1 b.1) counts

theorem toNat_input_sum (counts : List Counts) :
    counts.sum.2.1.toNat = (counts.map (·.2.1.toNat)).sum % 2 ^ 64 :=
  toNat_sum (fun n : Counts => n.2.1.toNat) rfl
    (fun a b => UInt64.toNat_add a.2.1 b.2.1) counts

theorem toNat_output_sum (counts : List Counts) :
    counts.sum.2.2.toNat = (counts.map (·.2.2.toNat)).sum % 2 ^ 64 :=
  toNat_sum (fun n : Counts => n.2.2.toNat) rfl
    (fun a b => UInt64.toNat_add a.2.2 b.2.2) counts

theorem Attempts.toNat_halves_sum (as : List Attempts) :
    (sum as).halves.toNat = (as.map (·.halves.toNat)).sum % 2 ^ 32 := by
  have hfrom : ∀ (as : List Attempts) (a : Attempts),
      (as.foldl plus a).halves.toNat =
        (a.halves.toNat + (as.map (·.halves.toNat)).sum) % 2 ^ 32 := by
    intro as
    induction as with
    | nil =>
      intro a
      rw [List.foldl_nil, List.map_nil, List.sum_nil, Nat.add_zero,
        Nat.mod_eq_of_lt a.halves.toNat_lt]
    | cons b as ih =>
      intro a
      rw [List.foldl_cons, ih, plus, UInt32.toNat_add, Nat.mod_add_mod, Nat.add_assoc,
        List.map_cons, List.sum_cons]
  have hsum := hfrom as zero
  rwa [halves_zero, UInt32.toNat_zero, Nat.zero_add] at hsum

/-! ### Reports -/

/-- A report of a session whose sums are right; words are cut off at their limits. -/
structure SessionReport.Accounted (r : SessionReport) : Prop where
  /-- Nothing waits or is worked on any more. -/
  settled : ∀ f ∈ r.findings, f.state = .resolved ∨ f.state = .exhausted ∨ f.state = .blocked
  /-- What is spent on a finding is what its rounds were charged. -/
  charged : ∀ f ∈ r.findings,
    f.attemptsSpent.halves.toNat = (f.history.map (·.cost.halves.toNat)).sum
  attempts : r.attemptsSpent.halves.toNat =
    (r.findings.map (·.attemptsSpent.halves.toNat)).sum % 2 ^ 32
  /-- The first run of the verifier is made for no finding. -/
  runs : r.verifierRuns.toNat = (1 + (r.findings.map (·.verifierRuns.toNat)).sum) % 2 ^ 32
  input : r.usage.input.toNat = (r.findings.map (·.usage.input.toNat)).sum % 2 ^ 64
  output : r.usage.output.toNat = (r.findings.map (·.usage.output.toNat)).sum % 2 ^ 64

/-- What has ended is resolved, exhausted or blocked. -/
theorem FindingState.isTerminal_iff {state : FindingState} :
    state.isTerminal = true ↔ state = .resolved ∨ state = .exhausted ∨ state = .blocked := by
  cases state <;> decide

/-- A session that could not go on has ended all its findings. -/
theorem Repaired.done_of_blocked {c : Controller ε} {s t : Session} {w u : World ε}
    {ps : List (Repair ε)} {outcome : Except Overflow SessionOutcome} {ending : SessionOutcome}
    (h : Repaired c s w ps outcome t u) (hending : outcome = .ok ending)
    (hblocked : ending.status = .blocked) : ∀ e ∈ t.ledger, e.Done := by
  induction h with
  | @done s _ _ hnext htold =>
    obtain rfl := Except.ok.inj hending
    have hopen : s.finalStatus ≠ .blocked := by
      rw [finalStatus]
      split <;> exact SessionStatus.noConfusion
    exact absurd hblocked hopen
  | @fatal p t u v failure hnext h htold =>
    cases failure with
    | overflow o => cases hending
    | infrastructure e | parse e | patch e =>
      exact fun e he => Ledger.isTerminal_of_mem_blockRemaining he
  | next hnext h hrest ih => exact ih hending

namespace Ran

variable {c : Controller ε} {s t : Session} {w u : World ε} {ps : List (Repair ε)}
  {ending : SessionOutcome}

/-- In the end nothing waits or is worked on, whatever has ended the session. -/
theorem done (h : Ran c s w ps (.ok ending) t u) (hempty : s.ledger = []) :
    ∀ e ∈ t.ledger, e.Done := by
  by_cases hblocked : ending.status = .blocked
  · cases h with
    | refused hinitial htold => exact fun e he => Ledger.isTerminal_of_mem_blockRemaining he
    | started hinitial htold h => exact h.done_of_blocked rfl hblocked
  · exact fun e he => (h.closed hempty hblocked e he).1

/-- **The report of every session that has an outcome is accounted.** -/
theorem accounted (h : Ran c s w ps (.ok ending) t u) (hempty : s.ledger = [])
    (hcounts : s.counts = 0) : (t.report c.mode ending).Accounted := by
  have hpasses := h.passes hempty
  have hlast : t ∈ s :: (ps.flatMap (·.moments c) ++ [t]) := by simp
  -- the counts of the session are those of its findings and of the first run
  have htotal : t.counts = ((1, 0, 0) :: t.ledger.map fun e => e.record.counts).sum := by
    have hexcess := h.excess_eq hempty
    have hbefore : s.excess = 0 := by
      rw [excess, hcounts, hempty]
      rfl
    rw [hbefore, zero_add, excess, sub_eq_iff_eq_add] at hexcess
    rw [hexcess, List.sum_cons]
    rfl
  refine
    { settled := ?_
      charged := ?_
      attempts := ?_
      runs := ?_
      input := ?_
      output := ?_ }
  · intro f hf
    obtain ⟨e, he, rfl⟩ := List.mem_map.1 hf
    exact FindingState.isTerminal_iff.1 (h.done hempty e he)
  · intro f hf
    obtain ⟨e, he, rfl⟩ := List.mem_map.1 hf
    exact (hpasses.balanced t hlast e he).spent_eq
  · have hsum := Attempts.toNat_halves_sum (t.ledger.map (·.record.attemptsSpent))
    rw [List.map_map] at hsum
    rw [report, List.map_map]
    exact hsum
  · have hruns := toNat_runs_sum ((1, 0, 0) :: t.ledger.map fun e => e.record.counts)
    rw [← htotal, List.map_cons, List.sum_cons, List.map_map] at hruns
    rw [report, List.map_map]
    exact hruns
  · have hinput := toNat_input_sum ((1, 0, 0) :: t.ledger.map fun e => e.record.counts)
    rw [← htotal, List.map_cons, List.sum_cons, List.map_map] at hinput
    rw [report, List.map_map]
    exact hinput.trans (by rw [UInt64.toNat_zero, Nat.zero_add]; rfl)
  · have houtput := toNat_output_sum ((1, 0, 0) :: t.ledger.map fun e => e.record.counts)
    rw [← htotal, List.map_cons, List.sum_cons, List.map_map] at houtput
    rw [report, List.map_map]
    exact houtput.trans (by rw [UInt64.toNat_zero, Nat.zero_add]; rfl)

end Ran

end HarnessRepair
