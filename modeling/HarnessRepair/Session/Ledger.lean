import HarnessRepair.Budget.Record

/-!
# The ledger of a session

One entry for every finding a session has taken on, in the order in which they
were queued: what has been spent on it, and how it was observed last.

## Main definitions

* `LedgerEntry`, `Ledger` — the entries.
* `Ledger.track` — queues a finding, or takes note of how it looks now.
* `Ledger.settle` — resolves the waiting findings that a report no longer has.
* `Ledger.blockRemaining` — ends all that is not settled.

## Main results

* `Ledger.findingIds_blockRemaining` — no finding is lost or moved.
* `Ledger.isTerminal_of_mem_blockRemaining` — all is settled in the end.
-/

namespace HarnessRepair

/-- A finding and what has been spent on it. -/
structure LedgerEntry where
  record : AttemptRecord
  /-- The finding as it was observed last, in lines of the unpatched harness. -/
  finding : Finding
  deriving DecidableEq, Repr

/-- The entries in queue order. -/
abbrev Ledger := List LedgerEntry

namespace Ledger

/-- The entry of a finding. -/
def find? (l : Ledger) (id : FindingId) : Option LedgerEntry :=
  List.find? (fun e => e.record.findingId == id) l

/-- Changes the entry of a finding. -/
def update (l : Ledger) (id : FindingId) (f : LedgerEntry → LedgerEntry) : Ledger :=
  l.map fun e => if e.record.findingId = id then f e else e

/-- Changes the record of a finding. -/
def updateRecord (l : Ledger) (id : FindingId) (f : AttemptRecord → AttemptRecord) : Ledger :=
  l.update id fun e => { e with record := f e.record }

/-- Takes note of how a finding looks now. -/
def observe (l : Ledger) (f : Finding) : Ledger := l.update f.id fun e => { e with finding := f }

/-- Queues a finding, or takes note of how it looks now if it is there already. -/
def track (l : Ledger) (f : Finding) : Ledger :=
  match l.find? f.id with
  | some _ => l.observe f
  | none => l ++ [⟨{ findingId := f.id }, f⟩]

/-- The first finding that waits. -/
def nextPending? (l : Ledger) : Option FindingId :=
  (List.find? (fun e => e.record.state == .pending) l).map (·.record.findingId)

/-- Whether an entry waits although its finding is not present any more. -/
def isGone (present : List FindingId) (e : LedgerEntry) : Bool :=
  e.record.state == .pending && !present.contains e.record.findingId

/-- Resolves the waiting findings that are not present, by the finding `resolver`. -/
def settle (l : Ledger) (resolver : FindingId) (present : List FindingId) : Ledger :=
  l.map fun e =>
    if isGone present e then
      { e with record := { e.record with state := .resolved, resolvedBy := some resolver } }
    else e

/-- Ends every finding that is not settled. -/
def blockRemaining (l : Ledger) : Ledger :=
  l.map fun e =>
    if e.record.state.isTerminal then e
    else { e with record := { e.record with state := .blocked } }

/-- The records in queue order. -/
def records (l : Ledger) : List AttemptRecord := l.map (·.record)

/-! ### Small facts -/

/-- Ending what is left keeps the findings and their order. -/
theorem findingIds_blockRemaining (l : Ledger) :
    l.blockRemaining.map (·.record.findingId) = l.map (·.record.findingId) := by
  rw [blockRemaining, List.map_map]
  refine List.map_congr_left fun e _ => ?_
  by_cases ht : e.record.state.isTerminal = true
  · rw [Function.comp_apply, if_pos ht]
  · rw [Function.comp_apply, if_neg ht]

/-- Nothing waits or is worked on once what is left has been ended. -/
theorem isTerminal_of_mem_blockRemaining {l : Ledger} {e : LedgerEntry}
    (h : e ∈ l.blockRemaining) : e.record.state.isTerminal = true := by
  obtain ⟨d, _, rfl⟩ := List.mem_map.1 h
  by_cases ht : d.record.state.isTerminal = true
  · rw [if_pos ht]
    exact ht
  · rw [if_neg ht]
    rfl

end Ledger

end HarnessRepair
