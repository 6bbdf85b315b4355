import HarnessRepair.Proofs.Session.Footing
import HarnessRepair.Proofs.Session.OpenFindings
import HarnessRepair.Proofs.Session.Spending

/-!
# How a finding looked last

A ledger keeps of every finding how it was seen last: in the report that a session begins with,
in a report that has confirmed a change, or in the run on a change that has not resolved it.
Nothing else shows a finding, and what is done with need not be shown any more.

## Main definitions

* `Visit.seen?`, `Visit.sightings` — the findings that a visit shows.
* `lastSeen?` — the last of some findings with an identity.
* `Ledger.Shown` — every open finding of a ledger is kept as it was seen last.
* `Visit.Failed` — the two ways in which a round may have failed.

## Main results

* `Ledger.Shown.entered`, `Ledger.Shown.confirmed` — a report is taken into the ledger.
* `Visit.Due.failed` — every round that has failed is one of the two.
* `Visit.Due.shown` — what a round shows of the findings is its sightings.
* `lasts_shown` — **so a ledger keeps every open finding as it was seen last.**
-/

namespace HarnessRepair

variable {ε : Type}

/-! ### Sightings -/

namespace Visit

/-- The finding of a visit as it still is in the report on its change, if the round is charged
for that. -/
def seen? (c : Controller ε) (v : Visit ε) : Option Finding :=
  match (v.result c).1.1, v.cause? c, v.trial? c with
  | .ok .unsettled, some .notResolved, some (s, w) =>
    (reported? c s w).bind fun report =>
      (relevant c s report).find? fun f => f.id = v.entry.finding.id
  | _, _, _ => none

/-- The findings that a visit shows: those of the report that has confirmed its change, or its
own one in the report that has not. -/
def sightings (c : Controller ε) (v : Visit ε) : List Finding :=
  (v.accepted? c).getD [] ++ (v.seen? c).toList

end Visit

/-- The last of some findings with an identity. -/
def lastSeen? (fs : List Finding) (id : FindingId) : Option Finding :=
  fs.reverse.find? fun f => f.id = id

theorem lastSeen?_concat (fs : List Finding) (f : Finding) (id : FindingId) :
    lastSeen? (fs ++ [f]) id = if f.id = id then some f else lastSeen? fs id := by
  rw [lastSeen?, List.reverse_concat, List.find?_cons]
  by_cases hid : f.id = id <;> simp [hid, lastSeen?]

/-! ### Ledgers -/

namespace Ledger

open LedgerEntry

/-- Every open finding of a ledger is kept as it was seen last. -/
def Shown (fs : List Finding) (l : Ledger) : Prop :=
  ∀ e ∈ l, ¬ e.Done → lastSeen? fs e.record.findingId = some e.finding

namespace Shown

variable {fs : List Finding} {l m : Ledger} {id : FindingId} {b : Attempts}

theorem everyOpen (h : Shown fs l) : EveryOpen (fun id f => lastSeen? fs id = some f) l := h

/-- What is seen of another finding does not matter. -/
theorem lastSeen?_concat_of_ne (f : Finding) : ∀ id g, id ≠ f.id → lastSeen? fs id = some g →
    lastSeen? (fs ++ [f]) id = some g := by
  intro id g hne hg
  rw [lastSeen?_concat, if_neg (Ne.symm hne), hg]

/-- A finding is seen again. -/
theorem observe (h : Shown fs l) (f : Finding) : Shown (fs ++ [f]) (l.observe f) :=
  h.everyOpen.observe (lastSeen?_concat_of_ne f) (by rw [lastSeen?_concat, if_pos rfl])

/-- One finding of a report is taken in. -/
theorem enter (h : Shown fs l) (hfiled : Filed l) (f : Finding) :
    Shown (fs ++ [f]) (l.enter f) :=
  h.everyOpen.enter hfiled (lastSeen?_concat_of_ne f) (by rw [lastSeen?_concat, if_pos rfl])

/-- The findings of a report are taken in one after the other. -/
theorem entered (h : Shown fs l) (hq : Queued l) (gs : List Finding) :
    Shown (fs ++ gs) (gs.foldl Ledger.enter l) := by
  induction gs generalizing fs l with
  | nil => rwa [List.append_nil]
  | cons g gs ih =>
    rw [List.append_cons]
    exact ih (h.enter hq.filed g) (Session.queued_enter hq g).1

/-- **A report that has confirmed a change shows its findings.** -/
theorem confirmed (h : Shown fs l) (hw : Working id l) (hm : l.Noted id m)
    (statements : List String) (others : List Finding) :
    Shown (fs ++ others) (m.confirmed b id statements others) := by
  obtain ⟨g, hg, rfl⟩ := hm
  let f : AttemptRecord → AttemptRecord := fun r =>
    { r.charge none statements b with state := .resolved, keptStatements := statements }
  have hclosed : Shown fs ((l.update id g).updateRecord id f) := by
    rw [Ledger.updateRecord, update_update hg.id_eq]
    exact h.everyOpen.close fun _ => rfl
  have hsettled : Shown fs (((l.update id g).updateRecord id f).settle id (others.map (·.id))) :=
    hclosed.everyOpen.settle id _
  obtain ⟨hqueued, -⟩ := (hw.update (Quiet.mild hg)).1.finish f (fun _ => rfl) fun _ => rfl
  exact hsettled.entered (hqueued.settle id _).1 others

end Shown

end Ledger

open Ledger

/-! ### One round -/

namespace Visit

variable {c : Controller ε} {v : Visit ε} {id : FindingId} {fs : List Finding}

/-- A round that has failed, told by its trial: there was none, and the cause lies with the
oracle, or its verdict has undone the change. -/
inductive Failed (c : Controller ε) (v : Visit ε) (id : FindingId) : Session → Prop
  | untried {s : Session} {cause : FailureCause} (statements : List String)
      (htrial : v.trial? c = none) (hcause : v.cause? c = some cause)
      (hother : cause ≠ .notResolved)
      (hs : s = v.session ∨ ∃ usage, s = v.session.addUsage id usage) :
    Failed c v id (Session.charged c s id (some cause) statements)
  | undone {s t : Session} {w : World ε} {cause : FailureCause} {seen : Option Finding}
      (statements : List String) (htrial : v.trial? c = some (s, w))
      (hcause : v.cause? c = some cause)
      (hverdict : verdict c.mode.targets s.target s.store v.entry.finding
        (reading s.target ((c.verifier.run s.target).run w).1) = .undone cause seen)
      (ht : t.ledger = (s.verified id).ledger) :
    Failed c v id (Session.charged c (t.noted seen) id (some cause) statements)

/-- The cause that is written down last is the one the round is charged for. -/
theorem Due.cause?_charged (h : v.Due c id) {s : Session} {u : World ε} {cause : FailureCause}
    {statements : List String} (hnoted : v.session.ledger.Noted id s.ledger)
    (hresult : v.result c = ((.ok .unsettled,
      Session.charged c s id (some cause) statements), u)) : v.cause? c = some cause := by
  obtain ⟨d, hfind, -⟩ := hnoted.find?_charge h.entry (some cause) statements c.budget
  rw [cause?, hresult, h.id_eq, Session.charged]
  dsimp only
  rw [hfind]
  exact AttemptRecord.lastCause?_charge _ _ _ _

/-- Every round that has failed is one of the two. -/
theorem Due.failed (h : v.Due c id) {t : Session} {u : World ε}
    (hresult : v.result c = ((.ok .unsettled, t), u)) : Failed c v id t := by
  -- such a round has not come to a trial, or its change has been taken back
  cases htrial : v.trial? c with
  | none =>
    obtain ⟨s, cause, statements, w, hother, hs, hfailed⟩ := result_of_not_trial htrial
    rw [h.id_eq] at hs hfailed
    have hnoted : v.session.ledger.Noted id s.ledger := by
      rcases hs with rfl | ⟨usage, rfl⟩
      · exact .refl _ _
      · exact (Noted.refl _ _).updateRecord fun r => ⟨r.verifierRuns, r.usage + usage, rfl⟩
    obtain ⟨hend, -⟩ := Prod.mk.inj (hresult.symm.trans hfailed)
    obtain ⟨-, rfl⟩ := Prod.mk.inj hend
    exact .untried statements htrial (h.cause?_charged hnoted hresult) hother hs
  | some tried =>
    obtain ⟨s, w⟩ := tried
    obtain ⟨proposal, next, -, -, -, -, hconcluded⟩ := concluded htrial
    rw [h.name_eq, hresult] at hconcluded
    rcases hconcluded.of_ok with ⟨cause, seen, hverdict, -, rfl⟩ | ⟨others, -, hsettled, -⟩
    · have hseen : ∀ f ∈ seen, f.id = id := fun f hf =>
        (verdict_seen hverdict f hf).trans h.name_eq
      have hnoted := Noted.seen (s := { s.verified id with store := v.session.store.undone })
        (h.noted_verified htrial) hseen
      exact .undone proposal.statements htrial (h.cause?_charged hnoted hresult) hverdict rfl
    · cases hsettled

/-- What is seen when a change is undone is seen exactly if the round is charged for it. -/
theorem seen?_eq {s : Session} {w : World ε} {cause : FailureCause} {seen : Option Finding}
    (hend : (v.result c).1.1 = .ok .unsettled) (hcause : v.cause? c = some cause)
    (htrial : v.trial? c = some (s, w))
    (hverdict : verdict c.mode.targets s.target s.store v.entry.finding
      (reading s.target ((c.verifier.run s.target).run w).1) = .undone cause seen) :
    v.seen? c = seen := by
  rw [seen?, hend, hcause, htrial]
  rcases verdict_undone hverdict with ⟨hother, rfl⟩ | ⟨report, still, hread, hpersists, rfl, rfl⟩
  · cases cause with
    | notResolved => exact absurd rfl hother
    | _ => rfl
  · dsimp only
    rw [reported?, hread]
    exact find?_of_judge_persists hpersists

/-- Without a trial nothing is seen. -/
theorem seen?_of_not_trial (htrial : v.trial? c = none) : v.seen? c = none := by
  rw [seen?, htrial]
  split
  · next heq => cases heq
  · rfl

/-- A round that is charged for it has seen its finding again. -/
theorem Due.exists_seen (h : v.Due c id) {t : Session} {u : World ε}
    (hresult : v.result c = ((.ok .unsettled, t), u)) (hcause : v.cause? c = some .notResolved) :
    ∃ still, v.seen? c = some still := by
  cases h.failed hresult with
  | untried _ _ hfor hother =>
    exact absurd (Option.some.inj (hfor.symm.trans hcause)) hother
  | undone _ htrial hfor hverdict =>
    rw [seen?_eq (by rw [hresult]) hfor htrial hverdict]
    rcases verdict_undone hverdict with ⟨hother, -⟩ | ⟨report, still, -, -, -, rfl⟩
    · exact absurd (Option.some.inj (hfor.symm.trans hcause)) hother
    · exact ⟨still, rfl⟩

/-- A round that settles its finding shows those of the report that it accepts. -/
theorem Due.shown_settled (h : v.Due c id) (hs : Shown fs v.session.ledger) {t : Session}
    {u : World ε} (hresult : v.result c = ((.ok .settled, t), u)) :
    Shown (fs ++ v.sightings c) t.ledger := by
  have hturn := h.turn
  rw [hresult] at hturn
  have hnone : v.seen? c = none := by rw [seen?, hresult]
  rw [sightings, hnone, Option.toList_none, List.append_nil]
  generalize v.accepted? c = accepted at hturn
  dsimp only at hturn
  generalize t.ledger = m at hturn
  cases hturn with
  | kept hnoted hne hgone => exact hs.confirmed h.working hnoted _ _

/-- A round that has failed shows its finding if it is charged for that. -/
theorem Due.shown_unsettled (h : v.Due c id) (hs : Shown fs v.session.ledger) {t : Session}
    {u : World ε} (hresult : v.result c = ((.ok .unsettled, t), u)) :
    Shown (fs ++ v.sightings c) t.ledger := by
  have haccepted : v.accepted? c = none := h.turn.others_eq_none (by rw [hresult]; simp)
  rw [sightings, haccepted, Option.getD_none, List.nil_append]
  cases h.failed hresult with
  | untried statements htrial hcause hother hsame =>
    rw [seen?_of_not_trial htrial, Option.toList_none, List.append_nil]
    rcases hsame with rfl | ⟨usage, rfl⟩
    · exact hs.everyOpen.charged _ _
    · exact (hs.everyOpen.addUsage usage).charged _ _
  | @undone s x w cause seen statements htrial hcause hverdict hx =>
    have hbefore : Shown fs x.ledger := by
      obtain ⟨proposal, next, -, -, rfl, -⟩ := exists_of_trial htrial
      rw [hx]
      exact (hs.everyOpen.addUsage proposal.usage).verified
    rw [seen?_eq (by rw [hresult]) hcause htrial hverdict]
    cases seen with
    | none =>
      rw [Option.toList_none, List.append_nil]
      exact hbefore.everyOpen.charged _ _
    | some still =>
      have hseen : Shown (fs ++ [still]) (x.noted (some still)).ledger := hbefore.observe still
      exact hseen.everyOpen.charged _ _

/-- **What a round shows of the findings is its sightings**, as long as the session goes on. -/
theorem Due.shown (h : v.Due c id) (hs : Shown fs v.session.ledger) {ending : RoundEnd}
    {t : Session} {u : World ε} (hresult : v.result c = ((.ok ending, t), u)) :
    Shown (fs ++ v.sightings c) t.ledger := by
  cases ending with
  | settled => exact h.shown_settled hs hresult
  | unsettled => exact h.shown_unsettled hs hresult

end Visit

/-! ### A session -/

/-- **A ledger keeps every open finding as it was seen last**, first in the report that the
session begins with and then at the visits. -/
theorem lasts_shown (c : Controller ε) (fs : List Finding) :
    Lasts c fun us s => Shown (fs ++ us.flatMap (·.sightings c)) s.ledger where
  taking := fun h hq _ hnext => h.everyOpen.taken hq hnext
  round := by
    intro us v id ending t u h hdue hresult
    rw [List.flatMap_append, List.flatMap_singleton, ← List.append_assoc]
    exact hdue.shown h hresult
  givenUp := fun h _ _ _ =>
    h.everyOpen.close fun e => (Session.spentState_ne_resolved e.record).2

/-- The report that a session begins with shows its findings. -/
theorem Session.shown_begun {s : Session} (hempty : s.ledger = []) (fs : List Finding) :
    Shown fs (s.begun fs).ledger := by
  have hnone : Shown [] ([] : Ledger) := List.forall_mem_nil _
  rw [ledger_begun hempty]
  exact hnone.entered queued_nil fs

end HarnessRepair
