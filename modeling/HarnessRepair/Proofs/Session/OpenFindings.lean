import HarnessRepair.Proofs.Session.Order

/-!
# What holds of the open findings of a ledger

A finding that is not done with is kept in the ledger as it was seen at some time.  What holds
of it, under its identity, holds on through the bookkeeping of a session.  It ends only where
the finding is seen anew, and then what is seen must have it.

## Main definitions

* `Ledger.EveryOpen` — every open finding of a ledger stands in a relation to its identity.

## Main results

* `EveryOpen.observe`, `EveryOpen.enter` — a finding is seen again, or taken in from a report.
* `everyOpen_confirmed` — **a report that confirms a change shows all that is open after it.**
-/

namespace HarnessRepair

namespace Ledger

open LedgerEntry

/-- Every open finding of a ledger stands in a relation to its identity. -/
def EveryOpen (R : FindingId → Finding → Prop) (l : Ledger) : Prop :=
  ∀ e ∈ l, ¬ e.Done → R e.record.findingId e.finding

namespace EveryOpen

variable {R S : FindingId → Finding → Prop} {l m : Ledger} {id : FindingId} {f : Finding}

theorem imp (h : EveryOpen R l) (hRS : ∀ id g, R id g → S id g) : EveryOpen S l :=
  fun e he hopen => hRS _ _ (h e he hopen)

/-- Entries may be done with, and may change in all but what is shown. -/
theorem map (h : EveryOpen R l) {g : LedgerEntry → LedgerEntry}
    (hg : ∀ e ∈ l, ¬ (g e).Done → ¬ e.Done ∧
      (g e).record.findingId = e.record.findingId ∧ (g e).finding = e.finding) :
    EveryOpen R (l.map g) := by
  intro e' he' hopen
  obtain ⟨e, he, rfl⟩ := List.mem_map.1 he'
  obtain ⟨hbefore, hid, hfinding⟩ := hg e he hopen
  rw [hid, hfinding]
  exact h e he hbefore

/-- The record of a finding that is not shown differently changes. -/
theorem updateRecord (h : EveryOpen R l) {f : AttemptRecord → AttemptRecord}
    (hid : ∀ r, (f r).findingId = r.findingId) (hstate : ∀ r, (f r).state = r.state) :
    EveryOpen R (l.updateRecord id f) := by
  refine h.map fun e _ hopen => ?_
  by_cases heq : e.record.findingId = id
  · rw [if_pos heq] at hopen ⊢
    rw [Done, hstate] at hopen
    exact ⟨hopen, hid e.record, rfl⟩
  · rw [if_neg heq] at hopen ⊢
    exact ⟨hopen, rfl, rfl⟩

/-- A finding is done with. -/
theorem close (h : EveryOpen R l) {g : LedgerEntry → LedgerEntry} (hdone : ∀ e, (g e).Done) :
    EveryOpen R (l.update id g) := by
  refine h.map fun e _ hopen => ?_
  by_cases heq : e.record.findingId = id
  · rw [if_pos heq] at hopen
    exact absurd (hdone e) hopen
  · rw [if_neg heq] at hopen ⊢
    exact ⟨hopen, rfl, rfl⟩

/-- The first finding that waits is taken up. -/
theorem taken (h : EveryOpen R l) (hq : Queued l) (hnext : l.nextPending? = some id) :
    EveryOpen R (l.updateRecord id fun r => { r with state := .inProgress }) := by
  rw [nextPending?, Option.map_eq_some_iff] at hnext
  obtain ⟨d, hfind, rfl⟩ := hnext
  have hfound := List.find?_some hfind
  refine h.map fun e he hopen => ?_
  by_cases heq : e.record.findingId = d.record.findingId
  · obtain rfl := hq.filed.eq_of_id he (List.mem_of_find?_eq_some hfind) heq
    rw [if_pos heq]
    refine ⟨?_, rfl, rfl⟩
    rw [Done, beq_iff_eq.1 hfound]
    exact Bool.false_ne_true
  · rw [if_neg heq] at hopen ⊢
    exact ⟨hopen, rfl, rfl⟩

/-- What goes away with another finding is done with. -/
theorem settle (h : EveryOpen R l) (resolver : FindingId) (present : List FindingId) :
    EveryOpen R (l.settle resolver present) := by
  refine h.map fun e _ hopen => ?_
  by_cases hgone : isGone present e = true
  · rw [if_pos hgone] at hopen
    exact absurd rfl hopen
  · rw [if_neg hgone] at hopen ⊢
    exact ⟨hopen, rfl, rfl⟩

/-- A finding is seen again. -/
theorem observe (h : EveryOpen R l) (hother : ∀ id g, id ≠ f.id → R id g → S id g)
    (hf : S f.id f) : EveryOpen S (l.observe f) := by
  intro e' he' hopen
  obtain ⟨e, he, rfl⟩ := List.mem_map.1 he'
  by_cases heq : e.record.findingId = f.id
  · rw [if_pos heq]
    change S e.record.findingId f
    rwa [heq]
  · rw [if_neg heq] at hopen ⊢
    exact hother _ _ heq (h e he hopen)

/-- One finding of a report is taken in. -/
theorem enter (h : EveryOpen R l) (hfiled : Filed l)
    (hother : ∀ id g, id ≠ f.id → R id g → S id g) (hf : S f.id f) :
    EveryOpen S (l.enter f) := by
  -- as long as nothing else is open under the identity of the finding, the others stay
  have hrest : (∀ e ∈ l, ¬ e.Done → e.record.findingId ≠ f.id) → EveryOpen S l :=
    fun hne e he hopen => hother _ _ (hne e he hopen) (h e he hopen)
  rw [Ledger.enter]
  cases hfind : l.find? f.id with
  | none =>
    have htrack : l.track f = l ++ [⟨{ findingId := f.id }, f⟩] := by rw [track, hfind]
    dsimp only
    rw [htrack]
    refine List.forall_mem_append.2 ⟨hrest fun e he _ heq => ?_,
      List.forall_mem_singleton.2 fun _ => hf⟩
    exact List.find?_eq_none.1 hfind e he (beq_iff_eq.2 heq)
  | some d =>
    obtain ⟨hmem, hid⟩ := hfiled.find?_eq_some_iff.1 hfind
    dsimp only
    by_cases hdone : d.record.state.isTerminal = true
    · rw [if_pos hdone]
      refine hrest fun e he hopen heq => ?_
      obtain rfl := hfiled.eq_of_id he hmem (heq.trans hid.symm)
      exact hopen hdone
    · rw [if_neg hdone]
      exact h.observe hother hf

section

variable {ε : Type} {c : Controller ε} {s : Session}

/-- What is counted for a session and its findings shows nothing. -/
theorem addUsage (h : EveryOpen R s.ledger) (usage : TokenUsage) :
    EveryOpen R (s.addUsage id usage).ledger :=
  h.updateRecord (f := fun r => { r with usage := r.usage + usage }) (fun _ => rfl) fun _ => rfl

theorem verified (h : EveryOpen R s.ledger) : EveryOpen R (s.verified id).ledger :=
  h.updateRecord (f := fun r => { r with verifierRuns := r.verifierRuns + 1 }) (fun _ => rfl)
    fun _ => rfl

theorem charged (h : EveryOpen R s.ledger) (cause : Option FailureCause)
    (statements : List String) : EveryOpen R (Session.charged c s id cause statements).ledger :=
  h.updateRecord (f := fun r => r.charge cause statements c.budget) (fun _ => rfl) fun _ => rfl

end

end EveryOpen

section

variable {Q : Finding → Prop} {l m : Ledger} {id : FindingId} {fs : List Finding}

/-- The findings of a report are taken in where nothing else is open. -/
theorem everyOpen_entered (hq : Queued l)
    (hl : EveryOpen (fun id g => Q g ∨ id ∈ fs.map (·.id)) l) (hfs : ∀ f ∈ fs, Q f) :
    EveryOpen (fun _ g => Q g) (fs.foldl Ledger.enter l) := by
  induction fs generalizing l with
  | nil => exact hl.imp fun id g hg => hg.resolve_right List.not_mem_nil
  | cons f fs ih =>
    obtain ⟨hf, hfs⟩ := List.forall_mem_cons.1 hfs
    refine ih (Session.queued_enter hq f).1 (hl.enter hq.filed ?_ (Or.inl hf)) hfs
    intro id g hne hg
    refine hg.imp_right fun hmem => ?_
    rw [List.map_cons, List.mem_cons] at hmem
    exact hmem.resolve_left hne

/-- What is open after a report that has settled the others is in the report. -/
theorem everyOpen_settle (hq : Queued l) (resolver : FindingId) (present : List FindingId) :
    EveryOpen (fun id _ => id ∈ present) (l.settle resolver present) := by
  intro e' he' hopen
  obtain ⟨e, he, rfl⟩ := List.mem_map.1 he'
  by_cases hgone : isGone present e = true
  · rw [if_pos hgone] at hopen
    exact absurd rfl hopen
  · rw [if_neg hgone] at hopen ⊢
    obtain ⟨before, after, rfl, hbefore, hafter⟩ := hq.split
    rcases List.mem_append.1 he with hmem | hmem
    · exact absurd (hbefore e hmem) hopen
    · rcases hafter e hmem with ⟨hpending, -⟩ | ⟨hresolved, -⟩
      · rw [isGone, hpending] at hgone
        simpa using hgone
      · refine absurd ?_ hopen
        rw [Done, hresolved]
        rfl

/-- **A report that confirms a change shows all that is open after it.** -/
theorem everyOpen_confirmed {b : Attempts} (hw : Working id l) (hm : l.Noted id m)
    (statements : List String) (hfs : ∀ f ∈ fs, Q f) :
    EveryOpen (fun _ g => Q g) (m.confirmed b id statements fs) := by
  obtain ⟨g, hg, rfl⟩ := hm
  obtain ⟨hqueued, -⟩ := (hw.update (Quiet.mild hg)).1.finish
    (fun r => { r.charge none statements b with state := .resolved, keptStatements := statements })
    (fun _ => rfl) fun _ => rfl
  refine everyOpen_entered (hqueued.settle id _).1 ?_ hfs
  exact (everyOpen_settle hqueued id _).imp fun id g hmem => Or.inr hmem

end

end Ledger

end HarnessRepair
