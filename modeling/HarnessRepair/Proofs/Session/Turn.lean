import HarnessRepair.Proofs.Session.Round

/-!
# What a round makes of the ledger

Nothing is assumed here of the harness file, which may refuse to be written or be
changed by others.  Whatever happens to it, a round ends in one of three ways: it
has failed and is charged, it ends the session, or its change is kept, and the
report that confirmed the change is taken into the ledger.

## Main definitions

* `Ledger.Noted` — a ledger in which only counters have changed, and how the finding
  at work looks.
* `Turn` — the three ways.
* `Visit.accepted?` — the findings of the report that confirmed a kept change.

## Main results

* `Visit.result_cases` — **every round is one of the three**, and its calls are those
  of its visit.
-/

namespace HarnessRepair

variable {ε α β : Type}

/-! ### Computations that call nobody -/

/-- A computation that leaves the parties outside alone. -/
def Inward (m : Run ε α) : Prop := ∀ w, (m.run w).2.outside = w.outside

namespace Inward

theorem pure (a : α) : Inward (Pure.pure a : Run ε α) := fun _ => rfl

theorem bind {m : Run ε α} {f : α → Run ε β} (hm : Inward m) (hf : ∀ a, Inward (f a)) :
    Inward (m >>= f) := by
  intro w
  rw [run_bind, hf, hm]

theorem writeText (path text : String) :
    Inward (writeText path text : Run ε (Except IoError Unit)) := by
  intro w
  rw [HarnessRepair.writeText, run_onFiles]
  split <;> rfl

theorem install (s : PatchStore) (next : Snapshot) :
    Inward (s.install next : Run ε (Except PatchError Unit × PatchStore)) := by
  refine bind (writeText _ _) fun r => ?_
  cases r <;> exact pure _

theorem applyAll (s : PatchStore) (patches : List Patch) :
    Inward (s.applyAll patches : Run ε (Except PatchError Nat × PatchStore)) := by
  unfold PatchStore.applyAll
  split
  · exact pure _
  · cases s.current.extend patches with
    | error e => exact pure _
    | ok next =>
      refine bind (install _ _) fun r => ?_
      rcases r with ⟨e | _, t⟩
      · exact pure _
      · exact bind (fun _ => rfl) fun _ => pure _

theorem revert (s : PatchStore) (handle : Nat) :
    Inward (s.revert handle : Run ε (Except PatchError Unit × PatchStore)) := by
  unfold PatchStore.revert
  split
  · exact pure _
  · exact bind (fun _ => rfl) fun _ => install _ _

end Inward

/-! ### Changes that leave the books alone -/

/-- A change of the entry of a finding in nothing but counters and how the finding looks. -/
structure LedgerEntry.Quiet (id : FindingId) (g : LedgerEntry → LedgerEntry) : Prop where
  record_eq : ∀ e, ∃ runs usage,
    (g e).record = { e.record with verifierRuns := runs, usage := usage }
  named : ∀ e, e.finding.id = id → (g e).finding.id = id

namespace LedgerEntry.Quiet

variable {id : FindingId} {g h : LedgerEntry → LedgerEntry}

theorem comp (hh : Quiet id h) (hg : Quiet id g) : Quiet id (h ∘ g) where
  record_eq := by
    intro e
    obtain ⟨runs, usage, hrec⟩ := hg.record_eq e
    obtain ⟨runs', usage', hrec'⟩ := hh.record_eq (g e)
    refine ⟨runs', usage', ?_⟩
    rw [Function.comp_apply, hrec', hrec]
  named := fun e he => hh.named _ (hg.named e he)

theorem id_eq (hg : Quiet id g) (e : LedgerEntry) :
    (g e).record.findingId = e.record.findingId := by
  obtain ⟨runs, usage, hrec⟩ := hg.record_eq e
  rw [hrec]

end LedgerEntry.Quiet

namespace Ledger

open LedgerEntry

variable {id : FindingId} {l m n : Ledger}

/-- Of two changes of the same entry, the second follows on the first. -/
theorem update_update {g : LedgerEntry → LedgerEntry}
    (hg : ∀ e, (g e).record.findingId = e.record.findingId) (h : LedgerEntry → LedgerEntry) :
    (l.update id g).update id h = l.update id (h ∘ g) := by
  rw [update, update, update, List.map_map]
  refine List.map_congr_left fun e _ => ?_
  rw [Function.comp_apply]
  by_cases he : e.record.findingId = id
  · rw [if_pos he, if_pos ((hg e).trans he), if_pos he]
    rfl
  · rw [if_neg he, if_neg he, if_neg he]

/-- The ledger `m` is the ledger `l`, but for the counters of a finding and how it looks. -/
def Noted (id : FindingId) (l m : Ledger) : Prop :=
  ∃ g, Quiet id g ∧ m = l.update id g

theorem Noted.refl (id : FindingId) (l : Ledger) : Noted id l l := by
  refine ⟨fun e => e, ⟨fun e => ⟨_, _, rfl⟩, fun _ he => he⟩, ?_⟩
  simp [update]

theorem Noted.update (h : Noted id l m) {g : LedgerEntry → LedgerEntry} (hg : Quiet id g) :
    Noted id l (m.update id g) := by
  obtain ⟨f, hf, rfl⟩ := h
  exact ⟨g ∘ f, hg.comp hf, update_update hf.id_eq g⟩

theorem Noted.updateRecord (h : Noted id l m) {f : AttemptRecord → AttemptRecord}
    (hf : ∀ r, ∃ runs usage, f r = { r with verifierRuns := runs, usage := usage }) :
    Noted id l (m.updateRecord id f) :=
  h.update ⟨fun e => hf e.record, fun _ he => he⟩

theorem Noted.observe (h : Noted id l m) {f : Finding} (hf : f.id = id) :
    Noted id l (m.observe f) := by
  subst hf
  exact h.update ⟨fun _ => ⟨_, _, rfl⟩, fun _ _ => rfl⟩

/-- So is a finding that is seen again. -/
theorem Noted.seen {s : Session} (h : Noted id l s.ledger) {seen : Option Finding}
    (hseen : ∀ f ∈ seen, f.id = id) : Noted id l (s.noted seen).ledger := by
  cases seen with
  | none => exact h
  | some still => exact h.observe (hseen still rfl)

/-- The ledger after a change for a finding has been kept: the round is charged, the finding
resolved, and the report with the findings `others` taken in. -/
def confirmed (b : Attempts) (m : Ledger) (id : FindingId) (statements : List String)
    (others : List Finding) : Ledger :=
  others.foldl enter
    ((m.updateRecord id fun r =>
      { r.charge none statements b with
        state := .resolved
        keptStatements := statements }).settle id (others.map (·.id)))

end Ledger

/-- What a round made for a finding, with the budget `b`, makes of the ledger `l`; the
findings of the report that confirmed the change are given if it is kept. -/
inductive Turn (b : Attempts) (id : FindingId) (l : Ledger) :
    Except SessionFailure RoundEnd → Option (List Finding) → Ledger → Prop
  | failed {m : Ledger} (h : l.Noted id m) (cause : FailureCause) (statements : List String) :
    Turn b id l (.ok .unsettled) none
      (m.updateRecord id fun r => r.charge (some cause) statements b)
  | fatal {m : Ledger} (h : l.Noted id m) (failure : SessionFailure) :
    Turn b id l (.error failure) none m
  | kept {m : Ledger} (h : l.Noted id m) {statements : List String} (hne : statements ≠ [])
      {others : List Finding} (hgone : id ∉ others.map (·.id)) :
    Turn b id l (.ok .settled) (some others) (m.confirmed b id statements others)

/-! ### Reports -/

/-- The findings of the wanted kind in a report, in lines of the unpatched harness. -/
def relevant (c : Controller ε) (s : Session) (report : VerifierReport) : List Finding :=
  (rebased s.target.harnessFile s.store report.findings).filter fun f => f.kind = c.mode.targets

/-- What the verifier reports when it is run in a session. -/
def reported? (c : Controller ε) (s : Session) (w : World ε) : Option VerifierReport :=
  (reading s.target ((c.verifier.run s.target).run w).1).toOption

/-- The findings of the wanted kind in the report that confirmed the change of a visit, if
it is kept. -/
def Visit.accepted? (c : Controller ε) (v : Visit ε) : Option (List Finding) :=
  match (v.result c).1.1, v.trial? c with
  | .ok .settled, some (s, w) => (reported? c s w).map (relevant c s)
  | _, _ => none

/-- A report that has been accepted is the one on the change of the visit. -/
theorem Visit.exists_report_of_accepted {c : Controller ε} {v : Visit ε} {fs : List Finding}
    (h : v.accepted? c = some fs) :
    ∃ t u report, v.trial? c = some (t, u) ∧ reported? c t u = some report ∧
      relevant c t report = fs := by
  rw [accepted?] at h
  split at h
  · next t u hsettled htrial =>
    obtain ⟨report, hreport, hfs⟩ := Option.map_eq_some_iff.1 h
    exact ⟨t, u, report, htrial, hreport, hfs⟩
  · cases h

/-- A change is kept only if its finding is not reported any more, and its line not missed. -/
theorem judge_resolved {kind : FindingKind} {target : HarnessTarget} {store : PatchStore}
    {finding : Finding} {report : VerifierReport} {others : List Finding}
    (h : judge kind target store finding report = .ok (.resolved others)) :
    others = (rebased target.harnessFile store report.findings).filter (fun f => f.kind = kind) ∧
      finding.id ∉ others.map (·.id) ∧
      ∃ shown, shownLocation target store finding.location = .ok shown ∧
        isListedMissed report shown = false := by
  unfold judge at h
  dsimp only at h
  split at h
  · cases h
  · split at h
    · cases h
    · next hnone =>
      cases hshown : shownLocation target store finding.location with
      | error o =>
        rw [hshown] at h
        cases h
      | ok shown =>
        rw [hshown] at h
        have hjudged := Except.ok.inj h
        split at hjudged
        · cases hjudged
        · next hreached =>
          obtain rfl := Judgement.resolved.inj hjudged
          refine ⟨rfl, fun hmem => ?_, shown, rfl, eq_false_of_ne_true hreached⟩
          obtain ⟨f, hf, hid⟩ := List.mem_map.1 hmem
          exact List.find?_eq_none.1 hnone f hf (decide_eq_true hid)

/-! ### The parts of a round -/

namespace Session

open Ledger

variable {c : Controller ε} {s : Session} {e : LedgerEntry} {request : RepairRequest}
  {w : World ε} {id : FindingId} {l : Ledger}

/-- A proposal that is heard has a statement. -/
theorem statements_ne_nil {proposal : Proposal} {v : World ε}
    (h : ask c request w = (.ok proposal, v)) : proposal.statements ≠ [] := by
  rw [ask, run_consult] at h
  have hheard := congrArg Prod.fst h
  dsimp only at hheard
  revert hheard
  cases ((c.oracle.propose request).run w).1 with
  | none => exact fun hheard => by cases hheard
  | some answer =>
    cases answer with
    | error failure => exact fun hheard => by cases hheard
    | ok p =>
      dsimp only [heard]
      by_cases hempty : p.patches.isEmpty = true
      · rw [if_pos hempty]
        exact fun hheard => by cases hheard
      · rw [if_neg hempty]
        intro hheard
        obtain rfl := Except.ok.inj hheard
        rw [Proposal.statements]
        simpa using hempty

/-- A change is made, or why not; of the ledger only counters change, and the oracle is
called once. -/
theorem run_prepare_cases (c : Controller ε) (s : Session) (e : LedgerEntry)
    (request : RepairRequest) (w : World ε) :
    ∃ r t u, (prepare c s e request).run w = ((r, t), u) ∧ t.target = s.target ∧
      s.ledger.Noted e.record.findingId t.ledger ∧
      u.outside = (ask c request w).2.outside ∧ ∀ handle statements, r = .ok (handle, statements) →
        statements ≠ [] := by
  rcases hask : ask c request w with ⟨failure | proposal, v⟩
  · exact ⟨_, s, v, run_prepare_silent hask, rfl, Noted.refl _ _, rfl, fun _ _ h => by cases h⟩
  · have husage : s.ledger.Noted e.record.findingId
        (s.addUsage e.record.findingId proposal.usage).ledger :=
      (Noted.refl _ _).updateRecord fun r => ⟨r.verifierRuns, r.usage + proposal.usage, rfl⟩
    have hin := Inward.applyAll (s.addUsage e.record.findingId proposal.usage).store
      proposal.patches v
    rw [run_prepare, hask]
    dsimp only
    rw [run_bind]
    revert hin
    rcases ((s.addUsage e.record.findingId proposal.usage).store.applyAll proposal.patches).run v
      with ⟨⟨failure | handle, store⟩, u⟩
    · exact fun hin => ⟨_, _, u, rfl, rfl, husage, hin, fun _ _ h => by cases h⟩
    · refine fun hin => ⟨_, _, _, rfl, rfl, husage, hin, fun _ _ h => ?_⟩
      obtain ⟨-, rfl⟩ := Prod.mk.inj (Except.ok.inj h)
      exact statements_ne_nil hask

/-- A round made for a finding of the ledger `l` has gone on from the world `w` without
calling anybody; the findings of the report on its change are given, if it can be read. -/
structure Closes (c : Controller ε) (id : FindingId) (l : Ledger) (target : HarnessTarget)
    (w : World ε) (reported : Option (List Finding))
    (x : (Except SessionFailure RoundEnd × Session) × World ε) : Prop where
  target_eq : x.1.2.target = target
  outside_eq : x.2.outside = w.outside
  turn : Turn c.budget id l x.1.1 (if x.1.1 = .ok .settled then reported else none)
    x.1.2.ledger

variable {target : HarnessTarget} {reported : Option (List Finding)} {handle : Nat}
  {statements : List String}

theorem closes_charge (hl : l.Noted id s.ledger) (htarget : s.target = target)
    (cause : FailureCause) (w : World ε) :
    Closes c id l target w reported
      ((do return (.ok .unsettled, ← charge c s id (some cause) statements) :
        Run ε (Except SessionFailure RoundEnd × Session)).run w) := by
  obtain ⟨u, hrun, htold⟩ := run_charge c s id (some cause) statements w
  rw [run_bind, hrun]
  exact ⟨htarget, htold.outside_eq, .failed hl cause statements⟩

/-- Undoing a change goes wrong, or the round goes on. -/
theorem closes_undo (hl : l.Noted id s.ledger) (htarget : s.target = target)
    {next : PatchStore → Run ε (Except SessionFailure RoundEnd × Session)}
    (hnext : ∀ store w, Closes c id l target w reported ((next store).run w)) (w : World ε) :
    Closes c id l target w reported
      ((do
        match ← s.store.revert handle with
        | (.error e, store) => return (.error (.patch e), { s with store := store })
        | (.ok (), store) => next store :
        Run ε (Except SessionFailure RoundEnd × Session)).run w) := by
  have hin := Inward.revert s.store handle w
  rw [run_bind]
  rcases hrevert : (s.store.revert handle).run w with ⟨⟨failure | _, store⟩, u⟩
  · rw [hrevert] at hin
    exact ⟨htarget, hin, .fatal hl _⟩
  · rw [hrevert] at hin
    obtain ⟨htarget', hout, hturn⟩ := hnext store u
    exact ⟨htarget', hout.trans hin, hturn⟩

theorem closes_reject (hl : l.Noted id s.ledger) (htarget : s.target = target)
    (cause : FailureCause) (w : World ε) :
    Closes c id l target w reported ((reject c s id handle cause statements).run w) := by
  rw [reject]
  refine closes_undo hl htarget (fun store u => ?_) w
  exact closes_charge (s := { s with store := store }) hl htarget cause u

theorem closes_accept (hl : l.Noted id s.ledger) (htarget : s.target = target)
    (hne : statements ≠ []) {others : List Finding} (hgone : id ∉ others.map (·.id))
    (w : World ε) :
    Closes c id l target w (some others) ((accept c s id handle statements others).run w) := by
  rw [accept]
  rcases s.store.commit handle with ⟨failure | _, store⟩
  · exact ⟨htarget, rfl, .fatal hl _⟩
  · let t : Session :=
      (charged c { s with store := store } id none statements).resolvedBy id statements
    have ht : t.ledger = s.ledger.updateRecord id fun r =>
        { r.charge none statements c.budget with
          state := .resolved
          keptStatements := statements } :=
      update_update (g := fun e => { e with record := e.record.charge none statements c.budget })
        (fun _ => rfl) _
    have hsettle : ∀ v : World ε, Told w v → Closes c id l target w (some others)
        ((do return (.ok .settled, ← t.absorb id others) :
          Run ε (Except SessionFailure RoundEnd × Session)).run v) := by
      intro v htold
      obtain ⟨u, hrun, htold'⟩ := run_absorb t id others v
      have hledger : (t.absorbed id others).ledger =
          s.ledger.confirmed c.budget id statements others := by
        rw [absorbed, ht]
        rfl
      rw [run_bind, hrun]
      refine ⟨htarget, (htold.trans htold').outside_eq, ?_⟩
      change Turn c.budget id l (.ok .settled) (some others) (t.absorbed id others).ledger
      rw [hledger]
      exact .kept hl hne hgone
    obtain ⟨v, hrun, htold⟩ := run_charge c { s with store := store } id none statements w
    dsimp only
    rw [run_bind, hrun]
    dsimp only
    split
    · exact hsettle _ (htold.trans (told_tell ..))
    · exact hsettle v htold

/-- The verifier is run on a change, and then the round closes. -/
theorem closes_tryOut (hl : l.Noted id s.ledger) {finding : Finding} (hname : finding.id = id)
    (hne : statements ≠ []) (w : World ε) :
    Closes c id l s.target ((c.verifier.run s.target).run w).2
      ((reported? c s w).map (relevant c s))
      ((tryOut c s finding handle statements).run w) := by
  have hverified : l.Noted id (s.verified id).ledger :=
    hl.updateRecord fun r => ⟨r.verifierRuns + 1, r.usage, rfl⟩
  obtain ⟨u, hrun, htold⟩ := run_verify c { s with
    ledger := s.ledger.updateRecord finding.id fun r =>
      { r with verifierRuns := r.verifierRuns + 1 } } w
  -- what comes after the run of the verifier only tells events on the way
  have hclose : ∀ {reported x}, Closes c id l s.target u reported x →
      Closes c id l s.target ((c.verifier.run s.target).run w).2 reported x :=
    fun h => ⟨h.target_eq, h.outside_eq.trans htold.outside_eq, h.turn⟩
  subst hname
  rw [tryOut]
  dsimp only
  rw [run_bind, hrun]
  dsimp only
  rw [reported?]
  cases reading s.target ((c.verifier.run s.target).run w).1 with
  | error failure =>
    cases failure with
    | infrastructure e => exact hclose (closes_reject hverified rfl _ u)
    | parse e =>
      exact hclose (closes_undo hverified rfl (fun _ _ => ⟨rfl, rfl, .fatal hverified _⟩) u)
    | patch e =>
      exact hclose (closes_undo hverified rfl (fun _ _ => ⟨rfl, rfl, .fatal hverified _⟩) u)
    | overflow o =>
      exact hclose (closes_undo hverified rfl (fun _ _ => ⟨rfl, rfl, .fatal hverified _⟩) u)
  | ok report =>
    dsimp only
    cases hj : judge c.mode.targets s.target s.store finding report with
    | error o => exact hclose ⟨rfl, rfl, .fatal hverified _⟩
    | ok judgement =>
      cases judgement with
      | harmful introduced => exact hclose (closes_reject hverified rfl _ u)
      | persists still =>
        refine hclose (closes_undo hverified rfl (fun store v => ?_) u)
        exact closes_charge (s := { s.verified finding.id with
          store := store, ledger := (s.verified finding.id).ledger.observe still })
          (hverified.observe (judge_persists hj)) rfl .notResolved v
      | unreached => exact hclose (closes_reject hverified rfl _ u)
      | resolved others =>
        obtain ⟨rfl, hgone, -⟩ := judge_resolved hj
        exact hclose (closes_accept hverified rfl hne hgone u)

end Session

/-! ### The round -/

namespace Visit

open Session

variable {c : Controller ε} {v : Visit ε} {id : FindingId}

/-- Where the verifier is run, only counters have changed. -/
theorem noted_trial {s : Session} {w : World ε} (h : v.trial? c = some (s, w)) :
    v.session.ledger.Noted v.entry.record.findingId s.ledger := by
  obtain ⟨r, t, u, hrun, -, hnoted, -⟩ := run_prepare_cases c v.session v.entry v.request v.world
  rw [trial?, hrun] at h
  cases r with
  | error failure => cases h
  | ok made =>
    obtain ⟨rfl, -⟩ := Prod.mk.inj (Option.some.inj h)
    exact hnoted

/-- What a round makes of the ledger and the target, and whom it calls. -/
theorem result_cases (hid : v.entry.record.findingId = id) (hname : v.entry.finding.id = id) :
    Turn c.budget id v.session.ledger (v.result c).1.1 (v.accepted? c) (v.result c).1.2.ledger ∧
      (v.result c).1.2.target = v.session.target ∧
      ∀ path book, Scribe c path v.session.target book →
        book (v.result c).2.outside = book v.world.outside ++ v.calls c path := by
  obtain ⟨r, s, w, hrun, htarget, hnoted, hout, hne⟩ :=
    run_prepare_cases c v.session v.entry v.request v.world
  rw [hid] at hnoted
  have hasked : ∀ path book, Scribe c path v.session.target book →
      book w.outside = book v.world.outside ++ [.asked v.request] := by
    intro path book hbook
    rw [hout, ask_eq]
    exact hbook.asked v.request v.world
  cases r with
  | error failed =>
    obtain ⟨cause, statements⟩ := failed
    have htrial : v.trial? c = none := by rw [trial?, hrun]
    have hresult : v.result c = (do
        return (.ok .unsettled, ← charge c s id (some cause) statements) :
        Run ε (Except SessionFailure RoundEnd × Session)).run w := by
      rw [result_eq, hrun, hid]
    have hcloses : Closes c id v.session.ledger v.session.target w none (v.result c) := by
      rw [hresult]
      exact closes_charge hnoted htarget cause w
    obtain ⟨htarget', hcalled, hturn⟩ := hcloses
    obtain ⟨u, hcharge, -⟩ := run_charge c s id (some cause) statements w
    have hopen : (v.result c).1.1 = .ok .unsettled := by rw [hresult, run_bind, hcharge]; rfl
    refine ⟨?_, htarget', ?_⟩
    · rw [accepted?, hopen]
      rwa [hopen, if_neg (by simp)] at hturn
    · intro path book hbook
      rw [hcalled, hasked path book hbook, calls, htrial]
  | ok made =>
    obtain ⟨handle, statements⟩ := made
    have htrial : v.trial? c = some (s, w) := by rw [trial?, hrun]
    have hresult : v.result c = (tryOut c s v.entry.finding handle statements).run w := by
      rw [result_eq, hrun]
    have hcloses : Closes c id v.session.ledger s.target ((c.verifier.run s.target).run w).2
        ((reported? c s w).map (relevant c s)) (v.result c) := by
      rw [hresult]
      exact closes_tryOut hnoted hname (hne handle statements rfl) w
    obtain ⟨htarget', hcalled, hturn⟩ := hcloses
    refine ⟨?_, htarget'.trans htarget, ?_⟩
    · -- a report is accepted only where the round settles its finding
      have haccepted : v.accepted? c = if (v.result c).1.1 = .ok .settled then
          (reported? c s w).map (relevant c s) else none := by
        rw [accepted?, htrial]
        split
        · next hsettled heq =>
          obtain ⟨rfl, rfl⟩ := Prod.mk.inj (Option.some.inj heq)
          rw [if_pos hsettled]
        · next hopen => rw [if_neg fun hsettled => hopen s w hsettled rfl]
      rwa [haccepted]
    · intro path book hbook
      rw [hcalled, htarget, hbook.verified, hasked path book hbook, calls, htrial,
        List.append_assoc]
      rfl

end Visit

end HarnessRepair
