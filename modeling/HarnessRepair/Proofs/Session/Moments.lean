import HarnessRepair.Proofs.Session.Footing
import HarnessRepair.Proofs.Verifier.Clean

/-!
# A session from moment to moment

A session is watched where it turns to a party outside, after every round, and where
it takes up a finding.  At all these moments its ledger is orderly, and from any of
them to a later one it only grows: no record is lost, moved or taken back.  And in the
file there is what has been kept so far, and the proposal that is on trial.

## Main definitions

* `Session.moments` — the sessions that are seen in the course of a run.
* `Ledger.Passes` — what holds of the moments between two ledgers.

## Main results

* `Attempted.passes`, `Repaired.passes`, `Ran.passes` — the moments of a finding, of all of
  them, and of a session.
* `Session.run_keeps_order` — **no finding is lost or comes back.**
* `Session.run_keeps_confirmed` — **nothing but the kept proposals is ever in the file, except for
  the one on trial.**
-/

namespace HarnessRepair

variable {ε : Type}

/-! ### Moments -/

/-- The sessions that are seen at a visit: when the oracle is asked, when a proposal is in
the harness, when the verifier is run on it, and after the round. -/
def Visit.moments (c : Controller ε) (v : Visit ε) : List Session :=
  v.session ::
    ((match v.trial? c with
      | some (s, _) => [s, s.verified v.entry.record.findingId]
      | none => []) ++ [(v.result c).1.2])

/-- The sessions that are seen while a finding is repaired. -/
def Repair.moments (c : Controller ε) (r : Repair ε) : List Session :=
  r.session :: r.session.taking r.id :: (r.visits c).flatMap (·.moments c)

/-- The sessions that are seen in the course of a run. -/
def Session.moments (c : Controller ε) (s : Session) (w : World ε) : List Session :=
  s :: ((repairs c s w).flatMap (·.moments c) ++ [((run c s).run w).1.2])

namespace Ledger

open LedgerEntry

variable {b : Attempts} {id : FindingId} {l m n : Ledger} {s : Session} {ms ns : List Session}

/-- Only how the finding at work looks has changed, and how its work is counted: so the
ledger grows to whatever it would have grown to. -/
theorem Noted.grows_of_grows (hm : l.Noted id m) (hw : Working id l) (hgrows : l.Grows n) :
    m.Grows n := by
  obtain ⟨g, hg, rfl⟩ := hm
  obtain ⟨k, e, hat⟩ := hw.atWork
  rw [hat.update_eq]
  intro i d hd
  by_cases hi : k = i
  · subst hi
    rw [List.getElem?_set_self (List.getElem?_eq_some_iff.1 hat.entry).1] at hd
    obtain rfl := Option.some.inj hd
    obtain ⟨e', he', hgrown⟩ := hgrows k e hat.entry
    obtain ⟨runs, usage, hrec⟩ := hg.record_eq e
    refine ⟨e', he', .of_open ?_ (hgrown.id_eq.trans (hg.id_eq e).symm) ?_⟩
    · rw [Done, hrec]
      exact hat.not_done
    · rw [hrec]
      exact hgrown.history
  · rw [List.getElem?_set_ne hi] at hd
    exact hgrows i d hd

/-- What holds of the moments `ms` between the ledgers `l` and `m`. -/
structure Passes (b : Attempts) (l : Ledger) (ms : List Session) (m : Ledger) : Prop where
  grows : l.Grows m
  orderly : ∀ s ∈ ms, s.ledger.Orderly
  balanced : ∀ s ∈ ms, ∀ e ∈ s.ledger, e.record.Balanced b
  after : ∀ s ∈ ms, l.Grows s.ledger
  before : ∀ s ∈ ms, s.ledger.Grows m
  pairwise : ms.Pairwise fun s t => s.ledger.Grows t.ledger

namespace Passes

theorem nil (h : l.Grows m) : Passes b l [] m where
  grows := h
  orderly := List.forall_mem_nil _
  balanced := List.forall_mem_nil _
  after := List.forall_mem_nil _
  before := List.forall_mem_nil _
  pairwise := .nil

theorem cons (hgrows : l.Grows s.ledger) (horderly : s.ledger.Orderly)
    (hbalanced : ∀ e ∈ s.ledger, e.record.Balanced b) (h : Passes b s.ledger ms m) :
    Passes b l (s :: ms) m where
  grows := hgrows.trans h.grows
  orderly := List.forall_mem_cons.2 ⟨horderly, h.orderly⟩
  balanced := List.forall_mem_cons.2 ⟨hbalanced, h.balanced⟩
  after := List.forall_mem_cons.2 ⟨hgrows, fun t ht => hgrows.trans (h.after t ht)⟩
  before := List.forall_mem_cons.2 ⟨h.grows, h.before⟩
  pairwise := .cons h.after h.pairwise

theorem append (h : Passes b l ms m) (h' : Passes b m ns n) : Passes b l (ms ++ ns) n where
  grows := h.grows.trans h'.grows
  orderly := List.forall_mem_append.2 ⟨h.orderly, h'.orderly⟩
  balanced := List.forall_mem_append.2 ⟨h.balanced, h'.balanced⟩
  after := List.forall_mem_append.2 ⟨h.after, fun s hs => h.grows.trans (h'.after s hs)⟩
  before := List.forall_mem_append.2 ⟨fun s hs => (h.before s hs).trans h'.grows, h'.before⟩
  pairwise := List.pairwise_append.2
    ⟨h.pairwise, h'.pairwise, fun s hs t ht => (h.before s hs).trans (h'.after t ht)⟩

end Passes

theorem InOrder.balanced (h : InOrder b l) : ∀ e ∈ l, e.record.Balanced b :=
  fun e he => (h.standing e he).balanced

end Ledger

open Ledger

/-! ### Moments in a row -/

/-- The moments of a visit. -/
theorem Visit.Due.passes {c : Controller ε} {id : FindingId} {v : Visit ε} (h : v.Due c id) :
    Passes c.budget v.session.ledger (v.moments c) (v.result c).1.2.ledger := by
  have hturn := h.turn
  obtain ⟨horder, hgrows⟩ := hturn.inOrder h.working h.inOrder
  have horderly : (v.result c).1.2.ledger.Orderly := by
    by_cases hsettled : (v.result c).1.1 = .ok .settled
    · rw [hsettled] at hturn
      exact (hturn.settled h.working h.inOrder).1.orderly horder
    · exact (hturn.working h.working h.inOrder hsettled).orderly horder
  have hend : ∀ {l : Ledger}, l.Grows (v.result c).1.2.ledger →
      Passes c.budget l [(v.result c).1.2] (v.result c).1.2.ledger :=
    fun hl => .cons hl horderly horder.balanced (.nil (.refl _))
  refine .cons (.refl _) (h.working.orderly h.inOrder) h.inOrder.balanced ?_
  cases htrial : v.trial? c with
  | none => exact hend hgrows
  | some tried =>
    obtain ⟨s, w⟩ := tried
    have hnoted := Visit.noted_trial htrial
    rw [h.id_eq] at hnoted ⊢
    have hverified := h.noted_verified htrial
    obtain ⟨hw, ho, htaken⟩ := h.working.noted h.inOrder hnoted
    obtain ⟨hw', ho', htaken'⟩ := h.working.noted h.inOrder hverified
    have hstep : s.ledger.Grows (s.verified id).ledger := hnoted.grows_of_grows h.working htaken'
    exact .cons htaken (hw.orderly ho) ho.balanced <| .cons hstep (hw'.orderly ho') ho'.balanced <|
      hend (hverified.grows_of_grows h.working hgrows)

/-- The moments of the rounds made for a finding. -/
theorem Attempted.passes {c : Controller ε} {id : FindingId} {s t : Session} {w u : World ε}
    {vs : List (Visit ε)} {r : Except SessionFailure Unit} (h : Attempted c id s w vs r t u)
    (hw : s.ledger.Working id) (ho : s.ledger.InOrder c.budget) :
    Passes c.budget s.ledger (vs.flatMap (·.moments c)) t.ledger := by
  induction h with
  | spent hfind hnone htold => exact .nil ((Attempted.spent hfind hnone htold).ends hw ho).2.1
  | unasked hfind hbudget hrequest => exact .nil (.refl _)
  | fatal hfind hbudget hresult =>
    have hpasses := Visit.Due.passes ⟨hw, ho, hfind⟩
    rw [hresult] at hpasses
    rwa [List.flatMap_singleton]
  | settled hfind hbudget hresult =>
    have hpasses := Visit.Due.passes ⟨hw, ho, hfind⟩
    rw [hresult] at hpasses
    rwa [List.flatMap_singleton]
  | again hfind hbudget hresult hrest ih =>
    have hdue : Visit.Due c id _ := ⟨hw, ho, hfind⟩
    obtain ⟨hw', ho', -⟩ := hdue.again hresult
    have hpasses := hdue.passes
    rw [hresult] at hpasses
    rw [List.flatMap_cons]
    exact hpasses.append (ih hw' ho')

/-- The moments of the findings of a session, and the end. -/
theorem Repaired.passes {c : Controller ε} {s t : Session} {w u : World ε}
    {ps : List (Repair ε)} {outcome : Except Overflow SessionOutcome}
    (h : Repaired c s w ps outcome t u)
    (hq : s.ledger.Queued) (ho : s.ledger.InOrder c.budget) :
    Passes c.budget s.ledger (ps.flatMap (·.moments c) ++ [t]) t.ledger := by
  have hone : ∀ {p : Repair ε} {t : Session} {u : World ε} {r},
      p.session.ledger.Queued → p.session.ledger.InOrder c.budget →
      p.session.ledger.nextPending? = some p.id →
      Attempted c p.id (p.session.taking p.id) p.world (p.visits c) r t u →
      (p.session.taking p.id).ledger.Working p.id ∧
        (p.session.taking p.id).ledger.InOrder c.budget ∧
        Passes c.budget p.session.ledger (p.moments c) t.ledger := by
    intro p t u r hq ho hnext h
    obtain ⟨hw, ho', hgrows⟩ := Session.working_taking hq ho hnext
    exact ⟨hw, ho', .cons (.refl _) (hq.orderly ho) ho.balanced
      (.cons hgrows (hw.orderly ho') ho'.balanced (h.passes hw ho'))⟩
  induction h with
  | done hnext htold => exact .cons (.refl _) (hq.orderly ho) ho.balanced (.nil (.refl _))
  | fatal hnext h htold =>
    obtain ⟨hw, ho', hpasses⟩ := hone hq ho hnext h
    obtain ⟨horder, -, -, -, hopen⟩ := h.ends hw ho'
    have horderly := (hopen (by simp)).orderly horder
    rw [List.flatMap_singleton]
    refine hpasses.append (.cons ?_ ?_ ?_ (.nil (.refl _)))
    · exact Session.of_ledger_ended _ (.refl _) (blockRemaining_grows _)
    · exact Session.of_ledger_ended _ horderly horderly.blockRemaining
    · exact Session.of_ledger_ended (P := fun l => ∀ e ∈ l, e.record.Balanced c.budget) _
        horder.balanced (balanced_blockRemaining horder.balanced)
  | next hnext h hrest ih =>
    obtain ⟨hw, ho', hpasses⟩ := hone hq ho hnext h
    obtain ⟨horder, -, -, hend, -⟩ := h.ends hw ho'
    rw [List.flatMap_cons, List.append_assoc]
    exact hpasses.append (ih (hend rfl).1 horder)

/-- The moments of a whole session. -/
theorem Ran.passes {c : Controller ε} {s t : Session} {w u : World ε} {ps : List (Repair ε)}
    {outcome : Except Overflow SessionOutcome} (h : Ran c s w ps outcome t u)
    (hempty : s.ledger = []) :
    Passes c.budget [] (s :: (ps.flatMap (·.moments c) ++ [t])) t.ledger := by
  have hledger : s.ledger.Orderly := by
    rw [hempty]
    exact queued_nil.orderly (inOrder_nil c.budget)
  refine .cons (.nil _) hledger (by simp [hempty]) ?_
  cases h with
  | refused hinitial htold =>
    refine .cons (blockRemaining_grows _) hledger.blockRemaining ?_ (.nil (.refl _))
    exact balanced_blockRemaining (by simp [hempty])
  | started hinitial htold h =>
    obtain ⟨hqueued, horder, hentered⟩ := Session.queued_begun c.budget hempty _
    have hpasses := h.passes hqueued horder
    have hbegin := hentered.grows
    rw [← hempty] at hbegin
    exact (Passes.nil hbegin).append hpasses

namespace Session

variable {c : Controller ε} {s : Session} {w : World ε}

theorem passes_moments (hempty : s.ledger = []) :
    Passes c.budget [] (moments c s w) ((run c s).run w).1.2.ledger := by
  obtain ⟨outcome, t, u, hrun, hran⟩ := ran_run (c := c) hempty w
  rw [moments, hrun]
  exact hran.passes hempty

/-- **No finding is lost or comes back.**  At every moment the ledger is orderly, and from
one moment to a later one it grows.  Each report that is accepted, the first one and those
that confirm a change, has all its findings in the ledger afterwards; and what waited before
is resolved along with the finding at work exactly if it is not in the report. -/
theorem run_keeps_order (hempty : s.ledger = []) :
    (∀ m ∈ moments c s w, m.ledger.Orderly) ∧
    (moments c s w).Pairwise (fun m n => m.ledger.Grows n.ledger) ∧
    (∀ t u, (start c s).run w = ((.ok (), t), u) → ∃ fs, initial? c s w = some fs ∧
      ∀ f ∈ fs, ∃ e ∈ t.ledger, e.record.findingId = f.id) ∧
    ∀ v ∈ visits c s w, (v.result c).1.1 = .ok .settled → ∃ fs, v.accepted? c = some fs ∧
      (∀ f ∈ fs, ∃ e ∈ (v.result c).1.2.ledger, e.record.findingId = f.id) ∧
      ∀ (i : Nat) (e : LedgerEntry), v.session.ledger[i]? = some e →
        e.record.state = .pending → ∃ e', (v.result c).1.2.ledger[i]? = some e' ∧ e'.record =
          if e.record.findingId ∈ fs.map (·.id) then e.record
          else { e.record with
            state := .resolved
            resolvedBy := some v.entry.record.findingId } := by
  have hpasses := passes_moments (c := c) (w := w) hempty
  refine ⟨hpasses.orderly, hpasses.pairwise, ?_, ?_⟩
  · intro t u hstart
    obtain ⟨u', -, ⟨failure, -, hrun⟩ | ⟨fs, hinitial, hrun⟩⟩ := run_start_cases c s w
    · rw [hstart] at hrun
      cases hrun
    · rw [hstart] at hrun
      obtain ⟨hrun, -⟩ := Prod.mk.inj hrun
      obtain ⟨-, rfl⟩ := Prod.mk.inj hrun
      exact ⟨fs, hinitial, (queued_begun c.budget hempty fs).2.2.known⟩
  · intro v hv hsettled
    obtain ⟨id, hdue⟩ := due_of_mem_visits hempty hv
    have hturn := hdue.turn
    rw [hsettled] at hturn
    obtain ⟨-, fs, haccepted, -, htaken⟩ := hturn.settled hdue.working hdue.inOrder
    rw [hdue.id_eq]
    exact ⟨fs, haccepted, htaken.known, htaken.waiting⟩

/-! ### A finding that takes two requests -/

/-- The small harness with the precondition that is missing. -/
def smallRepaired : String :=
  "void harness()\x7b\r\n  int n;\r\n  assume(n != 3);\r\n  assume(n);\r\n  f(n);\r\n\x7d"

/-- The proposal that puts it there. -/
def smallProposal : Proposal := { patches := [smallPatch "assume(n != 3);"] }

theorem extend_smallProposal : ∃ next,
    ({ source := smallHarness } : Snapshot).extend smallProposal.patches = .ok next ∧
      next.source = smallRepaired := by
  have hfits : (({ source := smallHarness } : Snapshot).extend smallProposal.patches).toOption.map
      (·.source) = some smallRepaired := by
    decide +kernel
  cases hext : ({ source := smallHarness } : Snapshot).extend smallProposal.patches with
  | error failure =>
    rw [hext] at hfits
    cases hfits
  | ok next =>
    rw [hext] at hfits
    exact ⟨next, rfl, Option.some.inj hfits⟩

/-- A verifier that finds something until the precondition is there, and an oracle that has
nothing to propose before it is told of a failure.  Both write every call down. -/
def hesitantController : Controller (List Call) where
  verifier :=
    { name := "small"
      run := fun target => do
        let text := (← get).files.readText target.harnessFile
        modify fun w => { w with outside := w.outside ++ [.verified text] }
        let found := Text.contains (text.toOption.getD "") "n != 3"
        return .ok (if found then cleanReport else oneReport) }
  oracle :=
    { name := "hesitant"
      propose := fun request => do
        modify fun w => { w with outside := w.outside ++ [.asked request] }
        return if request.previousFailure.isNone then none else some (.ok smallProposal) }
  mode := .errors
  budget := .whole 2
  oracleTimeout := 60

theorem run_hesitantVerifier {target : HarnessTarget} {text : String} {w : World (List Call)}
    (h : Holds target.harnessFile text w) :
    (hesitantController.verifier.run target).run w =
      (.ok (if Text.contains text "n != 3" then cleanReport else oneReport),
        { w with outside := w.outside ++ [.verified (.ok text)] }) := by
  have hread : w.files.readText target.harnessFile = .ok text := h
  change (_, _) = _
  rw [hread]
  rfl

theorem run_hesitantOracle (request : RepairRequest) (w : World (List Call)) :
    (hesitantController.oracle.propose request).run w =
      (if request.previousFailure.isNone then none else some (.ok smallProposal),
        { w with outside := w.outside ++ [.asked request] }) := rfl

theorem scribe_hesitantController (target : HarnessTarget) :
    Scribe hesitantController target.harnessFile target fun calls => calls where
  asked := fun _ _ => rfl
  verified := fun _ => rfl

/-- Why the first round fails. -/
def hesitation : FailureCause := .oracleFailed (OracleFailure.timeout 60).message

/-- A session on a file with the small harness, in which no change has been made. -/
structure OnSmall (ledger : Ledger) (s : Session) (w : World (List Call)) : Prop where
  path_eq : s.store.path = s.target.harnessFile
  elsewhere : oneFinding.location.isIn s.target.harnessFile = false
  current_eq : s.store.current = { source := smallHarness }
  idle : s.store.inFlight = none
  ledger_eq : s.ledger = ledger
  holds : Holds s.target.harnessFile smallHarness w

theorem OnSmall.find?_eq {s : Session} {w : World (List Call)} {e : LedgerEntry}
    (h : OnSmall [e] s w) : s.ledger.find? e.record.findingId = some e := by
  rw [h.ledger_eq]
  simp [find?]

/-- What becomes of such a session: its finding takes two requests. -/
structure Hesitated (s : Session) (w : World (List Call)) (p : Repair (List Call))
    (v₁ v₂ : Visit (List Call)) (t : Session) (u : World (List Call)) : Prop where
  run_eq : (run hesitantController s).run w = ((.ok ⟨.clean, none⟩, t), u)
  repairs_eq : repairs hesitantController s w = [p]
  visits_eq : p.visits hesitantController = [v₁, v₂]
  /-- The first time the oracle has nothing to propose. -/
  silent : (v₁.result hesitantController).1.1 = .ok .unsettled ∧
    v₁.trial? hesitantController = none ∧ v₁.request.previousFailure = none
  /-- Then it is told so, and its proposal is kept. -/
  settled : (v₂.result hesitantController).1.1 = .ok .settled ∧
    v₂.accepted? hesitantController = some [] ∧
    v₂.request.previousFailure = some hesitation
  kept : t.store.current.log.map (·.patch) = smallProposal.patches
  outside_eq : u.outside = w.outside ++ [.verified (.ok smallHarness), .asked v₁.request,
    .asked v₂.request, .verified (.ok smallRepaired)]

theorem Hesitated.mem_visits {s : Session} {w u : World (List Call)} {p : Repair (List Call)}
    {v₁ v₂ : Visit (List Call)} {t : Session} (h : Hesitated s w p v₁ v₂ t u) :
    v₂ ∈ visits hesitantController s w := by
  rw [Session.visits_eq, h.repairs_eq, List.flatMap_singleton, h.visits_eq]
  exact List.mem_cons_of_mem _ List.mem_cons_self

/-- The one entry of a ledger is resolved. -/
theorem confirmed_single (b : Attempts) (statements : List String) {e : LedgerEntry}
    {id : FindingId} (he : e.record.findingId = id) :
    ∃ d, confirmed b [e] id statements [] = [d] ∧ d.record.state = .resolved := by
  subst he
  refine ⟨{ e with record := { e.record.charge none statements b with
    state := .resolved, keptStatements := statements } }, ?_, rfl⟩
  simp [confirmed, updateRecord, update, settle, isGone]

section

variable {s : Session} {w : World (List Call)} {r : AttemptRecord}

theorem initial_hesitant (h : OnSmall [] s w) :
    initial? hesitantController s w = some [oneFinding] := by
  have hnot : Text.contains smallHarness "n != 3" = false := by decide +kernel
  rw [initial?, reported?, run_hesitantVerifier ((told_opened _ _ _).holds h.holds), hnot,
    reading, if_neg Bool.false_ne_true, readReport_oneReport]
  rfl

theorem exists_request_oneFinding (h : OnSmall [⟨r, oneFinding⟩] s w) :
    ∃ request, s.request ⟨r, oneFinding⟩ w = .ok request := by
  have hfar : max oneFinding.location.line 1 + excerptRadius < Text.wordLimit := by decide
  exact exists_request (fun _ => hfar) fun hin =>
    absurd (hin.symm.trans h.elsewhere) (by decide)

/-- The first round fails, since the oracle has nothing to propose. -/
theorem result_silent {v : Visit (List Call)} (h : OnSmall [v.entry] v.session v.world)
    (hcause : v.entry.record.lastCause? = none) : ∃ t u,
      v.result hesitantController = ((.ok .unsettled, t), u) ∧
      v.trial? hesitantController = none ∧
      OnSmall [{ v.entry with record := v.entry.record.charge (some hesitation) [] (.whole 2) }]
        t u ∧
      u.outside = v.world.outside ++ [.asked v.request] := by
  have hsilent : v.answer hesitantController = .error (.timeout 60) := by
    rw [Visit.answer, run_consult, run_hesitantOracle, v.previousFailure_eq, hcause]
    rfl
  obtain ⟨htrial, u, hresult, htold⟩ := v.result_of_silent hsilent
  rw [run_hesitantOracle] at htold
  refine ⟨_, u, hresult, htrial, ?_, htold.outside_eq⟩
  have hledger : (v.session.ledger.updateRecord v.entry.record.findingId fun r =>
      r.charge (some hesitation) [] (.whole 2)) =
        [{ v.entry with record := v.entry.record.charge (some hesitation) [] (.whole 2) }] := by
    rw [h.ledger_eq]
    simp [updateRecord, update]
  exact ⟨h.path_eq, h.elsewhere, h.current_eq, h.idle, hledger, htold.holds h.holds⟩

/-- The next round settles its finding. -/
theorem result_told {v : Visit (List Call)} (h : OnSmall [v.entry] v.session v.world)
    (hfinding : v.entry.finding = oneFinding) (hid : v.entry.record.findingId = oneFinding.id)
    {cause : FailureCause} (hcause : v.entry.record.lastCause? = some cause) : ∃ t u,
      v.result hesitantController = ((.ok .settled, t), u) ∧
      v.accepted? hesitantController = some [] ∧
      (∃ e, t.ledger = [e] ∧ e.record.state = .resolved) ∧
      t.store.current.log.map (·.patch) = smallProposal.patches ∧
      u.outside = v.world.outside ++ [.asked v.request, .verified (.ok smallRepaired)] := by
  have hanswer : v.answer hesitantController = .ok smallProposal := by
    rw [Visit.answer, run_consult, run_hesitantOracle, v.previousFailure_eq, hcause]
    rfl
  have hask := v.ask_eq hesitantController
  rw [hanswer, run_hesitantOracle] at hask
  obtain ⟨next, hext, hsource⟩ := extend_smallProposal
  obtain ⟨x, y, htrial, hstore, htarget, hmade, hout⟩ := v.exists_trial hask h.idle
    (h.current_eq ▸ hext) (h.path_eq.symm ▸ h.holds)
  rw [h.path_eq, hsource] at hmade
  have hrepaired : Text.contains smallRepaired "n != 3" = true := by decide
  have hheld : Holds x.target.harnessFile smallRepaired y := htarget ▸ hmade
  have hverify := run_hesitantVerifier hheld
  rw [hrepaired, if_pos rfl] at hverify
  have hreport : reported? hesitantController x y = some ⟨[], none⟩ := by
    have hread : readReport x.target.harnessFile cleanReport = .ok ⟨[], none⟩ :=
      readReport_nil (by decide +kernel) rfl
    rw [reported?, hverify, reading, hread]
    rfl
  have hshown : shownLocation x.target x.store oneFinding.location = .ok oneFinding.location := by
    have helsewhere := h.elsewhere
    rw [← htarget] at helsewhere
    exact if_neg (Bool.eq_false_iff.1 helsewhere)
  obtain ⟨t, u, hresult, haccepted, hkept, hout', -⟩ := v.result_of_resolved htrial hreport
    (hfinding ▸ judge_of_nil hshown rfl)
  have hturn := (v.result_cases (c := hesitantController) hid (hfinding ▸ rfl)).1
  rw [hresult, haccepted] at hturn
  refine ⟨t, u, hresult, haccepted, ?_, ?_, ?_⟩
  · obtain ⟨n, statements, ⟨g, hg, hn⟩, hafter⟩ := hturn.exists_confirmed
    rw [h.ledger_eq, update, List.map_singleton, if_pos hid] at hn
    rw [hn] at hafter
    exact hafter ▸ confirmed_single _ _ ((hg.id_eq _).trans hid)
  · rw [hkept, hstore]
    have hpatches := Snapshot.extend_patches hext
    exact hpatches
  · rw [hout', hverify, hout, List.append_assoc]
    rfl

/-- **One finding, two requests.** -/
theorem exists_hesitated (h : OnSmall [] s w) : ∃ p v₁ v₂ t u, Hesitated s w p v₁ v₂ t u := by
  obtain ⟨outcome, t, u, hrun, hran⟩ := ran_run (c := hesitantController) h.ledger_eq w
  obtain ⟨x, htold, hrepaired⟩ := hran.repaired (initial_hesitant h)
  have hopened := (told_opened hesitantController s w).holds h.holds
  rw [run_hesitantVerifier hopened] at htold
  have hledger :
      (s.begun [oneFinding]).ledger = [⟨{ findingId := oneFinding.id }, oneFinding⟩] := by
    rw [ledger_begun h.ledger_eq]
    rfl
  have hnext : (s.begun [oneFinding]).ledger.nextPending? = some oneFinding.id := by
    rw [hledger]
    rfl
  have hsmall : OnSmall
      [⟨{ findingId := oneFinding.id, state := .inProgress }, oneFinding⟩]
      ((s.begun [oneFinding]).taking oneFinding.id) x := by
    refine ⟨h.path_eq, h.elsewhere, h.current_eq, h.idle, ?_, htold.holds hopened⟩
    simp [taking, hledger, updateRecord, update]
  obtain ⟨asked, hasked⟩ := exists_request_oneFinding hsmall
  obtain ⟨qs, r, y, z, hrepairs, hattempted, hgoes, -⟩ := hrepaired.exists_cons hnext
  obtain ⟨rest, hvisits, -, hagain, -⟩ := hattempted.exists_cons hsmall.find?_eq rfl hasked
  -- the first visit: nothing is proposed
  let v₁ : Visit (List Call) := ⟨_, _, _, asked, hasked⟩
  obtain ⟨x₁, y₁, hresult₁, htrial₁, hsmall₁, hout₁⟩ := result_silent (v := v₁) hsmall rfl
  have hleft : ((({ findingId := oneFinding.id, state := .inProgress } : AttemptRecord).charge
      (some hesitation) [] (.whole 2)).hasBudget (.whole 2)) = true := by decide
  obtain ⟨asked', hasked'⟩ := exists_request_oneFinding hsmall₁
  obtain ⟨rest', rfl, hsettled, -⟩ :=
    (hagain _ _ hresult₁).exists_cons hsmall₁.find?_eq hleft hasked'
  -- the second: the oracle has been told so, and its proposal is kept
  let v₂ : Visit (List Call) := ⟨_, _, _, asked', hasked'⟩
  have hcause : v₂.entry.record.lastCause? = some hesitation := rfl
  obtain ⟨x₂, y₂, hresult₂, haccepted, ⟨e, hledger₂, hresolved⟩, hpatches, hout₂⟩ :=
    result_told hsmall₁ rfl rfl hcause
  obtain ⟨rfl, rfl, rfl, rfl⟩ := hsettled _ _ hresult₂
  have hnone : y.ledger.nextPending? = none := by
    rw [hledger₂]
    simp [nextPending?, hresolved]
  obtain ⟨rfl, rfl, rfl, hout⟩ := (hgoes rfl).of_done hnone
  have hclean : t.finalStatus = .clean := by
    rw [finalStatus, hledger₂]
    simp [hresolved]
  rw [hclean] at hrun
  refine ⟨_, v₁, v₂, t, u, hrun, hrepairs, hvisits, ?_, ?_, hpatches, ?_⟩
  · exact ⟨congrArg (·.1.1) hresult₁, htrial₁, v₁.previousFailure_eq⟩
  · exact ⟨congrArg (·.1.1) hresult₂, haccepted, v₂.previousFailure_eq⟩
  · have hverified : x.outside = w.outside ++ [.verified (.ok smallHarness)] := htold.outside_eq
    rw [hout, hout₂, hout₁, hverified]
    simp

end

theorem onSmall_smallSession : OnSmall [] smallSession smallStart :=
  ⟨rfl, by decide, rfl, rfl, rfl, rfl⟩

theorem run_keeps_order_smallSession :
    smallSession.ledger = [] ∧ ∃ p v₁ v₂ t u, Hesitated smallSession smallStart p v₁ v₂ t u ∧
      (∀ m ∈ moments hesitantController smallSession smallStart, m.ledger.Orderly) ∧
      (moments hesitantController smallSession smallStart).Pairwise
        (fun m n => m.ledger.Grows n.ledger) ∧
      (v₂.result hesitantController).1.1 = .ok .settled ∧
      ∃ fs, v₂.accepted? hesitantController = some fs ∧
        ∀ (i : Nat) (e : LedgerEntry), v₂.session.ledger[i]? = some e →
          e.record.state = .pending →
          ∃ e', (v₂.result hesitantController).1.2.ledger[i]? = some e' ∧
            e'.record = if e.record.findingId ∈ fs.map (·.id) then e.record
              else { e.record with
                state := .resolved
                resolvedBy := some v₂.entry.record.findingId } := by
  obtain ⟨p, v₁, v₂, t, u, h⟩ := exists_hesitated onSmall_smallSession
  obtain ⟨horderly, hgrows, -, haccepted⟩ :=
    run_keeps_order (c := hesitantController) (s := smallSession) (w := smallStart) rfl
  obtain ⟨fs, hfs, -, hwaiting⟩ := haccepted v₂ h.mem_visits h.settled.1
  exact ⟨rfl, p, v₁, v₂, t, u, h, horderly, hgrows, h.settled.1, fs, hfs, hwaiting⟩

/-! ### What is in the file -/

/-- **Nothing but the kept proposals is ever in the file, except for the one on trial**; and at
the end nothing is on trial, unless a sum that is too large stops the session in the middle. -/
theorem run_keeps_confirmed (h : Fresh s w) (hby : Bystanders c s.store.path s.target) :
    (∀ i v, (visits c s w)[i]? = some v →
      let kept := keptAt c ((visits c s w).take i)
      (v.session.store.inFlight = none ∧ v.session.store.log.map (·.patch) = kept.flatten ∧
        Holds s.store.path v.session.store.source v.world) ∧
      ∀ t u, v.trial? c = some (t, u) → ∃ proposal change, v.answer c = .ok proposal ∧
        t.store.inFlight = some change ∧ change.prior = v.session.store.current ∧
        Grown s.store.current (kept ++ [proposal.patches]) t.store.current ∧
        Holds s.store.path t.store.source u) ∧
    ∃ outcome t u, (run c s).run w = ((outcome, t), u) ∧
      (t.store.inFlight = none ∧
        Grown s.store.current (keptAt c (visits c s w)) t.store.current ∧
        Holds s.store.path t.store.source u ∧
        t.store.appliedStatements = t.ledger.directStatements.map Text.trim ∨
        (∃ o, outcome = .error o) ∧
          Stopped s.store.path s.store.current (keptAt c (visits c s w)) t u) ∧
      ∀ book, Scribe c s.store.path s.target book → book u.outside = book w.outside ++
        .verified (.ok s.store.source) :: (visits c s w).flatMap (·.calls c s.store.path) := by
  obtain ⟨r, s₁, w₁, hstart, htarget, hsound, hqueued, hcalls⟩ := run_start hby h
  have hby₁ : Bystanders c s.store.path s₁.target := by
    rw [htarget]
    exact hby
  -- a session that fails at the start has no visit
  have hled : ∃ outcome t u, (run c s).run w = ((outcome, t), u) ∧
      Led c s.store.path s.store.current [] (visits c s w) s₁ w₁ (∃ o, outcome = .error o)
        t u := by
    rw [run, visits, run_bind, hstart]
    cases r with
    | error failure =>
      have hstay : Led c s.store.path s.store.current [] [] s₁ w₁ False s₁ w₁ :=
        hsound.led rfl rfl rfl (Told.refl w₁)
      exact ⟨_, _, w₁, rfl,
        block_led hstay not_false ("initial verification failed: " ++ failure.message)⟩
    | ok _ => exact run_repairAll hby₁ hsound hqueued findingLimit
  obtain ⟨outcome, t, u, hrun, hled⟩ := hled
  constructor
  · intro i v hv
    have hproper := hled.proper.getElem? hv
    rw [List.nil_append] at hproper
    have hlog := hproper.sound.grown.patches
    have hnone : s.store.current.log = [] := h.log_eq
    rw [hnone, List.map_nil, List.nil_append] at hlog
    exact ⟨⟨hproper.sound.idle, hlog, hproper.sound.holds⟩, hproper.trial⟩
  · refine ⟨outcome, t, u, hrun, hled.left.imp_left fun hsound =>
      ⟨hsound.idle, hsound.grown, hsound.holds, hsound.statements⟩, ?_⟩
    intro book hbook
    rw [hled.calls book (htarget ▸ hbook), hcalls book hbook, List.append_assoc]
    rfl

theorem bystanders_hesitantController (path : String) (target : HarnessTarget) :
    Bystanders hesitantController path target where
  verifier := fun _ _ h => h
  oracle := fun _ _ _ h => h

theorem run_keeps_confirmed_smallSession :
    Fresh smallSession smallStart ∧
      Bystanders hesitantController smallSession.store.path smallSession.target ∧
      ∃ p v₁ v₂ t u, Hesitated smallSession smallStart p v₁ v₂ t u ∧
        (∃ x y change, v₂.trial? hesitantController = some (x, y) ∧
          x.store.inFlight = some change ∧ change.prior = v₂.session.store.current ∧
          Holds "harness.c" x.store.source y) ∧
        t.store.inFlight = none ∧
        Grown smallSession.store.current (keptAt hesitantController [v₁, v₂]) t.store.current ∧
        Holds "harness.c" t.store.source u ∧
        t.store.appliedStatements = t.ledger.directStatements.map Text.trim ∧
        u.outside = .verified (.ok smallHarness) ::
          [v₁, v₂].flatMap (·.calls hesitantController "harness.c") := by
  have hby := bystanders_hesitantController smallSession.store.path smallSession.target
  obtain ⟨p, v₁, v₂, t, u, h⟩ := exists_hesitated onSmall_smallSession
  have hvisits : visits hesitantController smallSession smallStart = [v₁, v₂] := by
    rw [Session.visits_eq, h.repairs_eq, List.flatMap_singleton, h.visits_eq]
  obtain ⟨hat, outcome, t', u', hrun, hleft, hcalls⟩ := run_keeps_confirmed fresh_smallSession hby
  cases hrun.symm.trans h.run_eq
  rw [hvisits] at hat hleft hcalls
  obtain ⟨hidle, hgrown, hholds, hstatements⟩ := hleft.resolve_right fun hstopped => by
    obtain ⟨⟨o, ho⟩, -⟩ := hstopped
    cases ho
  have hbook := hcalls _ (scribe_hesitantController smallSession.target)
  obtain ⟨x, y, -, htrial, -, -⟩ := v₂.exists_report_of_accepted h.settled.2.1
  obtain ⟨proposal, change, -, hflight, hprior, -, hon⟩ := (hat 1 v₂ rfl).2 x y htrial
  exact ⟨fresh_smallSession, hby, p, v₁, v₂, t, u, h, ⟨x, y, change, htrial, hflight, hprior, hon⟩,
    hidle, hgrown, hholds, hstatements, hbook⟩

end Session

end HarnessRepair
