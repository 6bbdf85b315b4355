import HarnessRepair.Proofs.Session.Sightings

/-!
# What the oracle is told

A request is put together from the text, from the record of its finding, and from how the finding
looked last.  All three are told here by what lies behind in the session: the changes that have
been kept, the rounds that have been written down, and the reports that have been seen.

## Main definitions

* `AttemptRecord.Numbered` — the rounds of a record have the numbers 1, 2, 3 and so on.
* `RepairRequest.Continues` — a request goes on where a history stops.
* `Visit.Briefed` — a request shows the harness and its finding as they are by what lies behind.

## Main results

* `Attempted.history` — before each round of a finding, those before it are written down.
* `Visit.Due.waits_of_accepted` — a report is accepted while other findings wait.
* `Session.run_tells_history` — **the oracle is told what has happened.**
-/

namespace HarnessRepair

variable {ε : Type}

open Ledger

/-! ### Rounds and their numbers -/

/-- The rounds of a record have the numbers 1, 2, 3 and so on, up to the largest one there is. -/
def AttemptRecord.Numbered (r : AttemptRecord) : Prop :=
  ∀ (i : Nat) a, r.history[i]? = some a → a.number = nextNumber i

/-- A round that is written down under the next number. -/
theorem AttemptRecord.Numbered.push {r r' : AttemptRecord} (h : r.Numbered) {cost : Attempts}
    {cause : Option FailureCause} {statements : List String}
    (hhistory : r'.history = r.history ++
      [⟨nextNumber r.history.length, cost, cause, statements⟩]) : r'.Numbered := by
  intro i a ha
  rw [hhistory] at ha
  rcases Nat.lt_trichotomy i r.history.length with hlt | rfl | hgt
  · rw [List.getElem?_append_left hlt] at ha
    exact h i a ha
  · rw [List.getElem?_concat_length] at ha
    obtain rfl := Option.some.inj ha
    rfl
  · have hlt := (List.getElem?_eq_some_iff.1 ha).1
    rw [List.length_append, List.length_singleton] at hlt
    omega

/-- Before each round of a finding, those before it are written down, and no others. -/
theorem Attempted.history {c : Controller ε} {id : FindingId} {s t : Session} {w u : World ε}
    {vs : List (Visit ε)} {r : Except SessionFailure Unit} (h : Attempted c id s w vs r t u)
    (hw : s.ledger.Working id) (ho : s.ledger.InOrder c.budget) {e : LedgerEntry}
    (hfind : s.ledger.find? id = some e) (hnumbered : e.record.Numbered) :
    ∀ (i : Nat) v, vs[i]? = some v →
      v.entry.record.history.length = e.record.history.length + i ∧ v.entry.record.Numbered := by
  have hfirst : ∀ {s : Session} {d e : LedgerEntry}, s.ledger.find? id = some e →
      e.record.Numbered → s.ledger.find? id = some d →
      d.record.history.length = e.record.history.length + 0 ∧ d.record.Numbered := by
    intro s d e hfind hnumbered hd
    obtain rfl := Option.some.inj (hd.symm.trans hfind)
    exact ⟨rfl, hnumbered⟩
  induction h generalizing e with
  | spent | unasked => simp
  | fatal hentry => exact forall_getElem?_cons (hfirst hfind hnumbered hentry) (by simp)
  | settled hentry => exact forall_getElem?_cons (hfirst hfind hnumbered hentry) (by simp)
  | again hentry hbudget hresult hrest ih =>
    have hdue : Visit.Due c id _ := ⟨hw, ho, hentry⟩
    obtain ⟨hw', ho', -⟩ := hdue.again hresult
    have hturn := hdue.turn
    rw [hresult] at hturn
    obtain ⟨e', cost, cause, statements, hfind', hhistory⟩ := hturn.history hfind
    refine forall_getElem?_cons (hfirst hfind hnumbered hentry) fun i v hv => ?_
    obtain ⟨hlength, hlater⟩ := ih hw' ho' hfind' (hnumbered.push hhistory) i v hv
    refine ⟨?_, hlater⟩
    rw [hlength, hhistory, List.length_append, List.length_singleton]
    omega

namespace Repair.Due

variable {c : Controller ε} {p : Repair ε}

/-- The rounds of a finding are all that is written down about it. -/
theorem history (h : p.Due c) {i : Nat} {v : Visit ε} (hv : (p.visits c)[i]? = some v) :
    v.entry.record.history.length = i ∧ v.entry.record.Numbered := by
  obtain ⟨hw, ho, -⟩ := Session.working_taking h.queued h.inOrder h.waits
  obtain ⟨r, t, u, hattempted⟩ := h.attempted
  obtain ⟨e, hfind, -, hnone⟩ := h.untried
  have hnumbered : e.record.Numbered := by simp [AttemptRecord.Numbered, hnone]
  have hhistory := hattempted.history hw ho hfind hnumbered i v hv
  rwa [hnone, List.length_nil, Nat.zero_add] at hhistory

/-- There are no more rounds than halves in the budget. -/
theorem length_visits_le (h : p.Due c) : (p.visits c).length ≤ c.budget.halves.toNat := by
  rcases Nat.eq_zero_or_pos c.budget.halves.toNat with hzero | hpos
  · obtain ⟨r, t, u, hattempted⟩ := h.attempted
    obtain ⟨e, hfind, huntried⟩ := h.untried
    have hnone : ¬ e.record.hasBudget c.budget = true := by
      rw [huntried.balanced.hasBudget_iff]
      omega
    rw [hattempted.eq_nil hfind hnone]
    exact Nat.zero_le _
  · exact h.length_le hpos

/-- So their numbers are not cut off. -/
theorem nextNumber_eq (h : p.Due c) {i : Nat} (hi : i < (p.visits c).length) :
    AttemptRecord.nextNumber i = i + 1 := by
  have hle := h.length_visits_le
  have hword := c.budget.halves.toNat_lt
  exact Nat.min_eq_left (by omega)

end Repair.Due

/-- A request that goes on where the first `i` rounds of a history stop. -/
structure RepairRequest.Continues (r : RepairRequest) (history : List AttemptEntry) (i : Nat) :
    Prop where
  number : r.attempt = i + 1
  /-- The first request tells of no failure. -/
  first : i = 0 → r.previousFailure = none ∧ r.previousStatements = []
  /-- A later one tells what has been written down of the round before. -/
  later : ∀ j, i = j + 1 → ∃ a, history[j]? = some a ∧ a.number = i ∧
    r.previousFailure = a.cause ∧ r.previousStatements = a.statements

/-- **A request goes on where the history of its finding stops**, and so it does in whatever
that history grows to. -/
theorem Repair.Due.continues {c : Controller ε} {p : Repair ε} (h : p.Due c) {i : Nat}
    {v : Visit ε} (hv : (p.visits c)[i]? = some v) {history : List AttemptEntry}
    (hgrows : v.entry.record.history <+: history) : v.request.Continues history i := by
  obtain ⟨hlength, hnumbered⟩ := h.history hv
  obtain ⟨shown, context, -, -, hrequest⟩ := v.exists_request_eq
  have hfailure : v.request.previousFailure =
      v.entry.record.history.getLast?.bind (·.cause) := v.previousFailure_eq
  have hstatements : v.request.previousStatements =
      (v.entry.record.history.getLast?.map (·.statements)).getD [] := by rw [hrequest]
  have hi := (List.getElem?_eq_some_iff.1 hv).1
  refine ⟨?_, ?_, ?_⟩
  · rw [hrequest, ← h.nextNumber_eq hi, ← hlength]
  · rintro rfl
    rw [hfailure, hstatements, List.length_eq_zero_iff.1 hlength]
    exact ⟨rfl, rfl⟩
  · rintro j rfl
    have hlt : j < v.entry.record.history.length := by omega
    have ha := List.getElem?_eq_getElem hlt
    have hlast : v.entry.record.history.getLast? = some v.entry.record.history[j] := by
      rw [List.getLast?_eq_getElem?, hlength, Nat.add_sub_cancel, ha]
    rw [hfailure, hstatements, hlast]
    obtain ⟨more, rfl⟩ := hgrows
    refine ⟨_, ?_, (hnumbered j _ ha).trans (h.nextNumber_eq (by omega)), rfl, rfl⟩
    rw [List.getElem?_append_left hlt, ha]

/-! ### What lies behind -/

/-- What is open in a ledger has not been done with before. -/
theorem Ledger.Grows.not_done {l m : Ledger} (h : l.Grows m) (hfiled : Filed m) {d e : LedgerEntry}
    (hd : d ∈ m) (hopen : ¬ d.Done) (he : e ∈ l) (hid : e.record.findingId = d.record.findingId) :
    ¬ e.Done := by
  intro hdone
  obtain ⟨e', he', hgrown⟩ := h.mem he
  obtain rfl := hgrown.done hdone
  obtain rfl := hfiled.eq_of_id he' hd hid
  exact hopen hdone

/-- A visit lies behind a session that has gone on from it. -/
structure Visit.Behind (c : Controller ε) (s : Session) (v : Visit ε) : Prop where
  due : v.Due c v.entry.record.findingId
  ended : ∃ ending, (v.result c).1.1 = .ok ending
  grows : (v.result c).1.2.ledger.Grows s.ledger

theorem Visit.Behind.trans {c : Controller ε} {s t : Session} {v : Visit ε} (h : v.Behind c s)
    (hgrows : s.ledger.Grows t.ledger) : v.Behind c t :=
  ⟨h.due, h.ended, h.grows.trans hgrows⟩

/-- All visits before lie behind. -/
theorem lasts_behind (c : Controller ε) : Lasts c fun us s => ∀ v ∈ us, v.Behind c s where
  taking := by
    intro us s id h hq ho hnext v hv
    exact (h v hv).trans (Session.working_taking hq ho hnext).2.2
  round := by
    intro us v id ending t u h hdue hresult
    have hgrows := (hdue.turn.inOrder hdue.working hdue.inOrder).2
    have hself : v.Due c v.entry.record.findingId := hdue.id_eq.symm ▸ hdue
    rw [hresult] at hgrows
    refine List.forall_mem_append.2 ⟨fun v' hv' => (h v' hv').trans hgrows,
      List.forall_mem_singleton.2 ⟨hself, ⟨ending, by rw [hresult]⟩, ?_⟩⟩
    rw [hresult]
    exact .refl _
  givenUp := by
    intro us s id h hw ho hspent v hv
    exact (h v hv).trans (hw.givenUp ho hspent).2.2

namespace Visit.Behind

variable {c : Controller ε} {s : Session} {v : Visit ε} {d : LedgerEntry}

/-- A round that has settled its finding has done with it. -/
theorem done_of_settled (h : v.Behind c s) (hsettled : (v.result c).1.1 = .ok .settled) :
    ∃ e ∈ (v.result c).1.2.ledger,
      e.record.findingId = v.entry.record.findingId ∧ e.Done := by
  have hturn := h.due.turn
  rw [hsettled] at hturn
  obtain ⟨-, fs, -, -, htaken⟩ := hturn.settled h.due.working h.due.inOrder
  obtain ⟨e, he, hid, hdirect⟩ := htaken.resolver
  refine ⟨e, he, hid, ?_⟩
  rw [LedgerEntry.Done, (LedgerEntry.isDirect_eq_true_iff.1 hdirect).1]
  rfl

/-- **When a report was accepted, what is open now was reported**, and waited if it was known. -/
theorem waited (h : v.Behind c s) (hfiled : Filed s.ledger) (hd : d ∈ s.ledger) (hopen : ¬ d.Done)
    {fs : List Finding} (haccepted : v.accepted? c = some fs) {e : LedgerEntry}
    (he : e ∈ v.session.ledger) (hid : e.record.findingId = d.record.findingId) :
    e.record.state = .pending ∧ d.record.findingId ∈ fs.map (·.id) := by
  have hturn := h.due.turn
  have hsettled : (v.result c).1.1 = .ok .settled := by
    by_contra hne
    rw [hturn.others_eq_none hne] at haccepted
    cases haccepted
  have hbefore : ¬ e.Done :=
    ((hturn.inOrder h.due.working h.due.inOrder).2.trans h.grows).not_done hfiled hd hopen he hid
  rw [hsettled] at hturn
  obtain ⟨-, gs, hgs, -, htaken⟩ := hturn.settled h.due.working h.due.inOrder
  obtain rfl := Option.some.inj (haccepted.symm.trans hgs)
  obtain ⟨k, a, hat⟩ := h.due.working.atWork
  obtain ⟨i, hi⟩ := List.mem_iff_getElem?.1 he
  have hpending : e.record.state = .pending := by
    rcases Nat.lt_trichotomy i k with hlt | rfl | hlt
    · exact absurd (hat.front i e hi hlt) hbefore
    · -- the finding at work is done with after the round
      obtain rfl := Option.some.inj (hi.symm.trans hat.entry)
      obtain ⟨r, hr, hrid, hdone⟩ := h.done_of_settled hsettled
      have hsame := hrid.trans (hat.id_eq.symm.trans hid)
      exact absurd hdone (h.grows.not_done hfiled hd hopen hr hsame)
    · rcases hat.behind i e hi hlt with ⟨hpending, -⟩ | ⟨hresolved, -⟩
      · exact hpending
      · refine absurd ?_ hbefore
        rw [LedgerEntry.Done, hresolved]
        rfl
  refine ⟨hpending, ?_⟩
  by_contra hout
  -- what is not reported goes away with the finding at work
  obtain ⟨r, hr, hrec⟩ := htaken.waiting i e hi hpending
  rw [hid, if_neg hout] at hrec
  refine h.grows.not_done hfiled hd hopen (List.mem_of_getElem? hr) ?_ ?_
  · rw [hrec]
    exact hid
  · rw [LedgerEntry.Done, hrec]
    rfl

/-- A round for what is open now that was charged as not resolved has seen it again. -/
theorem exists_seen (h : v.Behind c s) (hfiled : Filed s.ledger) (hd : d ∈ s.ledger)
    (hopen : ¬ d.Done) (hid : v.entry.record.findingId = d.record.findingId)
    (hcause : v.cause? c = some .notResolved) : ∃ still, v.seen? c = some still := by
  obtain ⟨ending, hended⟩ := h.ended
  cases ending with
  | settled =>
    obtain ⟨e, he, heq, hdone⟩ := h.done_of_settled hended
    exact absurd hdone (h.grows.not_done hfiled hd hopen he (heq.trans hid))
  | unsettled =>
    exact h.due.exists_seen (t := (v.result c).1.2) (u := (v.result c).2) (by rw [← hended]) hcause

end Visit.Behind

/-! ### The request -/

/-- At the visit the oracle is asked about the finding `id`, with all that lies behind: visits
before it, in a session that has begun with the text `start` and the findings `fs`. -/
structure Visit.Briefed (c : Controller ε) (start : Snapshot) (fs : List Finding)
    (before : List (Visit ε)) (id : FindingId) (v : Visit ε) : Prop where
  asked : v.request.finding.id = id
  /-- It is shown the text with the changes that have been kept, and no others. -/
  source : ∃ kept, Grown start (keptAt c before) kept ∧
    v.request.sourceContext = Text.numbered kept.source 1
  /-- It is told how the finding looked when it was seen last. -/
  looks : ∃ f, lastSeen? (fs ++ before.flatMap (·.sightings c)) id = some f ∧
    v.request.trace = f.trace ∧ v.request.finding.message = f.message
  /-- The finding is in every report that was accepted while it was known, and waited then. -/
  waited : ∀ u ∈ before, ∀ gs, u.accepted? c = some gs → ∀ e ∈ u.session.ledger,
    e.record.findingId = id → e.record.state = .pending ∧ id ∈ gs.map (·.id)
  /-- It was seen in every round for it that was charged as not resolved. -/
  retried : ∀ u ∈ before, u.entry.record.findingId = id → u.cause? c = some .notResolved →
    ∃ f, u.seen? c = some f

namespace Session

variable {c : Controller ε} {s : Session} {w : World ε} {p : Repair ε} {v : Visit ε} {k i : Nat}

/-- **At every visit the oracle is told of the harness and the finding as they are.** -/
theorem briefed (hempty : s.ledger = []) {fs : List Finding} (hinitial : initial? c s w = some fs)
    (hp : (repairs c s w)[k]? = some p) (hv : (p.visits c)[i]? = some v) :
    v.Briefed c s.store.current fs
      (((repairs c s w).take k).flatMap (·.visits c) ++ (p.visits c).take i) p.id := by
  have hdue := (due_of_mem_repairs hempty (List.mem_of_getElem? hp)).visit (List.mem_of_getElem? hv)
  have hshown := lasts (lasts_shown c fs) hempty hinitial (by
    rw [List.flatMap_nil, List.append_nil]
    exact shown_begun hempty fs) hp hv
  have hbehind := lasts (lasts_behind c) hempty hinitial (List.forall_mem_nil _) hp hv
  have hentry := List.mem_of_find?_eq_some hdue.entry
  have hopen : ¬ v.entry.Done := by
    obtain ⟨k, e, hat⟩ := hdue.working.atWork
    obtain rfl := Option.some.inj (hat.find?_eq.symm.trans hdue.entry)
    exact hat.not_done
  have hseen := hshown v.entry hentry hopen
  rw [hdue.id_eq] at hseen
  obtain ⟨shown, context, -, -, hrequest⟩ := v.exists_request_eq
  refine
    { asked := by rw [hrequest]; exact hdue.name_eq
      source := ⟨_, grown_at_visit hempty hp hv, by rw [hrequest]; rfl⟩
      looks := ⟨_, hseen, by rw [hrequest], by rw [hrequest]⟩
      waited := ?_
      retried := ?_ }
  · intro u hu gs haccepted e he hid
    have hwaited := (hbehind u hu).waited hdue.working.filed hentry hopen haccepted he
      (hid.trans hdue.id_eq.symm)
    rwa [hdue.id_eq] at hwaited
  · intro u hu hid hcause
    exact (hbehind u hu).exists_seen hdue.working.filed hentry hopen (hid.trans hdue.id_eq.symm)
      hcause

/-- What is written down about a finding at its visits is still there in the end. -/
theorem exists_final (hempty : s.ledger = []) (hp : p ∈ repairs c s w) :
    ∃ e, ((run c s).run w).1.2.ledger.find? p.id = some e ∧
      ∀ v ∈ p.visits c, v.entry.record.history <+: e.record.history := by
  have hpasses := passes_moments (c := c) (w := w) hempty
  have horderly := hpasses.orderly ((run c s).run w).1.2 (by simp [moments])
  have hfiled : Filed ((run c s).run w).1.2.ledger := ⟨horderly.nodup, horderly.named⟩
  have hmoment : ∀ m ∈ p.moments c, m.ledger.Grows ((run c s).run w).1.2.ledger := fun m hm =>
    hpasses.before m <| List.mem_cons_of_mem _ <| List.mem_append_left _ <|
      List.mem_flatMap.2 ⟨p, hp, hm⟩
  have hdue := due_of_mem_repairs hempty hp
  have hwaits := hdue.waits
  rw [nextPending?, Option.map_eq_some_iff] at hwaits
  obtain ⟨d, hd, hid⟩ := hwaits
  obtain ⟨e, he, hgrown⟩ :=
    (hmoment p.session List.mem_cons_self).mem (List.mem_of_find?_eq_some hd)
  have heid : e.record.findingId = p.id := hgrown.id_eq.trans hid
  refine ⟨e, hfiled.find?_eq_some_iff.2 ⟨he, heid⟩, fun v hv => ?_⟩
  have hvdue := hdue.visit hv
  have hmem : v.session ∈ p.moments c := List.mem_cons_of_mem _ <| List.mem_cons_of_mem _ <|
    List.mem_flatMap.2 ⟨v, hv, List.mem_cons_self⟩
  obtain ⟨e', he', hgrown'⟩ :=
    (hmoment v.session hmem).mem (List.mem_of_find?_eq_some hvdue.entry)
  obtain rfl := hfiled.eq_of_id he' he (hgrown'.id_eq.trans (hvdue.id_eq.trans heid.symm))
  exact hgrown'.history

/-- **The oracle is told what has happened.**  All that it is asked are the requests of the
visits.  Those for one finding are numbered from 1 on; the first tells of no failure, and each
later one of the cause and the statements that are written down in the end for the round before.
They show the text with the changes kept before, and the finding as it was seen last: in the
report that the session began with, in those that were accepted while it waited, or in the rounds
for it that were charged as not resolved. -/
theorem run_tells_history (hempty : s.ledger = []) :
    ∃ outcome t u, (run c s).run w = ((outcome, t), u) ∧
      (∀ path book, Scribe c path s.target book →
        book u.outside = book w.outside ++ calls c path s w) ∧
      ∀ (k : Nat) (p : Repair ε), (repairs c s w)[k]? = some p →
        ∃ e fs, t.ledger.find? p.id = some e ∧ initial? c s w = some fs ∧
        ∀ (i : Nat) (v : Visit ε), (p.visits c)[i]? = some v →
          v.request.Continues e.record.history i ∧
          v.Briefed c s.store.current fs
            (((repairs c s w).take k).flatMap (·.visits c) ++ (p.visits c).take i) p.id := by
  obtain ⟨outcome, t, u, hrun, hran⟩ := ran_run (c := c) hempty w
  refine ⟨outcome, t, u, hrun, fun path book hbook => hran.calls hempty hbook, ?_⟩
  intro k p hp
  have hmem := List.mem_of_getElem? hp
  obtain ⟨fs, hinitial⟩ := exists_initial hmem
  obtain ⟨e, hfinal, hhistory⟩ := exists_final hempty hmem
  rw [hrun] at hfinal
  refine ⟨e, fs, hfinal, hinitial, fun i v hv => ⟨?_, briefed hempty hinitial hp hv⟩⟩
  exact (due_of_mem_repairs hempty hmem).continues hv (hhistory v (List.mem_of_getElem? hv))

theorem run_tells_history_smallSession :
    smallSession.ledger = [] ∧ ∃ p v₁ v₂ t u, Hesitated smallSession smallStart p v₁ v₂ t u ∧
      calls hesitantController "harness.c" smallSession smallStart =
        [.verified (.ok smallHarness), .asked v₁.request, .asked v₂.request,
          .verified (.ok smallRepaired)] ∧
      ∃ e fs, t.ledger.find? p.id = some e ∧
        initial? hesitantController smallSession smallStart = some fs ∧
        v₁.request.Continues e.record.history 0 ∧
        v₁.Briefed hesitantController smallSession.store.current fs [] p.id ∧
        v₂.request.Continues e.record.history 1 ∧
        v₂.Briefed hesitantController smallSession.store.current fs [v₁] p.id := by
  obtain ⟨p, v₁, v₂, t, u, h⟩ := exists_hesitated onSmall_smallSession
  obtain ⟨outcome, t', u', hrun, hcalls, htold⟩ := run_tells_history
    (c := hesitantController) (s := smallSession) (w := smallStart) rfl
  cases hrun.symm.trans h.run_eq
  have hbook := hcalls _ _ (scribe_hesitantController _)
  rw [h.outside_eq] at hbook
  obtain ⟨e, fs, hfinal, hinitial, hasked⟩ := htold 0 p (by rw [h.repairs_eq]; rfl)
  obtain ⟨hfirst, hbriefed⟩ := hasked 0 v₁ (by rw [h.visits_eq]; rfl)
  obtain ⟨hsecond, hbriefed'⟩ := hasked 1 v₂ (by rw [h.visits_eq]; rfl)
  rw [h.visits_eq] at hbriefed hbriefed'
  exact ⟨rfl, p, v₁, v₂, t, u, h, (List.append_cancel_left hbook).symm, e, fs, hfinal, hinitial,
    hfirst, hbriefed, hsecond, hbriefed'⟩

end Session

end HarnessRepair
