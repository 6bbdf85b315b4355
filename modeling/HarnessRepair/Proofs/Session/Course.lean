import HarnessRepair.Proofs.Patch.Reached
import HarnessRepair.Proofs.Session.Round

/-!
# The course of a session

The visits of a session are listed by following it: round after round at one
finding, and one finding after the other.  Since every round keeps the session
sound, the visits are proper for the changes kept before them, and the session
ends with the changes kept at all of them.

## Main definitions

* `Session.attemptVisits`, `findingVisits`, `visits` — the visits at one finding,
  at those that wait, and in the whole session.
* `Led` — what holds along some visits.
* `Session.Fresh` — a session that has not begun.

## Main results

* `Session.run_start`, `run_repair`, `run_repairAll` — **the first verification, one finding, and
  all of them lead along their visits.**
-/

namespace HarnessRepair

variable {ε : Type}

/-! ### Visits in a row -/

/-- The changes kept at some visits, in order. -/
def keptAt (c : Controller ε) (vs : List (Visit ε)) : List (List Patch) := vs.flatMap (·.kept c)

/-- Every visit is proper for the changes kept before it. -/
def ProperAll (c : Controller ε) (path : String) (start : Snapshot) :
    List (List Patch) → List (Visit ε) → Prop
  | _, [] => True
  | kept, v :: vs => v.Proper c path start kept ∧ ProperAll c path start (kept ++ v.kept c) vs

section

variable {c : Controller ε} {path : String} {start : Snapshot} {kept : List (List Patch)}
  {vs us : List (Visit ε)}

theorem keptAt_cons (v : Visit ε) : keptAt c (v :: vs) = v.kept c ++ keptAt c vs :=
  List.flatMap_cons

theorem keptAt_append : keptAt c (vs ++ us) = keptAt c vs ++ keptAt c us :=
  List.flatMap_append

theorem ProperAll.append (h : ProperAll c path start kept vs)
    (h' : ProperAll c path start (kept ++ keptAt c vs) us) :
    ProperAll c path start kept (vs ++ us) := by
  induction vs generalizing kept with
  | nil =>
    have hnone : keptAt c ([] : List (Visit ε)) = [] := rfl
    rwa [hnone, List.append_nil] at h'
  | cons v vs ih =>
    obtain ⟨hv, hvs⟩ := h
    rw [keptAt_cons, ← List.append_assoc] at h'
    exact ⟨hv, ih hvs h'⟩

/-- So each visit, looked up by its number, is proper for the changes kept before. -/
theorem ProperAll.getElem? (h : ProperAll c path start kept vs) {i : Nat} {v : Visit ε}
    (hv : vs[i]? = some v) : v.Proper c path start (kept ++ keptAt c (vs.take i)) := by
  induction vs generalizing kept i with
  | nil => cases hv
  | cons u us ih =>
    obtain ⟨hu, hus⟩ := h
    cases i with
    | zero =>
      obtain rfl := Option.some.inj hv
      have hnone : keptAt c ((u :: us).take 0) = [] := rfl
      rwa [hnone, List.append_nil]
    | succ i =>
      have htail := ih hus (i := i) hv
      rwa [List.append_assoc, ← keptAt_cons] at htail

end

/-- Some visits lead from one session and world to another, where the session is sound or,
if it `halts`, has been stopped. -/
structure Led (c : Controller ε) (path : String) (start : Snapshot) (kept : List (List Patch))
    (vs : List (Visit ε)) (s : Session) (w : World ε) (halts : Prop) (t : Session)
    (u : World ε) : Prop where
  proper : ProperAll c path start kept vs
  target_eq : t.target = s.target
  left : Sound path start (kept ++ keptAt c vs) t u ∨
    halts ∧ Stopped path start (kept ++ keptAt c vs) t u
  calls : ∀ book, Scribe c path s.target book →
    book u.outside = book w.outside ++ vs.flatMap (·.calls c path)

section

variable {c : Controller ε} {path : String} {start : Snapshot} {kept : List (List Patch)}
  {vs us : List (Visit ε)} {s t x : Session} {w u y : World ε} {id : FindingId}
  {halts halts' : Prop}

/-- Without a visit, only events are told and the ledger changes. -/
theorem Sound.led (h : Sound path start kept s w) (hstore : t.store = s.store)
    (htarget : t.target = s.target)
    (hledger : t.ledger.directStatements = s.ledger.directStatements) (htold : Told w u) :
    Led c path start kept [] s w halts t u where
  proper := trivial
  target_eq := htarget
  left := by
    have hnone : keptAt c ([] : List (Visit ε)) = [] := rfl
    rw [hnone, List.append_nil]
    refine Or.inl (h.back ?_ ?_ ?_ hledger (htold.holds h.holds))
    · rw [hstore]
    · rw [hstore, h.idle]
    · rw [hstore]
  calls := by
    intro book _
    rw [htold.outside_eq, List.flatMap_nil, List.append_nil]

/-- One visit. -/
theorem Visit.Leaves.led {v : Visit ε} {r : Except SessionFailure RoundEnd}
    (hproper : v.Proper c path start kept) (h : v.Leaves c path start kept id r t u)
    (hhalts : ∀ o, r = .error (.overflow o) → halts) :
    Led c path start kept [v] v.session v.world halts t u where
  proper := ⟨hproper, trivial⟩
  target_eq := h.target_eq
  left := by
    have hone : keptAt c [v] = v.kept c := List.flatMap_singleton _ _
    rw [hone]
    exact h.left.imp_right (And.imp_left fun ⟨o, ho⟩ => hhalts o ho)
  calls := by
    intro book hbook
    rw [List.flatMap_singleton]
    exact h.calls book hbook

theorem Led.sound (h : Led c path start kept vs s w halts t u) (hgoes : ¬ halts) :
    Sound path start (kept ++ keptAt c vs) t u :=
  h.left.resolve_right fun hstopped => hgoes hstopped.1

theorem Led.imp (h : Led c path start kept vs s w halts t u) (himp : halts → halts') :
    Led c path start kept vs s w halts' t u :=
  ⟨h.proper, h.target_eq, h.left.imp_right (And.imp_left himp), h.calls⟩

/-- Some visits after others. -/
theorem Led.trans (h : Led c path start kept vs s w halts t u)
    (h' : Led c path start (kept ++ keptAt c vs) us t u halts' x y) :
    Led c path start kept (vs ++ us) s w halts' x y where
  proper := h.proper.append h'.proper
  target_eq := h'.target_eq.trans h.target_eq
  left := by
    rw [keptAt_append, ← List.append_assoc]
    exact h'.left
  calls := by
    intro book hbook
    have hlater := h'.calls book (h.target_eq ▸ hbook)
    rw [hlater, h.calls book hbook, List.append_assoc, List.flatMap_append]

end

namespace Session

/-! ### Following a session -/

/-- The visits of some attempts at a finding. -/
def attemptVisits (c : Controller ε) (id : FindingId) :
    Nat → Session → World ε → List (Visit ε)
  | 0, _, _ => []
  | rounds + 1, s, w =>
    match s.ledger.find? id with
    | none => []
    | some e =>
      if e.record.hasBudget c.budget then
        match Visit.of? s e w with
        | none => []
        | some v =>
          v :: match v.result c with
            | ((.ok .unsettled, s), w) => attemptVisits c id rounds s w
            | _ => []
      else []

/-- The visits of the repair of a finding. -/
def repairVisits (c : Controller ε) (s : Session) (id : FindingId) (w : World ε) :
    List (Visit ε) :=
  attemptVisits c id c.budget.halves.toNat
    { s with ledger := s.ledger.updateRecord id fun r => { r with state := .inProgress } } w

/-- The visits at the findings that wait, at most `limit` of them. -/
def findingVisits (c : Controller ε) : Nat → Session → World ε → List (Visit ε)
  | limit, s, w =>
    match s.ledger.nextPending? with
    | none => []
    | some id =>
      match limit with
      | 0 => []
      | limit + 1 =>
        repairVisits c s id w ++
          match (repair c s id).run w with
          | ((.ok (), s), w) => findingVisits c limit s w
          | _ => []

/-- The visits of a session. -/
def visits (c : Controller ε) (s : Session) (w : World ε) : List (Visit ε) :=
  match (start c s).run w with
  | ((.ok (), s), w) => findingVisits c findingLimit s w
  | _ => []

variable {c : Controller ε} {path : String} {start : Snapshot} {kept : List (List Patch)}
  {s : Session} {w : World ε} {id : FindingId}

/-- A session that cannot write down what it would ask the oracle is stopped. -/
theorem run_round_unasked {e : LedgerEntry} {o : Overflow} (h : s.request e w = .error o) :
    (round c s e).run w = ((.error (.overflow o), s), w) := by
  rw [round, run_bind, run_look, h]
  rfl

/-- Attempts at a finding lead along their visits, and if they do not fail the finding
is done with. -/
theorem run_attempts (hby : Bystanders c path s.target) (h : Sound path start kept s w)
    (hworking : s.ledger.Working id) (rounds : Nat) :
    ∃ r t u, (attempts c id rounds s).run w = ((r, t), u) ∧
      Led c path start kept (attemptVisits c id rounds s w) s w (∃ o, r = .error (.overflow o))
        t u ∧
      (r = .ok () → t.ledger.Queued) := by
  induction rounds generalizing s w kept with
  | zero =>
    obtain ⟨u, hrun, htold⟩ := run_giveUp s id w
    obtain ⟨hqueued, hsame⟩ := queued_givenUp hworking
    refine ⟨.ok (), givenUp s id, u, ?_, h.led rfl rfl hsame htold, fun _ => hqueued⟩
    rw [attempts, run_bind, hrun]
    rfl
  | succ rounds ih =>
    obtain ⟨e, hfind, hid, hname⟩ := hworking.find?_eq_some
    rw [attempts, attemptVisits, hfind]
    dsimp only
    by_cases hbudget : e.record.hasBudget c.budget = true
    · rw [if_pos hbudget, if_pos hbudget, run_bind]
      cases hrequest : s.request e w with
      | error o =>
        rw [Visit.of?_eq_none hrequest, run_round_unasked hrequest]
        exact ⟨_, s, w, rfl, h.led rfl rfl rfl (Told.refl w), fun heq => by cases heq⟩
      | ok request =>
        obtain ⟨hproper, r, t, u, hleaves⟩ :=
          Visit.run_round (v := ⟨s, e, w, request, hrequest⟩) hby h hworking hid hname
        have hround : (round c s e).run w = ((r, t), u) := hleaves.result_eq
        rw [Visit.of?_eq_some hrequest, hround]
        dsimp only
        rw [hleaves.result_eq]
        cases r with
        | error failure =>
          refine ⟨_, t, u, rfl, hleaves.led hproper fun o ho => ⟨o, ?_⟩, fun heq => by cases heq⟩
          rw [Except.error.inj ho]
        | ok ending =>
          have hled : Led c path start kept [_] s w False t u :=
            hleaves.led hproper fun o ho => by cases ho
          cases ending with
          | settled => exact ⟨_, t, u, rfl, hled.imp False.elim, fun _ => hleaves.queued rfl⟩
          | unsettled =>
            have hworking' := hleaves.working fun heq => by cases heq
            have hby' : Bystanders c path t.target := by
              rw [hleaves.target_eq]
              exact hby
            obtain ⟨r', t', u', hrun, hrest, hqueued⟩ :=
              ih hby' (hled.sound not_false) hworking'
            exact ⟨r', t', u', hrun, hled.trans hrest, hqueued⟩
    · rw [if_neg hbudget, if_neg hbudget]
      obtain ⟨u, hrun, htold⟩ := run_giveUp s id w
      obtain ⟨hqueued, hsame⟩ := queued_givenUp hworking
      refine ⟨.ok (), givenUp s id, u, ?_, h.led rfl rfl hsame htold, fun _ => hqueued⟩
      rw [run_bind, hrun]
      rfl

/-- The repair of a finding leads along its visits. -/
theorem run_repair (hby : Bystanders c path s.target) (h : Sound path start kept s w)
    (hqueued : s.ledger.Queued) (hnext : s.ledger.nextPending? = some id) :
    ∃ r t u, (repair c s id).run w = ((r, t), u) ∧
      Led c path start kept (repairVisits c s id w) s w (∃ o, r = .error (.overflow o)) t u ∧
      (r = .ok () → t.ledger.Queued) := by
  obtain ⟨hworking, hsame⟩ := hqueued.begin hnext
  have hsound : Sound path start kept
      { s with ledger := s.ledger.updateRecord id fun r => { r with state := .inProgress } } w :=
    h.back rfl h.idle rfl hsame h.holds
  obtain ⟨r, t, u, hrun, hled, hdone⟩ := run_attempts
    (s := { s with ledger := s.ledger.updateRecord id fun r => { r with state := .inProgress } })
    hby hsound hworking c.budget.halves.toNat
  exact ⟨r, t, u, hrun, ⟨hled.proper, hled.target_eq, hled.left, hled.calls⟩, hdone⟩

/-- Ending what is not settled leaves the store, and what was kept, as it is. -/
theorem block_led {t : Session} {u : World ε} {vs : List (Visit ε)} {halts halts' : Prop}
    (h : Led c path start kept vs s w halts t u) (hgoes : ¬ halts) (reason : String) :
    Led c path start kept vs s w halts' (t.block reason).2 u where
  proper := h.proper
  target_eq := h.target_eq
  left :=
    have hsound := h.sound hgoes
    Or.inl (hsound.back rfl hsound.idle rfl (Ledger.directStatements_blockRemaining _)
      hsound.holds)
  calls := h.calls

/-- A session that cannot go on ends where its visits lead. -/
theorem giveIn_led {t : Session} {u v : World ε} {vs : List (Visit ε)} {failure : SessionFailure}
    (h : Led c path start kept vs s w
      (∃ o, (.error failure : Except SessionFailure Unit) = .error (.overflow o)) t u)
    (htold : Told u v) :
    Led c path start kept vs s w (∃ o, (t.ended failure).1 = .error o) (t.ended failure).2 v := by
  have hlater : Led c path start kept vs s w
      (∃ o, (.error failure : Except SessionFailure Unit) = .error (.overflow o)) t v :=
    { proper := h.proper
      target_eq := h.target_eq
      left := h.left.imp (fun hsound => hsound.back rfl hsound.idle rfl rfl
        (htold.holds hsound.holds)) fun ⟨hhalts, hstopped⟩ =>
          ⟨hhalts, hstopped.made, htold.holds hstopped.holds⟩
      calls := fun book hbook => (congrArg book htold.outside_eq).trans (h.calls book hbook) }
  cases failure with
  | overflow o => exact hlater.imp fun _ => ⟨o, rfl⟩
  | infrastructure e => exact block_led hlater (fun ⟨_, heq⟩ => by cases heq) _
  | parse e => exact block_led hlater (fun ⟨_, heq⟩ => by cases heq) _
  | patch e => exact block_led hlater (fun ⟨_, heq⟩ => by cases heq) _

/-- The repair of the findings that wait leads along their visits. -/
theorem run_repairAll (hby : Bystanders c path s.target) (h : Sound path start kept s w)
    (hqueued : s.ledger.Queued) (limit : Nat) :
    ∃ outcome t u, (repairAll c limit s).run w = ((outcome, t), u) ∧
      Led c path start kept (findingVisits c limit s w) s w (∃ o, outcome = .error o) t u := by
  induction limit generalizing s w kept with
  | zero =>
    rw [repairAll, findingVisits]
    cases s.ledger.nextPending? with
    | none => exact ⟨_, s, _, rfl, h.led rfl rfl rfl (told_tell ..)⟩
    | some id =>
      have hstay : Led c path start kept [] s w False s w := h.led rfl rfl rfl (Told.refl w)
      exact ⟨_, _, w, rfl, block_led hstay not_false "more findings than a session takes up"⟩
  | succ limit ih =>
    rw [repairAll, findingVisits]
    cases hnext : s.ledger.nextPending? with
    | none => exact ⟨_, s, _, rfl, h.led rfl rfl rfl (told_tell ..)⟩
    | some id =>
      obtain ⟨r, t, u, hrun, hled, hdone⟩ := run_repair hby h hqueued hnext
      dsimp only
      rw [run_bind, hrun]
      cases r with
      | error failure =>
        obtain ⟨v, hgives, htold⟩ := run_giveIn t id failure u
        refine ⟨_, _, v, hgives, ?_⟩
        rw [List.append_nil]
        exact giveIn_led hled htold
      | ok _ =>
        have hby' : Bystanders c path t.target := by
          rw [hled.target_eq]
          exact hby
        obtain ⟨outcome, t', u', hrun', hrest⟩ :=
          ih hby' (hled.sound fun ⟨_, heq⟩ => by cases heq) (hdone rfl)
        exact ⟨outcome, t', u', hrun', hled.trans hrest⟩

/-! ### A whole session -/

/-- A session that has not begun: no finding has been taken on, and no patch is in the
harness, which the file holds. -/
structure Fresh (s : Session) (w : World ε) : Prop where
  ledger_eq : s.ledger = []
  log_eq : s.store.log = []
  idle : s.store.inFlight = none
  holds : Holds s.store.path s.store.source w

theorem Fresh.sound (h : Fresh s w) : Sound s.store.path s.store.current [] s w where
  path_eq := rfl
  idle := h.idle
  holds := h.holds
  grown := .start
  statements := by
    rw [PatchStore.appliedStatements, h.log_eq, h.ledger_eq]
    rfl

theorem Fresh.queued (h : Fresh s w) : s.ledger.Queued := by
  rw [h.ledger_eq]
  exact Ledger.queued_nil

/-- The first verification finds the harness as it was, and queues what it reports. -/
theorem run_start (hby : Bystanders c s.store.path s.target) (h : Fresh s w) :
    ∃ r t u, (Session.start c s).run w = ((r, t), u) ∧ t.target = s.target ∧
      Sound s.store.path s.store.current [] t u ∧ t.ledger.Queued ∧
      ∀ book, Scribe c s.store.path s.target book →
        book u.outside = book w.outside ++ [.verified (.ok s.store.source)] := by
  obtain ⟨w₀, htell, htold⟩ : ∃ w₀, (tell .info .session "Starting repair session"
      [s.harnessField, ("mode", .text c.mode.name), ("verifier", .text c.verifier.name),
        ("oracle", .text c.oracle.name)]).run w = ((), w₀) ∧ Told w w₀ :=
    ⟨_, rfl, told_tell ..⟩
  obtain ⟨w₁, hverify, htold₁⟩ := run_verify c s w₀
  have hholds : Holds s.store.path s.store.source w₁ :=
    htold₁.holds (hby.verifier w₀ _ (htold.holds h.holds))
  have hcalls : ∀ book, Scribe c s.store.path s.target book →
      book w₁.outside = book w.outside ++ [.verified (.ok s.store.source)] := by
    intro book hbook
    have hread : w₀.files.readText s.store.path = .ok s.store.source := htold.holds h.holds
    rw [htold₁.outside_eq, hbook.verified, htold.outside_eq, hread]
  rw [Session.start, run_bind, htell]
  dsimp only
  rw [run_bind, hverify]
  cases reading s.target ((c.verifier.run s.target).run w₀).1 with
  | error failure =>
    have htold₂ := told_tell .error .session "Initial verification failed"
      [s.harnessField, ("error", .shown failure.message)] w₁
    refine ⟨.error failure, { s with verifierRuns := s.verifierRuns + 1 }, _, rfl, rfl,
      h.sound.back rfl h.idle rfl rfl (htold₂.holds hholds), h.queued, ?_⟩
    intro book hbook
    exact (congrArg book htold₂.outside_eq).trans (hcalls book hbook)
  | ok report =>
    obtain ⟨hqueued, hsame⟩ := Ledger.Queued.foldl (fun _ hl f => hl.track f) h.queued
      (report.findings.filter fun f => f.kind = c.mode.targets)
    have htold₂ := told_tell .info .session "Initial findings"
      [s.harnessField, ("findings", .number ((report.findings.filter fun f =>
        f.kind = c.mode.targets).foldl Ledger.track s.ledger).length)] w₁
    refine ⟨.ok (), { s with
        ledger := (report.findings.filter fun f => f.kind = c.mode.targets).foldl Ledger.track
          s.ledger
        verifierRuns := s.verifierRuns + 1 }, _, rfl, rfl,
      h.sound.back rfl h.idle rfl hsame (htold₂.holds hholds), hqueued, ?_⟩
    intro book hbook
    exact (congrArg book htold₂.outside_eq).trans (hcalls book hbook)

/-! ### A small session -/

/-- A session on the small harness. -/
def smallSession : Session where
  target := ⟨"harness", "harness.c", "parse", ".", none⟩
  store := .ofText "harness.c" smallHarness .keepChanges

/-- The small harness, and nothing written down. -/
def smallStart : World (List Call) := ⟨smallWorld.files, [], []⟩

theorem fresh_smallSession : Fresh smallSession smallStart := ⟨rfl, rfl, rfl, rfl⟩

end Session

end HarnessRepair
