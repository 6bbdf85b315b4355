import HarnessRepair.Proofs.Patch.Growth
import HarnessRepair.Proofs.Session.Books

/-!
# What a round keeps

Between two rounds no change is in flight, the file holds the changes that have
been kept, and the ledger knows their statements.  A round asks the oracle at most
once and runs the verifier at most once, and there the file holds one change more.

## Main definitions

* `Bystanders` — a verifier and an oracle that leave the harness file alone.
* `Sound` — what holds of a session between two rounds.
* `Stopped` — what holds where a line number that is no word has stopped a round.
* `Visit` — a moment at which the oracle is asked, and what comes of it.
* `Scribe`, `Visit.calls` — a record of the calls that a session makes.

## Main results

* `Visit.run_round` — **a round keeps a session sound**, and makes the calls of its visit.
-/

namespace HarnessRepair

variable {ε : Type}

/-! ### Between two rounds -/

/-- A verifier and an oracle that leave a file alone. -/
structure Bystanders (c : Controller ε) (path : String) (target : HarnessTarget) : Prop where
  verifier : Spares path (c.verifier.run target)
  oracle : ∀ request, Spares path (c.oracle.propose request)

/-- A session between two rounds, which has kept some changes. -/
structure Sound (path : String) (start : Snapshot) (kept : List (List Patch)) (s : Session)
    (w : World ε) : Prop where
  path_eq : s.store.path = path
  /-- No change is in flight. -/
  idle : s.store.inFlight = none
  holds : Holds path s.store.source w
  /-- The text is the text at the start with the kept changes. -/
  grown : Grown start kept s.store.current
  /-- The ledger knows what has been kept. -/
  statements : s.store.appliedStatements = s.ledger.directStatements.map Text.trim

namespace Sound

variable {path : String} {start : Snapshot} {kept : List (List Patch)} {s t : Session}
  {w v : World ε}

/-- A session that has come back to its text is sound again. -/
theorem back (h : Sound path start kept s w) (hpath : t.store.path = s.store.path)
    (hidle : t.store.inFlight = none) (hcurrent : t.store.current = s.store.current)
    (hledger : t.ledger.directStatements = s.ledger.directStatements)
    (hholds : Holds path s.store.source v) : Sound path start kept t v where
  path_eq := hpath.trans h.path_eq
  idle := hidle
  holds := by
    rw [PatchStore.source, hcurrent]
    exact hholds
  grown := hcurrent ▸ h.grown
  statements := by
    rw [PatchStore.appliedStatements, PatchStore.log, hcurrent, hledger]
    exact h.statements

/-- A session that keeps one more change, and writes its statements down, is sound. -/
theorem keep (h : Sound path start kept s w) {proposal : Proposal} {next : Snapshot}
    (hnext : s.store.current.extend proposal.patches = .ok next)
    (hstore : t.store = s.store.kept next)
    (hledger : t.ledger.directStatements = s.ledger.directStatements ++ proposal.statements)
    (hholds : Holds path next.source v) : Sound path start (kept ++ [proposal.patches]) t v where
  path_eq := by
    rw [hstore]
    exact h.path_eq
  idle := by
    rw [hstore]
    rfl
  holds := by
    rw [hstore]
    exact hholds
  grown := by
    rw [hstore]
    exact h.grown.more hnext
  statements := by
    have happlied : ∀ u : Snapshot, (u.log.map fun a => Text.trim a.patch.statement) =
        (u.log.map (·.patch)).map fun p => Text.trim p.statement := by
      intro u
      rw [List.map_map]
      rfl
    have hbefore : (s.store.current.log.map fun a => Text.trim a.patch.statement) =
        s.ledger.directStatements.map Text.trim := h.statements
    have hafter : t.store.appliedStatements =
        next.log.map fun a => Text.trim a.patch.statement := by
      rw [hstore]
      rfl
    rw [hafter, happlied, Snapshot.extend_patches hnext, List.map_append, ← happlied, hbefore,
      hledger, List.map_append, Proposal.statements, List.map_map]
    rfl

end Sound

/-- A session that has been stopped with a change on trial. -/
structure Stopped (path : String) (start : Snapshot) (kept : List (List Patch)) (s : Session)
    (w : World ε) : Prop where
  /-- The change in flight comes after those that have been kept. -/
  made : ∃ change patches, s.store.inFlight = some change ∧ Grown start kept change.prior ∧
    Grown start (kept ++ [patches]) s.store.current
  holds : Holds path s.store.source w

/-! ### Visits -/

/-- A moment at which a session asks the oracle about an entry of its ledger. -/
structure Visit (ε : Type) where
  session : Session
  entry : LedgerEntry
  world : World ε
  /-- What the oracle is asked. -/
  request : RepairRequest
  request_eq : session.request entry world = .ok request

namespace Visit

/-- The visit of a session at an entry, if the request can be written. -/
def of? (s : Session) (e : LedgerEntry) (w : World ε) : Option (Visit ε) :=
  match h : s.request e w with
  | .error _ => none
  | .ok request => some ⟨s, e, w, request, h⟩

theorem of?_eq_some {s : Session} {e : LedgerEntry} {w : World ε} {request : RepairRequest}
    (h : s.request e w = .ok request) : of? s e w = some ⟨s, e, w, request, h⟩ := by
  unfold of?
  split
  · next heq => cases h.symm.trans heq
  · next heq =>
    obtain rfl := Except.ok.inj (h.symm.trans heq)
    rfl

theorem of?_eq_none {s : Session} {e : LedgerEntry} {w : World ε} {o : Overflow}
    (h : s.request e w = .error o) : of? s e w = none := by
  unfold of?
  split
  · rfl
  · next heq => cases h.symm.trans heq

/-- A visit is known by where it takes place. -/
theorem eq_of_place {u v : Visit ε} (hsession : u.session = v.session) (hentry : u.entry = v.entry)
    (hworld : u.world = v.world) : u = v := by
  obtain ⟨s, e, w, request, hrequest⟩ := u
  obtain ⟨t, f, x, asked, hasked⟩ := v
  dsimp only at hsession hentry hworld
  subst hsession hentry hworld
  obtain rfl := Except.ok.inj (hrequest.symm.trans hasked)
  rfl

/-- What a request says that can be written. -/
theorem exists_request_eq (v : Visit ε) : ∃ shown context,
    shownLocation v.session.target v.session.store v.entry.finding.location = .ok shown ∧
    locationContext v.world.files v.session.target v.entry.finding.location = .ok context ∧
    v.request = {
      finding := { v.entry.finding with location := shown }
      sourceContext := v.session.store.numberedSource
      locationContext := context
      trace := v.entry.finding.trace
      advice := advice v.entry.finding v.session.target.targetFunction
      previousFailure := v.entry.record.history.getLast?.bind (·.cause)
      previousStatements := (v.entry.record.history.getLast?.map (·.statements)).getD []
      targetFunction := v.session.target.targetFunction
      harnessFile := v.session.target.harnessFile
      attempt := AttemptRecord.nextNumber v.entry.record.history.length } := by
  have hrequest := v.request_eq
  rw [Session.request, buildRequest] at hrequest
  cases hshown : shownLocation v.session.target v.session.store v.entry.finding.location with
  | error o =>
    rw [hshown] at hrequest
    cases hrequest
  | ok shown =>
    cases hcontext :
        locationContext v.world.files v.session.target v.entry.finding.location with
    | error o =>
      rw [hshown, hcontext] at hrequest
      cases hrequest
    | ok context =>
      rw [hshown, hcontext] at hrequest
      exact ⟨shown, context, rfl, rfl, (Except.ok.inj hrequest).symm⟩

/-- A request tells why the round before has failed. -/
theorem previousFailure_eq (v : Visit ε) :
    v.request.previousFailure = v.entry.record.lastCause? := by
  obtain ⟨shown, context, -, -, heq⟩ := v.exists_request_eq
  rw [heq]
  rfl

/-- What it answers. -/
def answer (c : Controller ε) (v : Visit ε) : Except OracleFailure Proposal :=
  ((Session.consult c v.request).run v.world).1

/-- The session and the world in which the verifier is run, if it is. -/
def trial? (c : Controller ε) (v : Visit ε) : Option (Session × World ε) :=
  match (Session.prepare c v.session v.entry v.request).run v.world with
  | ((.ok _, s), w) => some (s, w)
  | ((.error _, _), _) => none

/-- How the round ends. -/
def result (c : Controller ε) (v : Visit ε) :
    (Except SessionFailure RoundEnd × Session) × World ε :=
  (Session.round c v.session v.entry).run v.world

/-- The change that the round has kept, if it has. -/
def kept (c : Controller ε) (v : Visit ε) : List (List Patch) :=
  match (v.result c).1.1, v.answer c with
  | .ok .settled, .ok proposal => [proposal.patches]
  | _, _ => []

end Visit

/-- A call of a session: the oracle is asked, or the verifier is run while the harness
file holds a text. -/
inductive Call where
  | asked (request : RepairRequest)
  | verified (text : Except IoError String)
  deriving DecidableEq, Repr

/-- The verifier and the oracle write every call down outside. -/
structure Scribe (c : Controller ε) (path : String) (target : HarnessTarget)
    (book : ε → List Call) : Prop where
  asked : ∀ request w, book ((c.oracle.propose request).run w).2.outside =
    book w.outside ++ [.asked request]
  verified : ∀ w, book ((c.verifier.run target).run w).2.outside =
    book w.outside ++ [.verified (w.files.readText path)]

/-- The calls of a visit. -/
def Visit.calls (c : Controller ε) (path : String) (v : Visit ε) : List Call :=
  .asked v.request ::
    match v.trial? c with
    | some (_, w) => [.verified (w.files.readText path)]
    | none => []

/-- What is right at a visit of a session that has kept some changes. -/
structure Visit.Proper (c : Controller ε) (path : String) (start : Snapshot)
    (kept : List (List Patch)) (v : Visit ε) : Prop where
  /-- Nothing is in flight where the oracle is asked. -/
  sound : Sound path start kept v.session v.world
  /-- The proposal alone is in flight where the verifier is run. -/
  trial : ∀ s w, v.trial? c = some (s, w) → ∃ proposal change, v.answer c = .ok proposal ∧
    s.store.inFlight = some change ∧ change.prior = v.session.store.current ∧
    Grown start (kept ++ [proposal.patches]) s.store.current ∧ Holds path s.store.source w

/-- What a visit leaves. -/
structure Visit.Leaves (c : Controller ε) (path : String) (start : Snapshot)
    (kept : List (List Patch)) (id : FindingId) (v : Visit ε)
    (r : Except SessionFailure RoundEnd) (s : Session) (w : World ε) : Prop where
  result_eq : v.result c = ((r, s), w)
  target_eq : s.target = v.session.target
  /-- The session is sound, or has been stopped. -/
  left : Sound path start (kept ++ v.kept c) s w ∨
    (∃ o, r = .error (.overflow o)) ∧ Stopped path start (kept ++ v.kept c) s w
  queued : r = .ok .settled → s.ledger.Queued
  working : r ≠ .ok .settled → s.ledger.Working id
  calls : ∀ book, Scribe c path v.session.target book →
    book w.outside = book v.world.outside ++ v.calls c path

/-! ### The cases of a round -/

namespace Visit

variable {c : Controller ε} {path : String} {start : Snapshot} {kept : List (List Patch)}
  {id : FindingId} {v : Visit ε}

theorem ask_eq (c : Controller ε) (v : Visit ε) :
    Session.ask c v.request v.world =
      (v.answer c, ((c.oracle.propose v.request).run v.world).2) := by
  have hconsult := Session.run_consult c v.request v.world
  rw [answer, hconsult]
  exact hconsult

/-- Where the oracle is asked, the round goes on with a change or without. -/
theorem result_eq (c : Controller ε) (v : Visit ε) :
    v.result c =
      (match (Session.prepare c v.session v.entry v.request).run v.world with
        | ((.error (cause, statements), s), w) => (do
          return (.ok .unsettled,
            ← Session.charge c s v.entry.record.findingId (some cause) statements) :
          Run ε (Except SessionFailure RoundEnd × Session)).run w
        | ((.ok (handle, statements), s), w) =>
          (Session.tryOut c s v.entry.finding handle statements).run w) := by
  rw [result, Session.round, run_bind, Session.run_look, v.request_eq]
  dsimp only
  rw [run_bind]
  rcases (Session.prepare c v.session v.entry v.request).run v.world with
    ⟨⟨⟨cause, statements⟩ | ⟨handle, statements⟩, s⟩, w⟩ <;> rfl

/-- Only a round that settles its finding keeps a change. -/
theorem kept_of_unsettled (h : (v.result c).1.1 ≠ .ok .settled) : v.kept c = [] := by
  rw [Visit.kept]
  split
  · next heq _ => exact absurd heq h
  · rfl

/-- The round ends before the verifier is run. -/
theorem leaves_failed (h : Sound path start kept v.session v.world)
    (hid : v.entry.record.findingId = id) {cause : FailureCause} {statements : List String}
    {s : Session} {w : World ε}
    (hprepare : (Session.prepare c v.session v.entry v.request).run v.world =
      ((.error (cause, statements), s), w))
    (hstore : s.store = v.session.store) (htarget : s.target = v.session.target)
    (hledger : s.ledger.Working id ∧
      s.ledger.directStatements = v.session.ledger.directStatements)
    (hholds : Holds path v.session.store.source w)
    (hcalls : ∀ book, Scribe c path v.session.target book →
      book w.outside = book v.world.outside ++ [.asked v.request]) :
    v.trial? c = none ∧ ∃ r t u, v.Leaves c path start kept id r t u := by
  have htrial : v.trial? c = none := by rw [trial?, hprepare]
  refine ⟨htrial, .ok .unsettled, Session.charged c s id (some cause) statements, ?_⟩
  obtain ⟨w', hrun, htold⟩ := Session.run_charge c s id (some cause) statements w
  have hresult : v.result c =
      ((.ok .unsettled, Session.charged c s id (some cause) statements), w') := by
    rw [result_eq, hprepare, hid]
    dsimp only
    rw [run_bind, hrun]
    rfl
  have hkept : v.kept c = [] := by
    refine kept_of_unsettled ?_
    rw [hresult]
    exact fun heq => by cases heq
  obtain ⟨hworking, hsame⟩ := Session.working_charged (c := c) hledger.1 (some cause) statements
  refine ⟨w',
    { result_eq := hresult
      target_eq := htarget
      left := Or.inl ?_
      queued := fun heq => by cases heq
      working := fun _ => hworking
      calls := ?_ }⟩
  · rw [hkept, List.append_nil]
    refine h.back ?_ ?_ ?_ (hsame.trans hledger.2) (htold.holds hholds)
    · exact congrArg PatchStore.path hstore
    · exact (congrArg PatchStore.inFlight hstore).trans h.idle
    · exact congrArg PatchStore.current hstore
  · intro book hbook
    rw [htold.outside_eq, hcalls book hbook, Visit.calls, htrial]

/-- The change is kept, and its finding is settled. -/
theorem leaves_kept (h : Sound path start kept v.session v.world) {proposal : Proposal}
    {next : Snapshot} {s t : Session} {w : World ε} {r : Except SessionFailure RoundEnd}
    {others : List Finding} (hanswer : v.answer c = .ok proposal)
    (hnext : v.session.store.current.extend proposal.patches = .ok next)
    (hresult : v.result c = ((r, t), w))
    (hend : Session.conclude c s v.session.store next id proposal.statements (.kept others) =
      (r, t))
    (htarget : s.target = v.session.target) (hworking : s.ledger.Working id)
    (hledger : s.ledger.directStatements = v.session.ledger.directStatements)
    (hholds : Holds path t.store.source w)
    (hcalls : ∀ book, Scribe c path v.session.target book →
      book w.outside = book v.world.outside ++ v.calls c path) :
    v.Leaves c path start kept id r t w := by
  obtain ⟨hsettled, hstore, htarget', hqueued, hsame⟩ := Session.conclude_kept hworking others hend
  dsimp only at hsettled hstore htarget' hqueued hsame
  have hkept : v.kept c = [proposal.patches] := by
    rw [Visit.kept, hresult, hanswer, hsettled]
  refine
    { result_eq := hresult
      target_eq := htarget'.trans htarget
      left := Or.inl ?_
      queued := fun _ => hqueued
      working := fun hne => absurd hsettled hne
      calls := hcalls }
  rw [hkept]
  rw [hstore] at hholds
  exact h.keep hnext hstore (hsame.trans (congrArg (· ++ proposal.statements) hledger)) hholds

/-- The change is undone, and its finding stays at work. -/
theorem leaves_undone (h : Sound path start kept v.session v.world) {next : Snapshot}
    {statements : List String} {s t : Session} {w : World ε}
    {r : Except SessionFailure RoundEnd} {decided : Verdict}
    (hresult : v.result c = ((r, t), w))
    (hend : Session.conclude c s v.session.store next id statements decided = (r, t))
    (hseen : ∀ cause seen, decided = .undone cause seen → ∀ f ∈ seen, f.id = id)
    (hundoes : decided.takesBack = true)
    (htarget : s.target = v.session.target) (hworking : s.ledger.Working id)
    (hledger : s.ledger.directStatements = v.session.ledger.directStatements)
    (hholds : Holds path t.store.source w)
    (hcalls : ∀ book, Scribe c path v.session.target book →
      book w.outside = book v.world.outside ++ v.calls c path) :
    v.Leaves c path start kept id r t w := by
  obtain ⟨hopen, hstore, htarget', hworking', hsame⟩ :=
    Session.conclude_undone hworking hseen hundoes hend
  dsimp only at hopen hstore htarget' hworking' hsame
  have hkept : v.kept c = [] := by
    refine kept_of_unsettled ?_
    rw [hresult]
    exact hopen
  refine
    { result_eq := hresult
      target_eq := htarget'.trans htarget
      left := Or.inl ?_
      queued := fun heq => absurd heq hopen
      working := fun _ => hworking'
      calls := hcalls }
  rw [hkept, List.append_nil]
  rw [hstore] at hholds
  refine h.back ?_ ?_ ?_ (hsame.trans hledger) hholds
  · rw [hstore]
    rfl
  · rw [hstore]
    rfl
  · rw [hstore]
    rfl

/-- The program stops, and the change stays in flight. -/
theorem leaves_halted (h : Sound path start kept v.session v.world) {proposal : Proposal}
    {next : Snapshot} {s : Session} {w : World ε} {o : Overflow}
    (hnext : v.session.store.current.extend proposal.patches = .ok next)
    (hresult : v.result c = ((.error (.overflow o),
      { s with store := v.session.store.changed next }), w))
    (htarget : s.target = v.session.target) (hworking : s.ledger.Working id)
    (hholds : Holds path next.source w)
    (hcalls : ∀ book, Scribe c path v.session.target book →
      book w.outside = book v.world.outside ++ v.calls c path) :
    v.Leaves c path start kept id (.error (.overflow o))
      { s with store := v.session.store.changed next } w := by
  have hkept : v.kept c = [] := by
    refine kept_of_unsettled ?_
    rw [hresult]
    exact fun heq => by cases heq
  refine
    { result_eq := hresult
      target_eq := htarget
      left := Or.inr ⟨⟨o, rfl⟩, ?_⟩
      queued := fun heq => by cases heq
      working := fun _ => hworking
      calls := hcalls }
  rw [hkept, List.append_nil]
  exact
    { made := ⟨⟨v.session.store.nextId, v.session.store.current⟩, proposal.patches, rfl, h.grown,
        h.grown.more hnext⟩
      holds := hholds }

/-- The verifier is run on the proposal. -/
theorem leaves_tried (hby : Bystanders c path v.session.target)
    (h : Sound path start kept v.session v.world) (hworking : v.session.ledger.Working id)
    (hname : v.entry.finding.id = id) {proposal : Proposal} {next : Snapshot} {w : World ε}
    (hanswer : v.answer c = .ok proposal)
    (hnext : v.session.store.current.extend proposal.patches = .ok next)
    (hprepare : (Session.prepare c v.session v.entry v.request).run v.world =
      ((.ok (v.session.store.nextId, proposal.statements),
        { v.session.addUsage id proposal.usage with store := v.session.store.changed next }), w))
    (hholds : Holds path next.source w)
    (hcalls : ∀ book, Scribe c path v.session.target book →
      book w.outside = book v.world.outside ++ [.asked v.request]) :
    ∃ r t u, v.Leaves c path start kept id r t u := by
  let s : Session :=
    { v.session.addUsage id proposal.usage with store := v.session.store.changed next }
  have htrial : v.trial? c = some (s, w) := by rw [trial?, hprepare]
  have hpath := h.path_eq
  have hspares : Spares v.session.store.path (c.verifier.run s.target) := by
    rw [hpath]
    exact hby.verifier
  have hstart : Holds v.session.store.path next.source w := by
    rw [hpath]
    exact hholds
  obtain ⟨w', hrun, hleft, hout⟩ :=
    Session.run_tryOut (s := s) v.entry.finding proposal.statements rfl hstart hspares
  rw [hname, hpath] at hleft
  rw [hname] at hrun
  have hresult : v.result c = ((Session.tryOut c s v.entry.finding v.session.store.nextId
      proposal.statements).run w) := by
    rw [result_eq, hprepare]
  have hcalled : ∀ book, Scribe c path v.session.target book →
      book w'.outside = book v.world.outside ++ v.calls c path := by
    intro book hbook
    have hverified : book ((c.verifier.run s.target).run w).2.outside =
        book w.outside ++ [.verified (w.files.readText path)] := hbook.verified w
    rw [hout, hverified, hcalls book hbook, Visit.calls, htrial, List.append_assoc]
    rfl
  -- the finding is at work until the verdict
  obtain ⟨husage, husageSame⟩ := Session.working_addUsage hworking proposal.usage
  obtain ⟨hverified, hverifiedSame⟩ := Session.working_verified (s := s) husage
  have hseen : ∀ cause seen, verdict c.mode.targets s.target s.store v.entry.finding
      (reading s.target ((c.verifier.run s.target).run w).1) = .undone cause seen →
        ∀ f ∈ seen, f.id = id := by
    intro cause seen hundone
    rw [← hname]
    exact verdict_seen hundone
  revert hseen hrun hleft
  generalize verdict c.mode.targets s.target s.store v.entry.finding
    (reading s.target ((c.verifier.run s.target).run w).1) = decided
  intro hrun hleft hseen
  have hend := hresult.trans hrun
  have hsame := hverifiedSame.trans husageSame
  by_cases hundoes : decided.takesBack = true
  · exact ⟨_, _, w', leaves_undone h hend rfl hseen hundoes rfl hverified hsame hleft hcalled⟩
  · cases decided with
    | undone cause seen | fatal failure => exact absurd rfl hundoes
    | kept others =>
      exact ⟨_, _, w', leaves_kept h hanswer hnext hend rfl rfl hverified hsame hleft hcalled⟩
    | halted o => exact ⟨_, _, w', leaves_halted h hnext hend rfl hverified hleft hcalled⟩

/-- **A round keeps a session sound**, and makes the calls of its visit. -/
theorem run_round (hby : Bystanders c path v.session.target)
    (h : Sound path start kept v.session v.world) (hworking : v.session.ledger.Working id)
    (hid : v.entry.record.findingId = id) (hname : v.entry.finding.id = id) :
    v.Proper c path start kept ∧ ∃ r t u, v.Leaves c path start kept id r t u := by
  have hask := ask_eq c v
  have hasked : ∀ book, Scribe c path v.session.target book →
      book ((c.oracle.propose v.request).run v.world).2.outside =
        book v.world.outside ++ [.asked v.request] :=
    fun book hbook => hbook.asked v.request v.world
  have hholds : Holds path v.session.store.source ((c.oracle.propose v.request).run v.world).2 :=
    hby.oracle v.request v.world _ h.holds
  cases hanswer : v.answer c with
  | error failure =>
    rw [hanswer] at hask
    obtain ⟨htrial, hleaves⟩ := leaves_failed h hid (Session.run_prepare_silent hask) rfl rfl
      ⟨hworking, rfl⟩ hholds hasked
    refine ⟨⟨h, fun s w htried => ?_⟩, hleaves⟩
    rw [htrial] at htried
    cases htried
  | ok proposal =>
    rw [hanswer] at hask
    cases hnext : v.session.store.current.extend proposal.patches with
    | error failure =>
      have husage := Session.working_addUsage hworking proposal.usage
      rw [← hid] at husage
      obtain ⟨htrial, hleaves⟩ := leaves_failed h rfl
        (Session.run_prepare_misfit hask h.idle hnext) rfl rfl husage hholds hasked
      refine ⟨⟨h, fun s w htried => ?_⟩, hid ▸ hleaves⟩
      rw [htrial] at htried
      cases htried
    | ok next =>
      have hheld : Holds v.session.store.path v.session.store.source
          ((c.oracle.propose v.request).run v.world).2 := by
        rw [h.path_eq]
        exact hholds
      obtain ⟨w, hprepare, hmade, hout⟩ := Session.run_prepare_fits hask h.idle hnext hheld
      rw [h.path_eq] at hmade
      rw [hid] at hprepare
      refine ⟨⟨h, fun s u htried => ?_⟩,
        leaves_tried hby h hworking hname hanswer hnext hprepare hmade ?_⟩
      · rw [trial?, hprepare] at htried
        obtain ⟨rfl, rfl⟩ := Prod.mk.inj (Option.some.inj htried)
        exact ⟨proposal, ⟨v.session.store.nextId, v.session.store.current⟩, hanswer, rfl, rfl,
          h.grown.more hnext, hmade⟩
      · intro book hbook
        rw [hout]
        exact hasked book hbook

end Visit

end HarnessRepair
