import HarnessRepair.Proofs.Batch.Guarantee
import HarnessRepair.Proofs.Patch.Growth
import HarnessRepair.Proofs.Patch.Stripping
import HarnessRepair.Proofs.Session.Turn

/-!
# How a session conducts itself

Of the steps of a session few reach beyond it.  Some only tell what happens; those of the
store write a text to the harness, and which one does not depend on the world; the verifier is
run on the target, and the oracle is asked; and files other than the harness are looked at only
for findings that the verifier has reported.  And whatever the answers are, the store holds the
text that it started from with some changes.

## Main definitions

* `Inert`, `Pens path` — steps that only tell, and steps that write a text at `path`.
* `Verifier.Names` — a verifier reports something in a file.
* `PatchStore.Develops`, `Session.Sound` — what stays true of a store, and of a session.
* `Permits P c target` — the kinds of steps that a session makes have the property `P`.

## Main results

* `Session.within_runSteps` — **every step of a session is of one of these kinds.**
-/

namespace HarnessRepair

open Steps

variable {ε α β : Type}

/-! ### Steps that only tell -/

/-- A computation that answers the same in every world, and only tells. -/
def Inert (m : Run ε α) : Prop :=
  ∃ a, ∀ w, ∃ told, m.run w = (a, { w with events := w.events ++ told })

namespace Inert

theorem pure (a : α) : Inert (Pure.pure a : Run ε α) :=
  ⟨a, fun w => ⟨[], by rw [List.append_nil]; rfl⟩⟩

theorem tell (level : LogLevel) (source : LogSource) (message : String)
    (fields : List (String × FieldValue)) :
    Inert (HarnessRepair.tell level source message fields : Run ε Unit) :=
  ⟨(), fun _ => ⟨_, rfl⟩⟩

theorem bind {m : Run ε α} {f : α → Run ε β} (h : Inert m) (hf : ∀ a, Inert (f a)) :
    Inert (m >>= f) := by
  obtain ⟨a, ha⟩ := h
  obtain ⟨b, hb⟩ := hf a
  refine ⟨b, fun w => ?_⟩
  obtain ⟨told, hm⟩ := ha w
  obtain ⟨told', hrest⟩ := hb { w with events := w.events ++ told }
  refine ⟨told ++ told', ?_⟩
  rw [run_bind, hm]
  dsimp only
  rw [hrest, List.append_assoc]

end Inert

theorem inert_parseReport (harnessFile : String) (raw : RawReport) :
    Inert (parseReport harnessFile raw : Run ε (Except ParseFailure VerifierReport)) := by
  rw [parseReport]
  dsimp only
  cases readReport harnessFile raw with
  | error e => exact .pure _
  | ok report => exact (Inert.tell ..).bind fun _ => .pure _

theorem fst_parseReport (harnessFile : String) (raw : RawReport) (w : World ε) :
    ((parseReport harnessFile raw).run w).1 = readReport harnessFile raw := by
  rw [parseReport]
  dsimp only
  cases readReport harnessFile raw <;> rfl

namespace Session

theorem inert_charge (c : Controller ε) (s : Session) (id : FindingId)
    (cause : Option FailureCause) (statements : List String) :
    Inert (charge c s id cause statements) := by
  rw [charge]
  dsimp only
  split
  · exact (Inert.tell ..).bind fun _ => .pure _
  · exact .pure _

theorem inert_giveUp (s : Session) (id : FindingId) : Inert (giveUp s id : Run ε Session) := by
  rw [giveUp]
  dsimp only
  split
  · exact (Inert.tell ..).bind fun _ => .pure _
  · exact .pure _

theorem inert_tellGone (s : Session) (resolver : FindingId) (gone : List LedgerEntry) :
    Inert (s.tellGone resolver gone : Run ε Unit) := by
  induction gone with
  | nil => exact .pure _
  | cons e rest ih =>
    rw [tellGone]
    exact (Inert.tell ..).bind fun _ => ih

theorem inert_takeIn (s : Session) (f : Finding) : Inert (s.takeIn f : Run ε Session) := by
  rw [takeIn]
  cases s.ledger.find? f.id with
  | none => exact (Inert.tell ..).bind fun _ => .pure _
  | some e =>
    dsimp only
    split
    · exact .pure _
    · exact .pure _

theorem inert_takeInAll (s : Session) (fs : List Finding) :
    Inert (s.takeInAll fs : Run ε Session) := by
  induction fs generalizing s with
  | nil => exact .pure _
  | cons f fs ih =>
    rw [takeInAll]
    exact (inert_takeIn s f).bind fun t => ih t

theorem inert_absorb (s : Session) (resolver : FindingId) (relevant : List Finding) :
    Inert (s.absorb resolver relevant : Run ε Session) := by
  rw [absorb]
  exact (inert_tellGone ..).bind fun _ => inert_takeInAll ..

theorem inert_accept (c : Controller ε) (s : Session) (id : FindingId) (handle : Nat)
    (statements : List String) (others : List Finding) :
    Inert (accept c s id handle statements others) := by
  rw [accept]
  obtain ⟨_ | _, store⟩ := s.store.commit handle
  · exact .pure _
  · refine (inert_charge ..).bind fun t => ?_
    dsimp only
    split
    · exact (Inert.tell ..).bind fun _ => (inert_absorb ..).bind fun _ => .pure _
    · exact (inert_absorb ..).bind fun _ => .pure _

end Session

/-! ### Steps that write the harness -/

/-- A computation that writes one text at a path and tells.  Which text, and what it answers,
depends on no world in which the file there holds a text. -/
def Pens (path : String) (m : Run ε α) : Prop :=
  ∃ a text, ∀ w old, Holds path old w → ∃ files told, w.files.write path text = .ok files ∧
    m.run w = (a, { w with files := files, events := w.events ++ told })

namespace Pens

variable {path : String} {m : Run ε α} {f : α → Run ε β}

theorem writeText (path text : String) :
    Pens path (HarnessRepair.writeText path text : Run ε (Except IoError Unit)) := by
  refine ⟨.ok (), text, fun w old hold => ?_⟩
  obtain ⟨files, hwrite, -⟩ := FileSystem.readText_write hold text
  refine ⟨files, [], hwrite, ?_⟩
  rw [HarnessRepair.writeText, run_onFiles, hwrite, List.append_nil]

theorem bind (h : Pens path m) (hf : ∀ a, Inert (f a)) : Pens path (m >>= f) := by
  obtain ⟨a, text, ha⟩ := h
  obtain ⟨b, hb⟩ := hf a
  refine ⟨b, text, fun w old hold => ?_⟩
  obtain ⟨files, told, hwrite, hm⟩ := ha w old hold
  obtain ⟨told', hrest⟩ := hb { w with files := files, events := w.events ++ told }
  refine ⟨files, told ++ told', hwrite, ?_⟩
  rw [run_bind, hm]
  dsimp only
  rw [hrest, List.append_assoc]

theorem of_inert_bind {m : Run ε α} (h : Inert m) (hf : ∀ a, Pens path (f a)) :
    Pens path (m >>= f) := by
  obtain ⟨a, ha⟩ := h
  obtain ⟨b, text, hb⟩ := hf a
  refine ⟨b, text, fun w old hold => ?_⟩
  obtain ⟨told, hm⟩ := ha w
  obtain ⟨files, told', hwrite, hrest⟩ := hb { w with events := w.events ++ told } old hold
  refine ⟨files, told ++ told', hwrite, ?_⟩
  rw [run_bind, hm]
  dsimp only
  rw [hrest, List.append_assoc]

end Pens

/-- A step that is no more than a store makes: it tells, or it writes the file of the store. -/
def Clerical (path : String) (m : Run ε α) : Prop := Inert m ∨ Pens path m

theorem Clerical.bind {path : String} {m : Run ε α} {f : α → Run ε β} (h : Clerical path m)
    (hf : ∀ a, Inert (f a)) : Clerical path (m >>= f) :=
  h.imp (fun h => h.bind hf) fun h => h.bind hf

namespace PatchStore

variable {s : PatchStore}

theorem pens_install (s : PatchStore) (next : Snapshot) :
    Pens s.path (s.install next : Run ε (Except PatchError Unit × PatchStore)) := by
  rw [install]
  refine (Pens.writeText s.path next.source).bind fun r => ?_
  cases r <;> exact .pure _

theorem clerical_applyAll (s : PatchStore) (patches : List Patch) :
    Clerical s.path (s.applyAll patches : Run ε (Except PatchError Nat × PatchStore)) := by
  rw [applyAll]
  split
  · exact Or.inl (.pure _)
  · split
    · exact Or.inl (.pure _)
    · refine Or.inr ((pens_install s _).bind fun r => ?_)
      obtain ⟨_ | _, t⟩ := r
      · exact .pure _
      · exact (Inert.tell ..).bind fun _ => .pure _

theorem clerical_revert (s : PatchStore) (handle : Nat) :
    Clerical s.path (s.revert handle : Run ε (Except PatchError Unit × PatchStore)) := by
  rw [revert]
  split
  · exact Or.inl (.pure _)
  · next change t htake =>
    obtain ⟨-, -, rfl⟩ := takeInFlight_eq_ok_iff.1 htake
    exact Or.inr (.of_inert_bind (Inert.tell ..) fun _ =>
      pens_install { s with inFlight := none } change.prior)

theorem inert_warnStripped (s : PatchStore) (removed : List (Nat × String)) :
    Inert (s.warnStripped removed : Run ε Unit) := by
  induction removed with
  | nil => exact .pure _
  | cons r rest ih =>
    obtain ⟨line, statement⟩ := r
    rw [warnStripped]
    split
    · exact (Inert.tell ..).bind fun _ => ih
    · exact ih

theorem clerical_stripLines (s : PatchStore) (listed : List Nat) :
    Clerical s.path
      (s.stripLines listed : Run ε (Except PatchError (List String) × PatchStore)) := by
  rw [stripLines]
  split
  · exact Or.inl (.pure _)
  · split
    · exact Or.inl (.pure _)
    · split
      · exact Or.inl (.pure _)
      · refine Or.inr (.of_inert_bind (inert_warnStripped ..) fun _ => (pens_install s _).bind
          fun r => ?_)
        obtain ⟨_ | _, t⟩ := r <;> exact .pure _

end PatchStore

/-! ### What stays true of a store -/

/-- A store that has the text another started from, with some changes, and so has what a change
in flight would be undone to. -/
structure PatchStore.Develops (start s : PatchStore) : Prop where
  path_eq : s.path = start.path
  pristine_eq : s.pristine = start.pristine
  policy_eq : s.policy = start.policy
  grown : ∃ changes, Grown start.current changes s.current
  prior : ∀ change ∈ s.inFlight, ∃ changes, Grown start.current changes change.prior

namespace PatchStore.Develops

variable {start s : PatchStore}

theorem refl (h : s.inFlight = none) : Develops s s where
  path_eq := rfl
  pristine_eq := rfl
  policy_eq := rfl
  grown := ⟨[], .start⟩
  prior := by rw [h]; exact fun change hc => by cases hc

/-- A change that is not in flight any more. -/
theorem settled (h : Develops start s) : Develops start { s with inFlight := none } where
  path_eq := h.path_eq
  pristine_eq := h.pristine_eq
  policy_eq := h.policy_eq
  grown := h.grown
  prior := fun change hc => by cases hc

theorem applyAll (h : Develops start s) (patches : List Patch) (w : World ε) :
    Develops start ((s.applyAll patches).run w).1.2 := by
  rcases run_applyAll_cases s patches w with ⟨next, u, hext, hrun, -⟩ | ⟨e, hrun⟩
  · obtain ⟨changes, hgrown⟩ := h.grown
    rw [hrun]
    refine ⟨h.path_eq, h.pristine_eq, h.policy_eq, ⟨_, hgrown.more hext⟩, fun change hc => ?_⟩
    obtain rfl := Option.some.inj hc
    exact ⟨changes, hgrown⟩
  · rw [hrun]
    exact h

theorem revert (h : Develops start s) (handle : Nat) (w : World ε) :
    Develops start ((s.revert handle).run w).1.2 := by
  cases htake : s.takeInFlight handle with
  | error e =>
    rw [run_revert_stale htake]
    exact h
  | ok taken =>
    obtain ⟨change, t⟩ := taken
    obtain ⟨hchange, rfl, rfl⟩ := takeInFlight_eq_ok_iff.1 htake
    rcases run_revert_cases hchange w with ⟨u, hrun, -⟩ | ⟨e, u, hrun, -⟩
    · rw [hrun]
      exact { h.settled with grown := h.prior change hchange }
    · rw [hrun]
      exact h.settled

theorem commit (h : Develops start s) (handle : Nat) : Develops start (s.commit handle).2 := by
  rw [PatchStore.commit]
  split
  · exact h
  · next change t htake =>
    obtain ⟨-, -, rfl⟩ := takeInFlight_eq_ok_iff.1 htake
    exact h.settled

end PatchStore.Develops

/-! ### What stays true of a ledger -/

/-- A verifier that is run on a target can report something in a file. -/
def Verifier.Names (v : Verifier ε) (target : HarnessTarget) (file : String) : Prop :=
  ∃ w report, reading target ((v.run target).run w).1 = .ok report ∧
    ∃ f ∈ report.findings, f.location.file = file

/-- All findings of a ledger are in files of some kind. -/
def Ledger.LiesIn (K : String → Prop) (l : Ledger) : Prop :=
  ∀ e ∈ l, K e.finding.location.file

namespace Ledger.LiesIn

variable {K : String → Prop} {l : Ledger}

/-- A change of entries that leaves their findings alone. -/
theorem map (h : l.LiesIn K) {g : LedgerEntry → LedgerEntry}
    (hg : ∀ e, (g e).finding = e.finding) : Ledger.LiesIn K (l.map g) := by
  refine List.forall_mem_map.2 fun e he => ?_
  rw [hg]
  exact h e he

theorem updateRecord (h : l.LiesIn K) (id : FindingId) (f : AttemptRecord → AttemptRecord) :
    (l.updateRecord id f).LiesIn K := h.map fun e => by split <;> rfl

theorem settle (h : l.LiesIn K) (resolver : FindingId) (present : List FindingId) :
    (l.settle resolver present).LiesIn K := h.map fun e => by split <;> rfl

theorem blockRemaining (h : l.LiesIn K) : l.blockRemaining.LiesIn K :=
  h.map fun e => by split <;> rfl

theorem observe (h : l.LiesIn K) {f : Finding} (hf : K f.location.file) :
    (l.observe f).LiesIn K := by
  refine List.forall_mem_map.2 fun e he => ?_
  split
  · exact hf
  · exact h e he

theorem track (h : l.LiesIn K) {f : Finding} (hf : K f.location.file) :
    (l.track f).LiesIn K := by
  rw [Ledger.track]
  cases l.find? f.id with
  | some e => exact h.observe hf
  | none => exact List.forall_mem_append.2 ⟨h, List.forall_mem_singleton.2 hf⟩

theorem enter (h : l.LiesIn K) {f : Finding} (hf : K f.location.file) :
    (l.enter f).LiesIn K := by
  rw [Ledger.enter]
  split
  · split
    · exact h
    · exact h.observe hf
  · exact h.track hf

theorem foldl {g : Ledger → Finding → Ledger}
    (hg : ∀ (l : Ledger) (f : Finding), l.LiesIn K → K f.location.file → (g l f).LiesIn K)
    (h : l.LiesIn K) {fs : List Finding} (hfs : ∀ f ∈ fs, K f.location.file) :
    (fs.foldl g l).LiesIn K := by
  induction fs generalizing l with
  | nil => exact h
  | cons f fs ih =>
    obtain ⟨hf, hrest⟩ := List.forall_mem_cons.1 hfs
    exact ih (hg l f h hf) hrest

end Ledger.LiesIn

/-- Rebasing leaves a finding in its file. -/
theorem file_of_mem_rebased {harnessFile : String} {store : PatchStore} {findings : List Finding}
    {f : Finding} (h : f ∈ rebased harnessFile store findings) :
    ∃ g ∈ findings, f.location.file = g.location.file := by
  obtain ⟨g, hg, hrebase⟩ := List.mem_filterMap.1 h
  refine ⟨g, hg, ?_⟩
  rw [rebase?] at hrebase
  split at hrebase
  · split at hrebase
    · obtain rfl := Option.some.inj hrebase
      split <;> rfl
    · cases hrebase
  · obtain rfl := Option.some.inj hrebase
    rfl

/-- A finding that persists is in a file of the report. -/
theorem file_of_persists {kind : FindingKind} {target : HarnessTarget} {store : PatchStore}
    {finding still : Finding} {report : VerifierReport}
    (h : judge kind target store finding report = .ok (.persists still)) :
    ∃ g ∈ report.findings, still.location.file = g.location.file :=
  file_of_mem_rebased (List.mem_of_mem_filter
    (List.mem_of_find?_eq_some (find?_of_judge_persists h)))

/-! ### What stays true of a session -/

namespace Session

/-- A session on the target it started with, for which the same lines were stripped, whose store
has developed from the first one, and whose findings are in files that the verifier has named. -/
structure Sound (c : Controller ε) (start s : Session) : Prop where
  target_eq : s.target = start.target
  removed_eq : s.removed = start.removed
  develops : start.store.Develops s.store
  named : s.ledger.LiesIn (c.verifier.Names start.target)

variable {c : Controller ε} {start s : Session}

namespace Sound

theorem refl (hfree : s.store.inFlight = none) (hempty : s.ledger = []) : Sound c s s where
  target_eq := rfl
  removed_eq := rfl
  develops := .refl hfree
  named := by rw [hempty]; exact List.forall_mem_nil _

theorem store {store : PatchStore} (h : Sound c start s) (hstore : start.store.Develops store) :
    Sound c start { s with store := store } := ⟨h.target_eq, h.removed_eq, hstore, h.named⟩

theorem ledger {l : Ledger} (h : Sound c start s)
    (hl : l.LiesIn (c.verifier.Names start.target)) : Sound c start { s with ledger := l } :=
  ⟨h.target_eq, h.removed_eq, h.develops, hl⟩

theorem charged (h : Sound c start s) (id : FindingId) (cause : Option FailureCause)
    (statements : List String) : Sound c start (s.charged c id cause statements) :=
  h.ledger (h.named.updateRecord _ _)

theorem addUsage (h : Sound c start s) (id : FindingId) (usage : TokenUsage) :
    Sound c start (s.addUsage id usage) :=
  ⟨h.target_eq, h.removed_eq, h.develops,
    h.named.updateRecord id fun r => { r with usage := r.usage + usage }⟩

theorem absorbed (h : Sound c start s) (resolver : FindingId) {others : List Finding}
    (hothers : ∀ f ∈ others, c.verifier.Names start.target f.location.file) :
    Sound c start (s.absorbed resolver others) :=
  h.ledger (.foldl (fun _ _ hl hf => hl.enter hf) (h.named.settle _ _) hothers)

theorem block (h : Sound c start s) (reason : String) : Sound c start (s.block reason).2 :=
  h.ledger h.named.blockRemaining

/-- Keeping a change. -/
theorem accept (h : Sound c start s) (id : FindingId) (handle : Nat) (statements : List String)
    {others : List Finding}
    (hothers : ∀ f ∈ others, c.verifier.Names start.target f.location.file) (w : World ε) :
    Sound c start ((Session.accept c s id handle statements others).run w).1.2 := by
  have hcommit := h.develops.commit handle
  rw [Session.accept]
  generalize s.store.commit handle = r at hcommit
  obtain ⟨_ | _, store⟩ := r
  · exact h.store hcommit
  · dsimp only
    obtain ⟨v, hcharge, -⟩ := run_charge c { s with store := store } id none statements w
    rw [run_bind, hcharge]
    dsimp only
    have hdone := (((h.store hcommit).charged id none statements).ledger
      (((h.store hcommit).charged id none statements).named.updateRecord id fun r =>
        { r with state := .resolved, keptStatements := statements })).absorbed id hothers
    split
    · obtain ⟨u, habsorb, -⟩ := run_absorb _ id others _
      rw [run_bind, run_bind, habsorb]
      exact hdone
    · obtain ⟨u, habsorb, -⟩ := run_absorb _ id others _
      rw [run_bind, habsorb]
      exact hdone

end Sound

/-! ### Every step -/

/-- The request for an entry in a file that the verifier has named. -/
def LooksFor (c : Controller ε) (target : HarnessTarget)
    (m : Run ε (Except Overflow RepairRequest)) : Prop :=
  ∃ (s : Session) (e : LedgerEntry), s.target = target ∧
    c.verifier.Names target e.finding.location.file ∧ m = s.look e

end Session

/-- The kinds of steps that a session on a target makes have the property `P`. -/
structure Permits (P : ∀ β : Type, Run ε β → Prop) (c : Controller ε) (target : HarnessTarget) :
    Prop where
  inert : ∀ (β : Type) (m : Run ε β), Inert m → P β m
  pens : ∀ (β : Type) (m : Run ε β), Pens target.harnessFile m → P β m
  verifies : P _ (c.verifier.run target)
  consults : ∀ request, P _ (Session.consult c request)
  looks : ∀ m, Session.LooksFor c target m → P _ m

/-- A step of the store is permitted. -/
theorem Permits.clerical {P : ∀ β : Type, Run ε β → Prop} {c : Controller ε}
    {target : HarnessTarget} (hP : Permits P c target) {m : Run ε α}
    (h : Clerical target.harnessFile m) : P _ m := by
  rcases h with h | h
  · exact hP.inert _ m h
  · exact hP.pens _ m h

namespace Session

variable {P : ∀ β : Type, Run ε β → Prop} {c : Controller ε} {start s : Session}

/-- Telling is permitted. -/
theorem within_tell (hP : Permits P c start.target) {Q : Unit → Prop} (hQ : Q ())
    (level : LogLevel) (source : LogSource) (message : String)
    (fields : List (String × FieldValue)) :
    (step (tell level source message fields) : Steps ε Unit).Within P Q :=
  .step (hP.inert _ _ (.tell ..)) fun _ => hQ

theorem within_verifySteps (hP : Permits P c start.target) (h : Sound c start s) :
    (verifySteps c s).Within P fun r => Sound c start r.2 ∧
      ∀ report, r.1 = .ok report →
        ∀ f ∈ report.findings, c.verifier.Names start.target f.location.file := by
  have hcounted : Sound c start { s with verifierRuns := s.verifierRuns + 1 } :=
    ⟨h.target_eq, h.removed_eq, h.develops, h.named⟩
  have hverifies : P _ (c.verifier.run s.target) := h.target_eq ▸ hP.verifies
  rw [verifySteps]
  refine .step_bind hverifies fun w => ?_
  cases hrun : ((c.verifier.run s.target).run w).1 with
  | error e => exact .pure ⟨hcounted, fun report hreport => by cases hreport⟩
  | ok raw =>
    refine .step_bind (hP.inert _ _ (inert_parseReport ..)) fun u => ?_
    rw [fst_parseReport]
    cases hread : readReport s.target.harnessFile raw with
    | error e => exact .pure ⟨hcounted, fun report hreport => by cases hreport⟩
    | ok report =>
      refine .pure ⟨hcounted, fun report' hreport f hf => ?_⟩
      obtain rfl := Except.ok.inj hreport
      rw [← h.target_eq]
      exact ⟨w, report, by rw [hrun, reading, hread], f, hf, rfl⟩

/-- Undoing the change in flight. -/
theorem within_revert (hP : Permits P c start.target)
    (hpath : start.store.path = start.target.harnessFile) (h : Sound c start s) (handle : Nat)
    {f : Except PatchError Unit × PatchStore → Steps ε α} {Q : α → Prop}
    (hf : ∀ r, start.store.Develops r.2 → (f r).Within P Q) :
    (step (s.store.revert handle) >>= f).Within P Q := by
  refine .step_bind (hP.clerical ?_) fun w => hf _ (h.develops.revert handle w)
  rw [← hpath, ← h.develops.path_eq]
  exact PatchStore.clerical_revert s.store handle

/-- Charging a round. -/
theorem within_charge (hP : Permits P c start.target) (h : Sound c start s) (id : FindingId)
    (cause : Option FailureCause) (statements : List String) :
    (step (charge c s id cause statements)).Within P (Sound c start) := by
  refine .step (hP.inert _ _ (inert_charge ..)) fun w => ?_
  obtain ⟨v, hrun, -⟩ := run_charge c s id cause statements w
  rw [hrun]
  exact h.charged id cause statements

theorem within_giveUp (hP : Permits P c start.target) (h : Sound c start s) (id : FindingId) :
    (step (giveUp s id)).Within P (Sound c start) := by
  refine .step (hP.inert _ _ (inert_giveUp ..)) fun w => ?_
  obtain ⟨v, hrun, -⟩ := run_giveUp s id w
  rw [hrun]
  exact h.ledger (h.named.updateRecord _ _)

theorem within_rejectSteps (hP : Permits P c start.target)
    (hpath : start.store.path = start.target.harnessFile) (h : Sound c start s) (id : FindingId)
    (handle : Nat) (cause : FailureCause) (statements : List String) :
    (rejectSteps c s id handle cause statements).Within P fun r => Sound c start r.2 := by
  rw [rejectSteps]
  refine within_revert hP hpath h handle fun r hstore => ?_
  obtain ⟨_ | _, store⟩ := r
  · exact .pure (h.store hstore)
  · exact .bind (within_charge hP (h.store hstore) ..) fun t ht => .pure ht

theorem within_tryOutSteps (hP : Permits P c start.target)
    (hpath : start.store.path = start.target.harnessFile) (h : Sound c start s)
    (finding : Finding) (handle : Nat) (statements : List String) :
    (tryOutSteps c s finding handle statements).Within P fun r => Sound c start r.2 := by
  rw [tryOutSteps]
  refine .bind (within_verifySteps hP (h.ledger (h.named.updateRecord _ _))) fun r hr => ?_
  obtain ⟨e | report, t⟩ := r
  · cases e with
    | infrastructure e => exact within_rejectSteps hP hpath hr.1 ..
    | parse e | patch e | overflow o =>
      refine within_revert hP hpath hr.1 handle fun r hstore => ?_
      obtain ⟨_ | _, store⟩ := r <;> exact .pure (hr.1.store hstore)
  · obtain ⟨ht, hnamed⟩ := hr
    -- a finding lies where one of the report does, and those are for the verifier to name
    have hfile : ∀ f : Finding, (∃ g ∈ report.findings, f.location.file = g.location.file) →
        c.verifier.Names start.target f.location.file := by
      rintro f ⟨g, hg, heq⟩
      rw [heq]
      exact hnamed report rfl g hg
    dsimp only
    rcases hjudge : judge c.mode.targets t.target t.store finding report with
      o | (introduced | still | - | others)
    · exact .pure ht
    · exact within_rejectSteps hP hpath ht ..
    · refine within_revert hP hpath ht handle fun r hstore => ?_
      obtain ⟨_ | _, store⟩ := r
      · exact .pure (ht.store hstore)
      · have hseen :=
          (ht.store hstore).ledger (ht.named.observe (hfile _ (file_of_persists hjudge)))
        exact .bind (within_charge hP hseen ..) fun t' ht' => .pure ht'
    · exact within_rejectSteps hP hpath ht ..
    · refine .step (hP.inert _ _ (inert_accept ..)) fun w => ht.accept _ _ _ (fun f hf => ?_) w
      obtain ⟨rfl, -⟩ := judge_resolved hjudge
      exact hfile f (file_of_mem_rebased (List.mem_of_mem_filter hf))

theorem within_prepareSteps (hP : Permits P c start.target)
    (hpath : start.store.path = start.target.harnessFile) (h : Sound c start s) (e : LedgerEntry)
    (request : RepairRequest) :
    (prepareSteps c s e request).Within P fun r => Sound c start r.2 := by
  rw [prepareSteps]
  refine .step_bind (hP.consults _) fun u => ?_
  split
  · exact .pure h
  · next proposal _ =>
    have hused := h.addUsage e.record.findingId proposal.usage
    refine .step_bind (hP.clerical ?_) fun v => ?_
    · rw [← hpath, ← hused.develops.path_eq]
      exact PatchStore.clerical_applyAll _ _
    · have hstore := hused.develops.applyAll proposal.patches v
      generalize ((PatchStore.applyAll (s.addUsage e.record.findingId proposal.usage).store
        proposal.patches).run v).1 = r at hstore
      obtain ⟨_ | handle, store⟩ := r
      · exact .pure (hused.store hstore)
      · exact .step_bind (hP.inert _ _ (.tell ..)) fun _ => .pure (hused.store hstore)

theorem within_roundSteps (hP : Permits P c start.target)
    (hpath : start.store.path = start.target.harnessFile) (h : Sound c start s) {e : LedgerEntry}
    (he : e ∈ s.ledger) :
    (roundSteps c s e).Within P fun r => Sound c start r.2 := by
  rw [roundSteps]
  refine .step_bind (hP.looks _ ⟨s, e, h.target_eq, h.named e he, rfl⟩) fun w => ?_
  split
  · exact .pure h
  · refine .bind (within_prepareSteps hP hpath h e _) fun r hr => ?_
    obtain ⟨⟨cause, statements⟩ | ⟨handle, statements⟩, t⟩ := r
    · exact .bind (within_charge hP hr ..) fun t' ht' => .pure ht'
    · exact within_tryOutSteps hP hpath hr ..

theorem within_attemptsSteps (hP : Permits P c start.target)
    (hpath : start.store.path = start.target.harnessFile) (id : FindingId) (rounds : Nat)
    (h : Sound c start s) :
    (attemptsSteps c id rounds s).Within P fun r => Sound c start r.2 := by
  induction rounds generalizing s with
  | zero => exact .bind (within_giveUp hP h id) fun t ht => .pure ht
  | succ rounds ih =>
    rw [attemptsSteps]
    cases hfind : s.ledger.find? id with
    | none => exact .pure h
    | some e =>
      dsimp only
      split
      · refine .bind (within_roundSteps hP hpath h (List.mem_of_find?_eq_some hfind))
          fun r hr => ?_
        obtain ⟨failure | (_ | _), t⟩ := r
        · exact .pure hr
        · exact ih hr
        · exact .pure hr
      · exact .bind (within_giveUp hP h id) fun t ht => .pure ht

theorem within_giveInSteps (hP : Permits P c start.target) (h : Sound c start s) (id : FindingId)
    (failure : SessionFailure) :
    (giveInSteps s id failure).Within P fun r => Sound c start r.2 := by
  cases failure with
  | overflow o => exact .pure h
  | infrastructure e | parse e | patch e =>
    exact .step_bind (hP.inert _ _ (.tell ..)) fun _ => .pure (h.block _)

theorem within_repairAllSteps (hP : Permits P c start.target)
    (hpath : start.store.path = start.target.harnessFile) (limit : Nat) (h : Sound c start s) :
    (repairAllSteps c limit s).Within P fun r => Sound c start r.2 := by
  induction limit generalizing s with
  | zero =>
    rw [repairAllSteps]
    split
    · exact .step_bind (hP.inert _ _ (.tell ..)) fun _ => .pure h
    · exact .pure (h.block _)
  | succ limit ih =>
    rw [repairAllSteps]
    split
    · exact .step_bind (hP.inert _ _ (.tell ..)) fun _ => .pure h
    · next id _ =>
      refine .bind (within_attemptsSteps hP hpath id _ (h.ledger (h.named.updateRecord _ _)))
        fun r hr => ?_
      obtain ⟨e | ⟨⟩, t⟩ := r
      · exact within_giveInSteps hP hr ..
      · exact ih hr

theorem within_startSteps (hP : Permits P c start.target) (h : Sound c start s) :
    (startSteps c s).Within P fun r => Sound c start r.2 := by
  rw [startSteps]
  refine .step_bind (hP.inert _ _ (.tell ..)) fun _ => .bind (within_verifySteps hP h)
    fun r hr => ?_
  obtain ⟨e | report, t⟩ := r
  · exact .step_bind (hP.inert _ _ (.tell ..)) fun _ => .pure hr.1
  · have hfound : Ledger.LiesIn (c.verifier.Names start.target)
        ((report.findings.filter fun f => f.kind = c.mode.targets).foldl Ledger.track t.ledger) :=
      hr.1.named.foldl (fun _ _ hl hf => hl.track hf) fun f hf =>
        hr.2 report rfl f (List.mem_of_mem_filter hf)
    exact .step_bind (hP.inert _ _ (.tell ..)) fun _ => .pure (hr.1.ledger hfound)

/-- **Every step of a session is of a permitted kind**, and the store develops. -/
theorem within_runSteps (hP : Permits P c s.target) (hpath : s.store.path = s.target.harnessFile)
    (hfree : s.store.inFlight = none) (hempty : s.ledger = []) :
    (runSteps c s).Within P fun r => Sound c s r.2 := by
  rw [runSteps]
  refine .bind (within_startSteps hP (.refl hfree hempty)) fun r hr => ?_
  obtain ⟨e | ⟨⟩, t⟩ := r
  · exact .pure (hr.block _)
  · exact within_repairAllSteps hP hpath findingLimit hr

/-! ### Every step of its end -/

theorem within_writeSteps (hP : Permits P c start.target) {store : PatchStore}
    (hpath : store.path = start.target.harnessFile) (text complaint : String) :
    (store.writeSteps text complaint).Within P fun _ => True := by
  rw [PatchStore.writeSteps, hpath]
  refine .step_bind (hP.pens _ _ (.writeText ..)) fun w => ?_
  split
  · exact within_tell hP trivial ..
  · exact .pure trivial

theorem within_closeSteps (hP : Permits P c start.target) {store : PatchStore}
    (hpath : store.path = start.target.harnessFile) :
    store.closeSteps.Within P fun _ => True := by
  have hrest : (do
      if store.policy = .restoreText ∧ store.source ≠ store.pristine then
        store.writeSteps store.pristine "Failed to restore harness" : Steps ε Unit).Within P
      fun _ => True := by
    split
    · exact within_writeSteps hP hpath ..
    · exact .pure trivial
  rw [PatchStore.closeSteps]
  cases store.inFlight with
  | none => exact hrest
  | some change => exact (within_writeSteps hP hpath ..).bind fun _ _ => hrest

/-- Where no text is given back, a session ends with permitted steps. -/
theorem within_endSteps (hP : Permits P c start.target) {b : BatchSettings}
    (htest : b.testMode = false) (hpath : s.store.path = start.target.harnessFile)
    (outcome : SessionOutcome) :
    (endSteps b c.mode s outcome).Within P fun _ => True := by
  rw [endSteps, htest]
  exact (within_closeSteps hP hpath).bind fun _ _ => .pure trivial

end Session

/-! ### A job is set up -/

/-- Opening a harness reads its text, or fails as reading does. -/
theorem PatchStore.run_openFile (path : String) (policy : RestorePolicy) (w : World ε) :
    (openFile path policy).run w =
      (match w.files.readText path with
        | .ok text => .ok (ofText path text policy)
        | .error e => .error (.io e), w) := by
  have hrun : (readText path).run w = (w.files.readText path, w) := rfl
  rw [openFile, run_bind, hrun]
  dsimp only
  cases w.files.readText path <;> rfl

theorem withoutLines_nil (text : String) : withoutLines text [] = text := by
  have hdrop : ∀ (n : Nat) (ls : List (List Char)), Snapshot.dropListed [] n ls = ls := by
    intro n ls
    induction ls generalizing n with
    | nil => rfl
    | cons l ls ih =>
      rw [Snapshot.dropListed, if_neg (by simp), ih]
  rw [withoutLines, hdrop, Text.flatten_terminated, String.ofList_toList]

/-- Stripping writes the harness, or tells. -/
theorem clerical_stripFor (job : SessionJob) (store : PatchStore) :
    Clerical store.path
      (stripFor job store : Run ε (Except PatchError (List String) × PatchStore)) := by
  rw [stripFor]
  split
  · exact Or.inl (.pure _)
  · refine (PatchStore.clerical_stripLines store _).bind fun r => ?_
    obtain ⟨_ | _, t⟩ := r <;> exact (Inert.tell ..).bind fun _ => .pure _

/-- The lines of a job are stripped; or the store stays as it is, since one of them is the number
of no line, or the file has been lost. -/
theorem stripFor_cases (job : SessionJob) (path text : String) (policy : RestorePolicy)
    (w : World ε) :
    (∃ removed u, (stripFor job (.ofText path text policy)).run w =
      ((.ok removed, { PatchStore.ofText path text policy with
        current := { source := withoutLines text job.linesToRemove } }), u)) ∨
    ∃ e u, (stripFor job (.ofText path text policy)).run w =
        ((.error e, .ofText path text policy), u) ∧ u.files = w.files ∧
      ((∃ n ∈ job.linesToRemove, OutOfRange (Text.terminated text.toList) n) ∨
        ∀ old, ¬ Holds path old w) := by
  rw [stripFor]
  by_cases hnone : job.linesToRemove.isEmpty = true
  · rw [if_pos hnone, List.isEmpty_iff.1 hnone, withoutLines_nil]
    exact Or.inl ⟨[], w, rfl⟩
  · rw [if_neg hnone, run_bind]
    rcases PatchStore.run_stripLines_cases (.ofText path text policy) job.linesToRemove w with
      ⟨next, removed, u, hstrip, -, hrun, -⟩ | ⟨e, u, hrun, htold⟩
    · rw [hrun, Snapshot.strip_eq_ok hstrip]
      exact Or.inl ⟨_, _, rfl⟩
    · obtain ⟨-, -, hwhy⟩ := run_stripLines_error rfl rfl hrun
      rw [hrun]
      refine Or.inr ⟨e, _, rfl, htold.files_eq, ?_⟩
      rcases hwhy with ⟨n, hn, hout, -⟩ | ⟨fault, -, hfault⟩
      · exact Or.inl ⟨n, hn, hout⟩
      · refine Or.inr fun old hold => ?_
        obtain ⟨place, hplace⟩ := hold.exists_writable
        cases hplace.symm.trans hfault

/-- What comes behind a session does not change what it comes to. -/
theorem fst_runSession {c : Controller ε} (b : BatchSettings) {s t : Session}
    {r : Except Overflow SessionOutcome} {w u : World ε} (hrun : (s.run c).run w = ((r, t), u)) :
    ((runSession c b s).run w).1 = r.map (t.report c.mode) := by
  rw [runSession, run_bind, hrun]
  obtain o | outcome := r
  · rfl
  · dsimp only
    by_cases htest : b.testMode = true
    · rw [if_pos htest, run_bind, run_bind]
      rfl
    · rw [if_neg htest, run_bind, run_bind]
      rfl

end HarnessRepair
