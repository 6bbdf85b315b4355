import HarnessRepair.Batch.File
import HarnessRepair.Proofs.Batch.Conduct
import HarnessRepair.Proofs.Batch.Traceless
import HarnessRepair.Proofs.Json.Record
import HarnessRepair.Proofs.Patch.Stripping

/-!
# What a batch file lists

A batch file lists, for each harness, the lines to strip.  An entry is read only if each of
the items that it lists is a number or a text.  The numbers are the lines that are stripped,
and a text stands for no line, whatever it says.  The report on a job that gets past its setup
tells the lines that were stripped, whatever becomes of the session, and a job that does not
get past it is reported as blocked.

## Main definitions

* `SessionJob.GetsPastSetup` — the harness can be opened and its lines be stripped.
* `SessionReport.TellsStripped` — the report tells some lines of a text.
* `entryValues?` — the values that the entries of a document are read from.
* `listedItems?` — the lines to strip as an entry lists them.
* `LineSpec.IsWrittenAs` — how a line to strip is written.
* `numbersAmong` — the numbers of a list of items.

## Main results

* `runJob_removed`, `runJob_setupBlocked` — what the report says was stripped.
* `jobSteps_removed` — both, for a job among others.
* `exists_entryValues?` — the entries are read one by one.
* `listedItems?_of_ofJson?` — every item is read.
* `loadBatch_strips` — **what a batch file lists is what its jobs strip, and report.**
* `not_rejected_quotedLine` — a number in quotes is passed over.
-/

namespace HarnessRepair

open Json Text

section

open Steps

variable {ε α : Type}

/-! ### Programs that do anything -/

/-- Every program is one of some steps. -/
theorem Steps.within_true (p : Steps ε α) : p.Within (fun _ _ => True) fun _ => True := by
  induction p with
  | done a => trivial
  | act m next ih => exact ⟨trivial, fun w => ih _⟩

/-- By itself, a program ends as it does whatever its steps answer. -/
theorem Steps.Within.run_alone {P : ∀ β : Type, Run ε β → Prop} {Q : α → Prop} {p : Steps ε α}
    (h : p.Within P Q) (w : World ε) : Q (p.alone.run w).1 := by
  induction p generalizing w with
  | done a => exact h
  | act m next ih => exact ih _ (h.2 w) _

/-- A session may do anything. -/
theorem permits_true (c : Controller ε) (target : HarnessTarget) :
    Permits (fun _ _ => True) c target where
  inert _ _ _ := trivial
  pens _ _ _ := trivial
  verifies := trivial
  consults _ := trivial
  looks _ _ := trivial

/-! ### The report on a session -/

/-- **The report on a session tells what was stripped before it**, whatever the steps of the
session answer. -/
theorem within_sessionSteps_removed (c : Controller ε) (b : BatchSettings) {s : Session}
    (hpath : s.store.path = s.target.harnessFile) (hfree : s.store.inFlight = none)
    (hempty : s.ledger = []) :
    (sessionSteps c b s).Within (fun _ _ => True) fun r =>
      ∀ report, r = .ok report → report.preconditionsRemoved = s.removed := by
  rw [sessionSteps]
  refine .bind (Session.within_runSteps (permits_true c s.target) hpath hfree hempty)
    fun r hr => ?_
  obtain ⟨o | outcome, t⟩ := r
  · refine .bind (within_true _) fun _ _ => .pure fun report h => ?_
    cases h
  · have hclose : ∀ last : Session, (do
        last.store.closeSteps
        return .ok (t.report c.mode outcome) :
          Steps ε (Except Overflow SessionReport)).Within (fun _ _ => True)
        fun r => ∀ report, r = .ok report → report.preconditionsRemoved = s.removed := by
      refine fun last => .bind (within_true _) fun _ _ => .pure fun report h => ?_
      rw [← Except.ok.inj h]
      exact hr.removed_eq
    dsimp only
    rw [endSteps]
    split
    · exact .bind (within_true _) fun last _ => hclose last
    · exact hclose t

theorem runSession_removed {c : Controller ε} {b : BatchSettings} {s : Session} {w : World ε}
    (hpath : s.store.path = s.target.harnessFile) (hfree : s.store.inFlight = none)
    (hempty : s.ledger = []) {report : SessionReport}
    (h : ((runSession c b s).run w).1 = .ok report) :
    report.preconditionsRemoved = s.removed := by
  rw [← alone_sessionSteps] at h
  exact (within_sessionSteps_removed c b hpath hfree hempty).run_alone w report h

/-! ### Setting up a job -/

/-- The harness of the job can be opened, and its lines be stripped. -/
def SessionJob.GetsPastSetup (job : SessionJob) (b : BatchSettings) (w : World ε) : Prop :=
  ∃ store removed stripped u,
    (PatchStore.openFile job.target.harnessFile b.policy).run w = (.ok store, w) ∧
      (stripFor job store).run w = ((.ok removed, stripped), u)

section

variable {job : SessionJob} {b : BatchSettings} {w : World ε}

/-- The numbers are numbers of lines, and the report tells the trimmed texts of these lines as
those that were stripped, in order, each once. -/
structure SessionReport.TellsStripped (r : SessionReport) (listed : List Nat)
    (original : String) : Prop where
  inRange : ∀ n ∈ listed, 1 ≤ n ∧ n ≤ (terminated original.toList).length
  removed_eq : r.preconditionsRemoved =
    (linesWhere (· ∈ listed) (terminated original.toList)).map fun l => String.ofList (trimChars l)

/-- What is stripped for a job are the lines that it lists. -/
theorem run_stripFor_ok {path text : String} {policy : RestorePolicy} {removed : List String}
    {stripped : PatchStore} {u : World ε}
    (h : (stripFor job (.ofText path text policy)).run w = ((.ok removed, stripped), u)) :
    (∀ n ∈ job.linesToRemove, 1 ≤ n ∧ n ≤ (terminated text.toList).length) ∧
      removed = (linesWhere (· ∈ job.linesToRemove) (terminated text.toList)).map
        (fun l => String.ofList (trimChars l)) ∧
      stripped.path = path ∧ stripped.inFlight = none := by
  rw [stripFor] at h
  by_cases hnone : job.linesToRemove.isEmpty = true
  · rw [if_pos hnone] at h
    obtain ⟨⟨rfl, rfl⟩, -⟩ : ([] = removed ∧ PatchStore.ofText path text policy = stripped) ∧
        w = u := by
      cases h
      exact ⟨⟨rfl, rfl⟩, rfl⟩
    rw [List.isEmpty_iff.1 hnone]
    refine ⟨List.forall_mem_nil _, ?_, rfl, rfl⟩
    rw [linesWhere, List.filter_eq_nil_iff.2 (by simp)]
    rfl
  · rw [if_neg hnone, run_bind] at h
    cases hrun : (PatchStore.stripLines (.ofText path text policy) job.linesToRemove).run w with
    | mk r v =>
      obtain ⟨e | lines, t⟩ := r
      · rw [hrun] at h
        cases h
      · obtain ⟨hin, rfl, hlines, -⟩ := run_stripLines_ok rfl rfl hrun
        rw [hrun] at h
        cases h
        exact ⟨hin, hlines, rfl, rfl⟩

/-- A harness that is opened holds the text that is read. -/
theorem exists_of_run_openFile {path : String} {policy : RestorePolicy} {store : PatchStore}
    {u : World ε} (h : (PatchStore.openFile path policy).run w = (.ok store, u)) :
    ∃ original, w.files.readText path = .ok original ∧ store = .ofText path original policy := by
  rw [PatchStore.run_openFile] at h
  cases htext : w.files.readText path with
  | error e =>
    rw [htext] at h
    cases h
  | ok original =>
    rw [htext] at h
    cases h
    exact ⟨original, rfl, rfl⟩

/-- **When a job gets past its setup**: its harness is a text, and the lines that it lists are
lines of that text and can be taken out of the file. -/
theorem SessionJob.getsPastSetup_iff :
    job.GetsPastSetup b w ↔ ∃ original, w.files.readText job.target.harnessFile = .ok original ∧
      (job.linesToRemove = [] ∨
        (∀ n ∈ job.linesToRemove, 1 ≤ n ∧ n ≤ (terminated original.toList).length) ∧
          ∃ place, w.files.writable job.target.harnessFile = .ok place) := by
  constructor
  · rintro ⟨store, removed, stripped, u, hopen, hstrip⟩
    obtain ⟨original, htext, rfl⟩ := exists_of_run_openFile hopen
    refine ⟨original, htext, ?_⟩
    by_cases hnone : job.linesToRemove = []
    · exact .inl hnone
    · refine .inr (run_stripLines_ok_iff (s := .ofText job.target.harnessFile original b.policy)
        rfl rfl |>.1 ?_)
      rw [stripFor, if_neg (mt List.isEmpty_iff.1 hnone), run_bind] at hstrip
      cases hrun : (PatchStore.stripLines (.ofText job.target.harnessFile original b.policy)
          job.linesToRemove).run w with
      | mk r v =>
        obtain ⟨e | lines, t⟩ := r
        · rw [hrun] at hstrip
          cases hstrip
        · exact ⟨lines, t, v, rfl⟩
  · rintro ⟨original, htext, hlisted⟩
    have hopen : (PatchStore.openFile job.target.harnessFile b.policy).run w =
        (.ok (.ofText job.target.harnessFile original b.policy), w) := by
      rw [PatchStore.run_openFile, htext]
    by_cases hnone : job.linesToRemove = []
    · refine ⟨_, [], .ofText job.target.harnessFile original b.policy, w, hopen, ?_⟩
      rw [stripFor, if_pos (List.isEmpty_iff.2 hnone)]
      rfl
    · obtain ⟨removed, stripped, u, hstrip⟩ :=
        (run_stripLines_ok_iff (s := .ofText job.target.harnessFile original b.policy) rfl rfl).2
          (hlisted.resolve_left hnone)
      have hrun : ∃ v, (stripFor job (.ofText job.target.harnessFile original b.policy)).run w =
          ((.ok removed, stripped), v) := by
        rw [stripFor, if_neg (mt List.isEmpty_iff.1 hnone), run_bind, hstrip]
        exact ⟨_, rfl⟩
      obtain ⟨v, hrun⟩ := hrun
      exact ⟨_, removed, stripped, v, hopen, hrun⟩


/-- **The report on a job that gets past its setup tells the lines that the job lists**, of the
harness as it was opened. -/
theorem runJob_removed (c : Controller ε) (h : job.GetsPastSetup b w) :
    ∃ original, w.files.readText job.target.harnessFile = .ok original ∧
      ∀ report, ((runJob c b job).run w).1 = .ok report →
        report.TellsStripped job.linesToRemove original := by
  obtain ⟨store, removed, stripped, u, hopen, hstrip⟩ := h
  obtain ⟨original, htext, rfl⟩ := exists_of_run_openFile hopen
  obtain ⟨hin, hremoved, hpath, hfree⟩ := run_stripFor_ok hstrip
  refine ⟨original, htext, fun report hreport => ⟨hin, ?_⟩⟩
  rw [runJob, run_bind, hopen] at hreport
  dsimp only at hreport
  rw [run_bind, hstrip] at hreport
  exact (runSession_removed hpath hfree rfl hreport).trans hremoved

/-- **A job that does not get past its setup is reported as blocked.** -/
theorem runJob_setupBlocked (c : Controller ε) (h : ¬ job.GetsPastSetup b w) :
    ∃ reason, ((runJob c b job).run w).1 =
      .ok (.setupBlocked job.target.name job.target.harnessFile c.mode reason) := by
  rw [runJob, run_bind]
  cases hopen : (PatchStore.openFile job.target.harnessFile b.policy).run w with
  | mk r v =>
    obtain e | store := r
    · exact ⟨e.message, rfl⟩
    · obtain rfl : v = w := by
        rw [PatchStore.run_openFile] at hopen
        exact (congrArg Prod.snd hopen).symm
      dsimp only
      rw [run_bind]
      cases hstrip : (stripFor job store).run v with
      | mk r u =>
        obtain ⟨e | removed, stripped⟩ := r
        · exact ⟨e.message, rfl⟩
        · exact absurd ⟨store, removed, stripped, u, hopen, hstrip⟩ h

/-- What is ensured of every answer is ensured among any others. -/
theorem Steps.Within.ensures_any {rely : World ε → World ε → Prop} {Q : α → Prop} {p : Steps ε α}
    (h : p.Within (fun _ _ => True) Q) :
    p.Ensures rely (fun _ _ => True) (fun a _ => Q a) w := by
  have hends : p.Ensures rely (fun _ _ => True) (fun a _ => Q a ∧ True) w :=
    h.ensures (fun _ _ _ _ => trivial) (fun _ _ _ _ _ => ⟨trivial, trivial⟩) trivial
  exact hends.imp fun _ _ hend => hend.1

/-- **Among others that leave the text of its harness alone**, a job is reported as blocked, or
with the lines that it lists. -/
theorem jobSteps_removed (c : Controller ε) (b : BatchSettings) (job : SessionJob) (w : World ε) :
    (jobSteps c b job).Ensures
      (fun u u' => u'.files.readText job.target.harnessFile =
        u.files.readText job.target.harnessFile)
      (fun _ _ => True)
      (fun r _ =>
        (∃ reason, r =
          .ok (.setupBlocked job.target.name job.target.harnessFile c.mode reason)) ∨
        ∃ original, w.files.readText job.target.harnessFile = .ok original ∧
          ∀ report, r = .ok report → report.TellsStripped job.linesToRemove original) w := by
  rw [jobSteps]
  -- opening and stripping are one step each, and what they see of the harness is the same
  refine .step_bind fun v hv => ⟨trivial, ?_⟩
  cases hopen : (PatchStore.openFile job.target.harnessFile b.policy).run v with
  | mk r v' =>
    obtain e | store := r
    · exact Within.ensures_any (.bind (within_true _) fun _ _ => .pure (.inl ⟨e.message, rfl⟩))
    · obtain ⟨original, htext, rfl⟩ := exists_of_run_openFile hopen
      refine .step_bind fun u _ => ⟨trivial, ?_⟩
      cases hstrip : (stripFor job (.ofText job.target.harnessFile original b.policy)).run u with
      | mk r u' =>
        obtain ⟨e | removed, stripped⟩ := r
        · exact Within.ensures_any (.bind (within_true _) fun _ _ => .pure (.inl ⟨e.message, rfl⟩))
        · obtain ⟨hin, hremoved, hpath, hfree⟩ := run_stripFor_ok hstrip
          refine ((within_sessionSteps_removed c b hpath hfree rfl).ensures_any).imp ?_
          rintro r - htold
          exact .inr ⟨original, hv.symm.trans htext, fun report hreport =>
            ⟨hin, (htold report hreport).trans hremoved⟩⟩

end

end

/-! ### Items -/

/-- How a line to strip is written: as an unsigned integer of 64 bits, or as a text. -/
inductive LineSpec.IsWrittenAs : LineSpec → Value → Prop where
  | line {n : Number} (integral : n.integral = true) (unsigned : n.negative = false)
      (bounded : n.digits < wordLimit) : IsWrittenAs (.line n.digits) (.number n)
  | placeholder (s : String) : IsWrittenAs (.placeholder s) (.ofText s)

/-- The numbers among some items. -/
def numbersAmong (items : List Value) : List Nat := items.filterMap Value.word?

namespace LineSpec

variable {l : LineSpec} {v : Value}

/-- Nothing else than a number or a text is read. -/
theorem isWrittenAs_of_ofJson? (h : ofJson? v = some l) : l.IsWrittenAs v := by
  cases v with
  | string s =>
    obtain ⟨text, rfl, rfl⟩ := Option.map_eq_some_iff.1 h
    exact .placeholder text
  | number n =>
    obtain ⟨m, hm, rfl⟩ := Option.map_eq_some_iff.1 h
    rw [Value.word?, Value.nat?] at hm
    split at hm
    · next hword =>
      obtain rfl := Option.some.inj hm
      simp only [Bool.and_eq_true, Bool.not_eq_true', decide_eq_true_eq] at hword
      exact .line hword.1.1 hword.1.2 hword.2
    · cases hm
  | _ => cases h

theorem IsWrittenAs.word?_eq (h : l.IsWrittenAs v) : v.word? = l.line? := by
  cases h with
  | line integral unsigned bounded =>
    rw [Value.word?, Value.nat?, integral, unsigned, decide_eq_true bounded]
    rfl
  | placeholder s => rfl

/-- The lines to strip are the numbers among the items. -/
theorem filterMap_line? {ls : List LineSpec} {items : List Value}
    (h : List.Forall₂ IsWrittenAs ls items) : ls.filterMap line? = numbersAmong items := by
  rw [numbersAmong]
  induction h with
  | nil => rfl
  | cons hl _ ih => rw [List.filterMap_cons, List.filterMap_cons, hl.word?_eq, ih]

end LineSpec

/-- Only which numbers are meant matters for which lines are. -/
theorem linesWhere_congr {p q : Nat → Prop} [DecidablePred p] [DecidablePred q]
    (h : ∀ n, p n ↔ q n) (lines : List Line) : linesWhere p lines = linesWhere q lines := by
  simp only [linesWhere, h]

/-! ### Entries -/

/-- The lines to strip as an entry lists them; an entry that does not say lists none. -/
def listedItems? (v : Value) : Option (List Value) :=
  (v.record? ["name", "harness", "target_function", "root_dir", "target_file",
    "preconditions_lines_to_remove"]).bind fun r =>
      r.orDefault "preconditions_lines_to_remove" [] (Value.list? some)

/-- **Every item that an entry lists is read**, none is left out. -/
theorem listedItems?_of_ofJson? {v : Value} {e : BatchEntry} (h : BatchEntry.ofJson? v = some e) :
    ∃ items, listedItems? v = some items ∧
      List.Forall₂ LineSpec.IsWrittenAs e.linesToRemove items := by
  simp only [BatchEntry.ofJson?, Option.bind_eq_bind, Option.bind_eq_some_iff] at h
  obtain ⟨r, hread, name, -, harness, -, function, -, root, -, file, -, ls, hls, he⟩ := h
  obtain rfl := Option.some.inj he
  rw [listedItems?, hread, Option.bind_some]
  rw [Record.orDefault] at hls ⊢
  cases hfind : r.find? "preconditions_lines_to_remove" with
  | none =>
    rw [hfind] at hls
    obtain rfl := Option.some.inj hls
    exact ⟨[], rfl, .nil⟩
  | some listed =>
    rw [hfind] at hls
    cases listed with
    | array items =>
      refine ⟨items, mapM_eq_some_iff.2 (List.forall₂_same.2 fun _ _ => rfl), ?_⟩
      exact (mapM_eq_some_iff.1 hls).flip.imp fun _ _ hread => LineSpec.isWrittenAs_of_ofJson? hread
    | _ => cases hls

/-! ### Documents -/

/-- The value that a node of a YAML document gives an entry. -/
def entryOfYaml (n : Yaml.Node) : Yaml.Decoding Value := do
  let fields ← (← Yaml.membersOf n).mapM fun (name, field) =>
    return (name, ← BatchEntry.fieldOfYaml name field)
  return .ofObject fields

/-- The values that the entries of a YAML document are read from. -/
def entriesOfYaml (n : Yaml.Node) : Yaml.Decoding (List Value) := do
  match (← Yaml.membersOf n).filter fun (name, _) => name == "harnesses" with
  | [(_, harnesses)] => (← Yaml.itemsOf harnesses).mapM entryOfYaml
  | _ => failure

/-- The values that the entries of a JSON document are read from. -/
def entriesOfJson? (v : Value) : Option (List Value) :=
  (v.record? ["harnesses"]).bind fun r => r.required "harnesses" (Value.list? some)

/-- The values that the entries of a batch file are read from. -/
def entryValues? (path text : String) : Option (List Value) :=
  if isJsonPath path then (Json.parse? text).bind entriesOfJson?
  else (Yaml.parse? text).bind fun d => d.decode? (entriesOfYaml d.root)

theorem exists_entriesOfJson? {v : Value} {entries : List BatchEntry}
    (h : batchOfJson? v = some entries) :
    ∃ values, entriesOfJson? v = some values ∧
      List.Forall₂ (fun v e => BatchEntry.ofJson? v = some e) values entries := by
  rw [batchOfJson?, Option.bind_eq_bind, Option.bind_eq_some_iff] at h
  obtain ⟨r, hread, h⟩ := h
  obtain ⟨listed, hfind, h⟩ := Option.bind_eq_some_iff.1 h
  cases listed with
  | array items =>
    refine ⟨items, ?_, mapM_eq_some_iff.1 h⟩
    rw [entriesOfJson?, hread, Option.bind_some, Record.required, hfind, Option.bind_some]
    exact mapM_eq_some_iff.2 (List.forall₂_same.2 fun _ _ => rfl)
  | _ => cases h

/-- One computation on a document after another. -/
theorem Yaml.bind_eq_some_iff {α β : Type} {a : Yaml.Decoding α} {f : α → Yaml.Decoding β}
    {d : Yaml.Document} {t t' : Nat} {b : β} :
    (a >>= f) d t = some (b, t') ↔ ∃ x u, a d t = some (x, u) ∧ f x d u = some (b, t') := by
  refine Option.bind_eq_some_iff.trans ⟨?_, ?_⟩
  · rintro ⟨⟨x, u⟩, ha, hf⟩
    exact ⟨x, u, ha, hf⟩
  · rintro ⟨x, u, ha, hf⟩
    exact ⟨⟨x, u⟩, ha, hf⟩

/-- What a computation is given as an option, it has without a look at the document. -/
theorem Yaml.lift_eq_some_iff {α : Type} {x : Option α} {d : Yaml.Document} {t t' : Nat} {a : α} :
    (liftM x : Yaml.Decoding α) d t = some (a, t') ↔ x = some a ∧ t = t' := by
  cases x with
  | none => exact iff_of_false (fun h => nomatch h) fun h => nomatch h.1
  | some b =>
    constructor
    · intro h
      cases h
      exact ⟨rfl, rfl⟩
    · rintro ⟨hb, rfl⟩
      obtain rfl := Option.some.inj hb
      rfl

/-- The entry that a node describes is read from the value that it gives. -/
theorem exists_entryOfYaml {n : Yaml.Node} {d : Yaml.Document} {t t' : Nat} {e : BatchEntry}
    (h : BatchEntry.ofYaml n d t = some (e, t')) :
    ∃ v, entryOfYaml n d t = some (v, t') ∧ BatchEntry.ofJson? v = some e := by
  rw [BatchEntry.ofYaml] at h
  obtain ⟨members, u, hmembers, h⟩ := Yaml.bind_eq_some_iff.1 h
  obtain ⟨fields, u', hfields, h⟩ := Yaml.bind_eq_some_iff.1 h
  obtain ⟨hread, rfl⟩ := Yaml.lift_eq_some_iff.1 h
  refine ⟨.ofObject fields, ?_, hread⟩
  rw [entryOfYaml]
  exact Yaml.bind_eq_some_iff.2 ⟨members, u, hmembers,
    Yaml.bind_eq_some_iff.2 ⟨fields, u', hfields, rfl⟩⟩

/-- So are the entries of several nodes. -/
theorem exists_mapM_entryOfYaml {nodes : List Yaml.Node} {d : Yaml.Document} {t t' : Nat}
    {entries : List BatchEntry} (h : nodes.mapM BatchEntry.ofYaml d t = some (entries, t')) :
    ∃ values, nodes.mapM entryOfYaml d t = some (values, t') ∧
      List.Forall₂ (fun v e => BatchEntry.ofJson? v = some e) values entries := by
  induction nodes generalizing t entries with
  | nil =>
    rw [List.mapM_nil] at h
    cases h
    exact ⟨[], rfl, .nil⟩
  | cons n nodes ih =>
    rw [List.mapM_cons] at h
    obtain ⟨e, u, hfirst, h⟩ := Yaml.bind_eq_some_iff.1 h
    obtain ⟨rest, u', hrest, h⟩ := Yaml.bind_eq_some_iff.1 h
    cases h
    obtain ⟨v, hv, hread⟩ := exists_entryOfYaml hfirst
    obtain ⟨values, hvalues, hreads⟩ := ih hrest
    refine ⟨v :: values, ?_, .cons hread hreads⟩
    rw [List.mapM_cons]
    exact Yaml.bind_eq_some_iff.2 ⟨v, u, hv, Yaml.bind_eq_some_iff.2 ⟨values, _, hvalues, rfl⟩⟩

theorem exists_entriesOfYaml {n : Yaml.Node} {d : Yaml.Document} {t t' : Nat}
    {entries : List BatchEntry} (h : batchOfYaml n d t = some (entries, t')) :
    ∃ values, entriesOfYaml n d t = some (values, t') ∧
      List.Forall₂ (fun v e => BatchEntry.ofJson? v = some e) values entries := by
  rw [batchOfYaml] at h
  obtain ⟨members, u, hmembers, h⟩ := Yaml.bind_eq_some_iff.1 h
  generalize hlisted : (members.filter fun (name, _) => name == "harnesses") = listed at h
  match listed, h with
  | [(_, harnesses)], h =>
    obtain ⟨nodes, u', hnodes, h⟩ := Yaml.bind_eq_some_iff.1 h
    obtain ⟨values, hvalues, hreads⟩ := exists_mapM_entryOfYaml h
    refine ⟨values, ?_, hreads⟩
    rw [entriesOfYaml]
    refine Yaml.bind_eq_some_iff.2 ⟨members, u, hmembers, ?_⟩
    rw [hlisted]
    exact Yaml.bind_eq_some_iff.2 ⟨nodes, u', hnodes, hvalues⟩
  | [], h => cases h
  | _ :: _ :: _, h => cases h

/-- **The entries of a batch file are read one by one**, each from what the file gives for it. -/
theorem exists_entryValues? {path text : String} {entries : List BatchEntry}
    (h : readBatch? path text = some entries) :
    ∃ values, entryValues? path text = some values ∧
      List.Forall₂ (fun v e => BatchEntry.ofJson? v = some e) values entries := by
  rw [readBatch?] at h
  rw [entryValues?]
  split at h
  · next hjson =>
    obtain ⟨v, hparse, h⟩ := Option.bind_eq_some_iff.1 h
    obtain ⟨values, hvalues, hreads⟩ := exists_entriesOfJson? h
    exact ⟨values, by rw [if_pos hjson, hparse, Option.bind_some, hvalues], hreads⟩
  · next hyaml =>
    obtain ⟨d, hparse, h⟩ := Option.bind_eq_some_iff.1 h
    obtain ⟨⟨entries', t⟩, hrun, rfl⟩ := Option.map_eq_some_iff.1 h
    obtain ⟨values, hvalues, hreads⟩ := exists_entriesOfYaml hrun
    refine ⟨values, ?_, hreads⟩
    rw [if_neg hyaml, hparse, Option.bind_some]
    exact Option.map_eq_some_iff.2 ⟨(values, t), hvalues, rfl⟩

/-! ### Batch files -/

/-- A batch file that is accepted is read. -/
theorem exists_of_loadBatch {fs : FileSystem} {path : String} {entries : List BatchEntry}
    (h : loadBatch fs path = .ok entries) :
    ∃ text, fs.readText path = .ok text ∧ readBatch? path text = some entries := by
  rw [loadBatch] at h
  cases htext : fs.readText path with
  | error e =>
    rw [htext] at h
    cases h
  | ok text =>
    rw [htext] at h
    dsimp only at h
    cases hread : readBatch? path text with
    | none =>
      rw [hread] at h
      cases h
    | some read =>
      rw [hread] at h
      dsimp only at h
      cases hcheck : checkBatch fs read with
      | error e =>
        rw [hcheck] at h
        cases h
      | ok _ =>
        rw [hcheck] at h
        obtain rfl : read = entries := Except.ok.inj h
        exact ⟨text, rfl, hread⟩

/-- The job of an entry strips the numbers that the entry lists. -/
theorem mem_linesToRemove_job {e : BatchEntry} {items : List Value}
    (h : List.Forall₂ LineSpec.IsWrittenAs e.linesToRemove items) {n : Nat} :
    n ∈ e.job.linesToRemove ↔ n ∈ numbersAmong items := by
  rw [← LineSpec.filterMap_line? h]
  exact mem_ascending

/-- A report that tells some lines tells all lists with the same numbers. -/
theorem SessionReport.TellsStripped.congr {r : SessionReport} {ms ns : List Nat}
    {original : String} (h : r.TellsStripped ms original) (hsame : ∀ n, n ∈ ms ↔ n ∈ ns) :
    r.TellsStripped ns original where
  inRange n hn := h.inRange n ((hsame n).2 hn)
  removed_eq := by rw [h.removed_eq, linesWhere_congr hsame]

/-- **What a batch file lists is what its jobs strip, and report.**  Each item that an entry of
an accepted batch file lists is an unsigned integer of 64 bits or a text.  Where the job of the
entry gets past its setup, all these numbers are numbers of lines of the harness, and the report
tells the trimmed texts of just these lines as they were at the start, in order, each once;
where it does not, the job is reported as blocked.  One or the other is told as well when
others work side by side with the job and leave the text of its harness alone. -/
theorem loadBatch_strips {fs : FileSystem} {path : String} {entries : List BatchEntry}
    (h : loadBatch fs path = .ok entries) :
    ∃ text values, fs.readText path = .ok text ∧ entryValues? path text = some values ∧
      List.Forall₂ (fun v e => ∃ items, listedItems? v = some items ∧
        List.Forall₂ LineSpec.IsWrittenAs e.linesToRemove items ∧
        ∀ (ε : Type) (c : Controller ε) (b : BatchSettings) (w : World ε),
          (e.job.GetsPastSetup b w → ∃ original, w.files.readText e.harness = .ok original ∧
            ∀ report, ((runJob c b e.job).run w).1 = .ok report →
              report.TellsStripped (numbersAmong items) original) ∧
          (¬ e.job.GetsPastSetup b w → ∃ reason,
            ((runJob c b e.job).run w).1 = .ok (.setupBlocked e.name e.harness c.mode reason)) ∧
          (jobSteps c b e.job).Ensures
            (fun u u' => u'.files.readText e.harness = u.files.readText e.harness)
            (fun _ _ => True)
            (fun r _ =>
              (∃ reason, r = .ok (.setupBlocked e.name e.harness c.mode reason)) ∨
              ∃ original, w.files.readText e.harness = .ok original ∧
                ∀ report, r = .ok report →
                  report.TellsStripped (numbersAmong items) original) w)
        values entries := by
  obtain ⟨text, htext, hread⟩ := exists_of_loadBatch h
  obtain ⟨values, hvalues, hreads⟩ := exists_entryValues? hread
  refine ⟨text, values, htext, hvalues, hreads.imp fun v e hentry => ?_⟩
  obtain ⟨items, hitems, hwritten⟩ := listedItems?_of_ofJson? hentry
  have hsame : ∀ n, n ∈ e.job.linesToRemove ↔ n ∈ numbersAmong items :=
    fun n => mem_linesToRemove_job hwritten
  refine ⟨items, hitems, hwritten, fun ε c b w =>
    ⟨fun hsetup => ?_, runJob_setupBlocked c, (jobSteps_removed c b e.job w).imp ?_⟩⟩
  · obtain ⟨original, hopen, htells⟩ := runJob_removed c hsetup
    exact ⟨original, hopen, fun report hreport => (htells report hreport).congr hsame⟩
  · rintro r - (hblocked | ⟨original, hopen, htells⟩)
    · exact .inl hblocked
    · exact .inr ⟨original, hopen, fun report hreport => (htells report hreport).congr hsame⟩

/-- A directory with the small harness, and a batch that lists these items for it. -/
def batchFiles (items : String) : FileSystem :=
  smallWorld.files.put ["batch.json"] (.file (.text
    ("\x7b\"harnesses\":[\x7b\"name\":\"a\",\"harness\":\"harness.c\",\"target_function\":\"f\"," ++
      "\"preconditions_lines_to_remove\":[" ++ items ++ "]\x7d]\x7d")))

/-- The entry of that batch. -/
def smallEntry (lines : List LineSpec) : BatchEntry :=
  { name := "a", harness := "harness.c", targetFunction := "f", linesToRemove := lines }

theorem loadBatch_strips_smallEntry :
    let lines : List LineSpec := [.line 3, .placeholder "TBD", .line 2, .line 3]
    let job := (smallEntry lines).job
    loadBatch (batchFiles "3,\"TBD\",2,3") "batch.json" = .ok [smallEntry lines] ∧
      job.GetsPastSetup smallSettings smallWorld ∧
      ∃ report u, (runJob idleController smallSettings job).run smallWorld = (.ok report, u) ∧
        report.preconditionsRemoved = ["int n;", "assume(n);"] := by
  intro lines job
  have hload : loadBatch (batchFiles "3,\"TBD\",2,3") "batch.json" = .ok [smallEntry lines] := by
    decide +kernel
  have hsetup : job.GetsPastSetup smallSettings smallWorld :=
    SessionJob.getsPastSetup_iff.2 ⟨smallHarness, holds_smallHarness,
      .inr ⟨by decide, holds_smallHarness.exists_writable⟩⟩
  have hdone : ((runJob idleController smallSettings job).run smallWorld).1.isOk = true := by
    decide +kernel
  obtain ⟨report, u, hrun⟩ := exists_of_isOk hdone
  obtain ⟨text, values, -, -, hentries⟩ := loadBatch_strips hload
  obtain - | ⟨⟨items, -, hwritten, hjob⟩, -⟩ := hentries
  obtain ⟨hstrips, -, -⟩ := hjob _ idleController smallSettings smallWorld
  obtain ⟨original, hopen, htells⟩ := hstrips hsetup
  obtain rfl : smallHarness = original := Except.ok.inj (holds_smallHarness.symm.trans hopen)
  refine ⟨hload, hsetup, report, u, hrun,
    (htells report (congrArg Prod.fst hrun)).removed_eq.trans ?_⟩
  rw [← LineSpec.filterMap_line? hwritten]
  decide

/-- A number in quotes is accepted as a text that stands for no line. -/
theorem not_rejected_quotedLine :
    ¬∀ (fs : FileSystem) (path : String) (entries : List BatchEntry),
      loadBatch fs path = .ok entries →
        ∀ e ∈ entries, ∀ s, .placeholder s ∈ e.linesToRemove → s = "TBD" := by
  intro h
  have hload : loadBatch (batchFiles "\"3\"") "batch.json" =
      .ok [smallEntry [.placeholder "3"]] := by
    decide +kernel
  exact absurd (h _ _ _ hload _ List.mem_cons_self "3" List.mem_cons_self) (by decide)

end HarnessRepair
