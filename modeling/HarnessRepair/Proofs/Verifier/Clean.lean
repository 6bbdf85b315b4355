import HarnessRepair.Proofs.Json.Record
import HarnessRepair.Proofs.Verifier.Reading

/-!
# Reports that are clean

A report without modeling errors should say that all properties hold.  It says so
where the result document has a list of the failed properties, for then all that are
on it are pointer relations.  A document without that list, though, is read as if the
list were there and empty.

## Main definitions

* `RawReport.ListsFailed`, `RawReport.OmitsFailed` — the two kinds of result document.
* `VerifierReport.IsClean` — a report without modeling errors.
* `FindingId.Collide` — two findings that cannot be told apart.

## Main results

* `failed?_eq_some_iff` — the failed properties, as the document has them.
* `isClean_of_relations` — a list of nothing but pointer relations makes a clean report.
* `readReport_clean` — **clean means listed and harmless, or not listed at all**.
* `not_listed_renamed` — the latter, at a document that names the list otherwise.
-/

namespace HarnessRepair

open Json

/-! ### The result document -/

namespace RawReport

/-- The sets of properties that a result document holds, by their verdict. -/
def HasSets (raw : RawReport) (sets : Value) : Prop :=
  ∃ text doc body, raw.result = some text ∧ parse? text = some doc ∧
    doc.HasField "viewer-result" body ∧ body.HasField "results" sets

/-- The result document lists the failed properties. -/
def ListsFailed (raw : RawReport) (failed : FailedProperties) : Prop :=
  ∃ sets, raw.HasSets sets ∧ sets.HasField "false" (.ofTexts failed)

/-- The result document has no list of failed properties. -/
def OmitsFailed (raw : RawReport) : Prop := ∃ sets, raw.HasSets sets ∧ sets.LacksField "false"

variable {raw : RawReport} {failed : FailedProperties}

/-- What is read out of the sets. -/
theorem exists_hasSets_iff {α : Type} {decode : Value → Option α} {a : α} :
    (raw.result.bind fun text =>
        (parse? text).bind (wrapped? "viewer-result" (wrapped? "results" decode))) = some a ↔
      ∃ sets, raw.HasSets sets ∧ decode sets = some a := by
  constructor
  · intro h
    obtain ⟨text, htext, h⟩ := Option.bind_eq_some_iff.1 h
    obtain ⟨doc, hdoc, h⟩ := Option.bind_eq_some_iff.1 h
    obtain ⟨body, hbody, h⟩ := wrapped?_eq_some_iff.1 h
    obtain ⟨sets, hsets, hdecode⟩ := wrapped?_eq_some_iff.1 h
    exact ⟨sets, ⟨text, doc, body, htext, hdoc, hbody, hsets⟩, hdecode⟩
  · rintro ⟨sets, ⟨text, doc, body, htext, hdoc, hbody, hsets⟩, hdecode⟩
    have hinner := wrapped?_eq_some_iff.2 ⟨sets, hsets, hdecode⟩
    have houter := wrapped?_eq_some_iff.2 ⟨body, hbody, hinner⟩
    exact Option.bind_eq_some_iff.2
      ⟨text, htext, Option.bind_eq_some_iff.2 ⟨doc, hdoc, houter⟩⟩

/-- A list that is there can be read. -/
theorem listsFailed_iff : raw.ListsFailed failed ↔
    (raw.result.bind fun text => (parse? text).bind (wrapped? "viewer-result"
      (wrapped? "results" (wrapped? "false" (Value.list? Value.text?))))) = some failed := by
  rw [exists_hasSets_iff]
  constructor
  · rintro ⟨sets, hsets, hlist⟩
    exact ⟨sets, hsets, wrapped?_eq_some_iff.2 ⟨_, hlist, list?_text?_eq_some_iff.2 rfl⟩⟩
  · rintro ⟨sets, hsets, hread⟩
    obtain ⟨list, hlist, htexts⟩ := wrapped?_eq_some_iff.1 hread
    rw [list?_text?_eq_some_iff.1 htexts] at hlist
    exact ⟨sets, hsets, hlist⟩

/-- The failed properties are the listed ones, and none if there is no list. -/
theorem failed?_eq_some_iff :
    raw.failed? = some failed ↔ (raw.OmitsFailed ∧ failed = []) ∨ raw.ListsFailed failed := by
  have hread : raw.failed? = some failed ↔ ∃ sets, raw.HasSets sets ∧
      ∃ r, sets.record? ["false"] = some r ∧
        r.orDefault "false" [] (Value.list? Value.text?) = some failed := by
    rw [failed?]
    unfold readFailed?
    simp only [Option.bind_eq_bind]
    rw [exists_hasSets_iff]
    simp only [Option.bind_eq_some_iff]
  rw [hread]
  simp only [orDefault_eq_some_iff]
  constructor
  · rintro ⟨sets, hsets, ⟨hlacks, hnone⟩ | ⟨list, hlist, htexts⟩⟩
    · exact Or.inl ⟨⟨sets, hsets, hlacks⟩, hnone.symm⟩
    · rw [list?_text?_eq_some_iff.1 htexts] at hlist
      exact Or.inr ⟨sets, hsets, hlist⟩
  · rintro (⟨⟨sets, hsets, hlacks⟩, hnone⟩ | ⟨sets, hsets, hlist⟩)
    · exact ⟨sets, hsets, Or.inl ⟨hlacks, hnone.symm⟩⟩
    · exact ⟨sets, hsets, Or.inr ⟨_, hlist, list?_text?_eq_some_iff.2 rfl⟩⟩

end RawReport

/-! ### Identities that collide -/

/-- Two keys that differ have the same identity. -/
def FindingId.Collide (key other : String) : Prop := key ≠ other ∧ ofKey key = ofKey other

/-- The key of a gap is never that of a modeling error. -/
theorem identityKey_ne (l m : Location) (message other : String) :
    identityKey .coverageGap l message ≠ identityKey .modelingError m other := by
  intro h
  -- the kind is what a key starts with
  have hhead := congrArg (fun s => s.toList.head?) h
  simp [identityKey, String.intercalate_cons_cons, FindingKind.name] at hhead

/-! ### Clean reports -/

/-- No modeling error is reported. -/
def VerifierReport.IsClean (report : VerifierReport) : Prop :=
  ∀ f ∈ report.findings, f.kind ≠ .modelingError

section

variable {harnessFile : String} {failed : FailedProperties} {raw : RawReport}
  {report : VerifierReport} {errors : List Finding}

/-- What is found of the failed properties are modeling errors. -/
theorem kind_of_mem_modelingErrors (h : modelingErrors harnessFile failed raw = .ok errors)
    {f : Finding} (hf : f ∈ errors) : f.kind = .modelingError := by
  by_cases hne : failed = []
  · subst hne
    obtain rfl := Except.ok.inj h
    cases hf
  · obtain ⟨properties, traces, located, -, -, -, rfl⟩ := (modelingErrors_eq_ok_iff hne).1 h
    obtain ⟨p, -, -, rfl⟩ := mem_findingsOf.1 hf
    rfl

/-- Pointer relations are left out. -/
theorem locate_relations {properties : PropertyTable}
    (h : ∀ name ∈ failed, ∃ entry, properties.lookup name = some entry ∧ entry.IsRelation) :
    locate properties failed = .ok [] := by
  induction failed with
  | nil => rfl
  | cons name failed ih =>
    obtain ⟨⟨entry, hentry, hrelation⟩, hrest⟩ := List.forall_mem_cons.1 h
    have hcontains : Text.contains entry.description "pointer relation" = true := hrelation
    rw [locate, hentry]
    dsimp only
    rw [if_pos hcontains, ih hrest]

/-- Pointer relations make no modeling errors. -/
theorem modelingErrors_relations (h : modelingErrors harnessFile failed raw = .ok errors)
    (hall : ∀ name ∈ failed, ∃ entry, raw.entry? name = some entry ∧ entry.IsRelation) :
    errors = [] := by
  by_cases hne : failed = []
  · subst hne
    exact (Except.ok.inj h).symm
  · obtain ⟨properties, traces, located, hproperties, -, hlocated, rfl⟩ :=
      (modelingErrors_eq_ok_iff hne).1 h
    have hlookup : ∀ name ∈ failed, ∃ entry,
        properties.lookup name = some entry ∧ entry.IsRelation := by
      simpa [RawReport.entry?, hproperties] using hall
    rw [locate_relations hlookup] at hlocated
    obtain rfl := Except.ok.inj hlocated
    rfl

/-- A report of nothing but pointer relations is clean. -/
theorem isClean_of_relations (h : readReport harnessFile raw = .ok report)
    (hfailed : raw.failed? = some failed)
    (hall : ∀ name ∈ failed, ∃ entry, raw.entry? name = some entry ∧ entry.IsRelation) :
    report.IsClean := by
  obtain ⟨failed', errors, gaps, hfailed', herrors, hgaps, hfindings⟩ :=
    exists_of_readReport_eq_ok h
  obtain rfl : failed = failed' := Option.some.inj (hfailed.symm.trans hfailed')
  obtain rfl := modelingErrors_relations herrors hall
  intro f hf
  rw [hfindings, List.nil_append] at hf
  rw [hgaps f (mem_of_mem_orderFindings hf)]
  exact FindingKind.noConfusion

/-- Without failed properties and without coverage there is nothing to report. -/
theorem readReport_nil (hfailed : raw.failed? = some []) (hcoverage : raw.coverage = none) :
    readReport harnessFile raw = .ok ⟨[], none⟩ :=
  readReport_eq_ok_iff.2
    ⟨[], [], hfailed, rfl, Or.inl ⟨hcoverage, by rw [orderFindings_nil]⟩⟩

/-- Whatever a clean report tells of a modeling error, it tells by a gap that cannot be told
apart from it. -/
theorem exists_collide (h : readReport harnessFile raw = .ok report) (hclean : report.IsClean)
    {l : Location} {message : String} (htells : Tells report.findings l message) :
    ∃ gap ∈ report.findings, FindingId.Collide
      (identityKey .coverageGap gap.location gap.message)
      (identityKey .modelingError l message) := by
  obtain ⟨f, hf, hid⟩ := htells
  have hgap : ∃ m length, f = .coverageGap m length := by
    obtain ⟨failed, errors, -, herrors, hreport⟩ := readReport_eq_ok_iff.1 h
    have herror : f ∉ errors := fun hmem =>
      hclean f hf (kind_of_mem_modelingErrors herrors hmem)
    obtain ⟨-, rfl⟩ | ⟨text, table, -, -, rfl⟩ := hreport
    · exact absurd (mem_of_mem_orderFindings hf) herror
    · rcases List.mem_append.1 (mem_of_mem_orderFindings hf) with hmem | hmem
      · exact absurd hmem herror
      · exact exists_of_mem_coverageGaps hmem
  obtain ⟨m, length, rfl⟩ := hgap
  exact ⟨_, hf, identityKey_ne _ _ _ _, hid⟩

/-- What a clean report says of the properties that have failed. -/
theorem relation_or_collide (h : readReport harnessFile raw = .ok report)
    (hclean : report.IsClean) (hfailed : raw.failed? = some failed) {name : String}
    (hname : name ∈ failed) : ∃ entry, raw.entry? name = some entry ∧
      (entry.IsRelation ∨ ∃ l, entry.location? = some l ∧ ∃ gap ∈ report.findings,
        ∃ message, FindingId.Collide (identityKey .coverageGap gap.location gap.message)
          (identityKey .modelingError l message)) := by
  obtain ⟨failed', errors, gaps, hfailed', herrors, -, hfindings⟩ := exists_of_readReport_eq_ok h
  obtain rfl : failed = failed' := Option.some.inj (hfailed.symm.trans hfailed')
  obtain ⟨entry, hentry, htold⟩ := tells_modelingErrors herrors hname
  refine ⟨entry, hentry, htold.imp id ?_⟩
  rintro ⟨l, hl, htold⟩
  -- the modeling error at the place is of the property, or of the null pointer that it is left
  -- out for
  have hany : ∃ message, Tells errors l message := by
    rcases htold with htells | ⟨-, -, other, -, null, -, -, -, htells⟩
    · exact ⟨_, htells⟩
    · exact ⟨_, htells⟩
  obtain ⟨message, htells⟩ := hany
  have hreported : Tells report.findings l message := by
    rw [hfindings]
    exact htells.orderFindings (List.subset_append_left _ _)
  obtain ⟨gap, hgap, hcollide⟩ := exists_collide h hclean hreported
  exact ⟨l, hl, gap, hgap, message, hcollide⟩

/-- **Clean means listed and harmless, or not listed at all.**  If a report without modeling
errors is read off a document that lists the failed properties, then each of them is known and a
pointer relation, unless a gap in the coverage happens to have the identity of the modeling error
at its place; and a list of pointer relations is read as clean.  But a document without the list
is read as clean as well, and no failure.  Of any other document there is no report. -/
theorem readReport_clean (harnessFile : String) (raw : RawReport) :
    (∀ report failed, readReport harnessFile raw = .ok report → report.IsClean →
      raw.ListsFailed failed → ∀ name ∈ failed, ∃ entry, raw.entry? name = some entry ∧
        (entry.IsRelation ∨ ∃ l, entry.location? = some l ∧ ∃ gap ∈ report.findings,
          ∃ message, FindingId.Collide (identityKey .coverageGap gap.location gap.message)
            (identityKey .modelingError l message))) ∧
    (∀ report failed, readReport harnessFile raw = .ok report → raw.ListsFailed failed →
      (∀ name ∈ failed, ∃ entry, raw.entry? name = some entry ∧ entry.IsRelation) →
      report.IsClean) ∧
    (raw.OmitsFailed → (∀ text ∈ raw.coverage, (readCoverage? text).isSome) →
      ∃ report, readReport harnessFile raw = .ok report ∧ report.IsClean) ∧
    ((∃ report, readReport harnessFile raw = .ok report) →
      raw.OmitsFailed ∨ ∃ failed, raw.ListsFailed failed) := by
  refine ⟨?_, ?_, ?_, ?_⟩
  · intro report failed h hclean hlists name hname
    have hfailed : raw.failed? = some failed := RawReport.failed?_eq_some_iff.2 (Or.inr hlists)
    exact relation_or_collide h hclean hfailed hname
  · intro report failed h hlists hall
    exact isClean_of_relations h (RawReport.failed?_eq_some_iff.2 (Or.inr hlists)) hall
  · intro homits hcoverage
    have hfailed : raw.failed? = some [] :=
      RawReport.failed?_eq_some_iff.2 (Or.inl ⟨homits, rfl⟩)
    obtain ⟨report, h⟩ : ∃ report, readReport harnessFile raw = .ok report :=
      exists_readReport_iff.2 ⟨[], hfailed, ⟨[], rfl⟩, hcoverage⟩
    exact ⟨report, h, isClean_of_relations h hfailed (List.forall_mem_nil _)⟩
  · rintro ⟨report, h⟩
    obtain ⟨failed, -, -, hfailed, -⟩ := exists_of_readReport_eq_ok h
    exact (RawReport.failed?_eq_some_iff.1 hfailed).imp And.left fun hlists => ⟨failed, hlists⟩

end

/-- The documents of a run whose result has no failed properties. -/
def cleanReport : RawReport where
  result := some "\x7b\"viewer-result\":\x7b\"results\":\x7b\"false\":[]\x7d\x7d\x7d"

theorem readReport_clean_cleanReport :
    readReport "harness.c" cleanReport = .ok ⟨[], none⟩ ∧ cleanReport.ListsFailed [] ∧
      VerifierReport.IsClean ⟨[], none⟩ := by
  have hread : readReport "harness.c" cleanReport = .ok ⟨[], none⟩ :=
    readReport_nil (by decide +kernel) rfl
  have hlists : cleanReport.ListsFailed [] := by
    rw [RawReport.listsFailed_iff]
    decide +kernel
  exact ⟨hread, hlists, (readReport_clean "harness.c" cleanReport).2.1 _ [] hread hlists
    (List.forall_mem_nil _)⟩

/-- The documents of a run whose result has its failed properties under another name. -/
def renamedReport : RawReport where
  result := some
    "\x7b\"viewer-result\":\x7b\"results\":\x7b\"failed\":[\"a\"]\x7d\x7d\x7d"

/-- A list under another name is no list, and still the report is clean. -/
theorem not_listed_renamed :
    ¬∀ (harnessFile : String) (raw : RawReport) (report : VerifierReport),
      readReport harnessFile raw = .ok report → report.IsClean →
        ∃ failed, raw.ListsFailed failed := by
  intro h
  have hread : readReport "harness.c" renamedReport = .ok ⟨[], none⟩ :=
    readReport_nil (by decide +kernel) rfl
  obtain ⟨failed, hlists⟩ := h "harness.c" renamedReport _ hread (List.forall_mem_nil _)
  have hnone : (renamedReport.result.bind fun text => (parse? text).bind (wrapped? "viewer-result"
      (wrapped? "results" (wrapped? "false" (Value.list? Value.text?))))) = none := by
    decide +kernel
  rw [RawReport.listsFailed_iff, hnone] at hlists
  cases hlists

end HarnessRepair
