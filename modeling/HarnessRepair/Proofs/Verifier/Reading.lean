import HarnessRepair.Verifier.Reading
import Mathlib.Data.List.Nodup
import Mathlib.Data.Prod.Lex
import Mathlib.Data.String.Basic

/-!
# What a report tells of the failed properties

A report is put together from four documents.  Two rules leave failed properties out,
and findings of the same identity are told once; still no failed property gets lost,
for whatever is left out is either no matter of the harness or told by another finding.

## Main definitions

* `RawReport.failed?`, `RawReport.entry?` — what the documents say of the properties.
* `Finding.place` — what findings are sorted by.
* `Tells` — a finding of a list tells of a property.

## Main results

* `locate_eq_ok`, `exists_locate_iff` — which properties are located, and when all are.
* `exists_mem_findingsOf` — what is redundant is told by another finding.
* `nodup_orderFindings`, `sorted_orderFindings` — the findings are told in order, once.
* `readReport_tells` — **no failed property disappears.**
-/

namespace HarnessRepair

open Text

/-! ### The documents -/

namespace RawReport

/-- The failed properties, if the document can be read. -/
def failed? (raw : RawReport) : Option FailedProperties := raw.result.bind readFailed?

/-- The known properties, if the document can be read. -/
def properties? (raw : RawReport) : Option PropertyTable := raw.property.bind readProperties?

/-- What is known of a property. -/
def entry? (raw : RawReport) (name : String) : Option PropertyEntry :=
  raw.properties?.bind fun properties => properties.lookup name

end RawReport

namespace PropertyEntry

/-- Whether a property is no matter of the harness. -/
def IsRelation (e : PropertyEntry) : Prop := contains e.description "pointer relation" = true

/-- The place of a property, if it has a file and a line that can be read. -/
def location? (e : PropertyEntry) : Option Location := e.position.bind SourcePosition.location?

/-- What a finding says of a property. -/
def message (e : PropertyEntry) : String := trim e.description

theorem isSome_location?_iff (e : PropertyEntry) :
    e.location?.isSome ↔ ∃ p file line, e.position = some p ∧ p.file = some file ∧
      p.line.bind LineText.value? = some line := by
  obtain ⟨description, position⟩ := e
  cases position with
  | none => simp [location?]
  | some p =>
    obtain ⟨file, function, line⟩ := p
    cases file with
    | none => simp [location?, SourcePosition.location?]
    | some file =>
      cases line with
      | none => simp [location?, SourcePosition.location?]
      | some line =>
        cases hline : line.value? with
        | none => simp [location?, SourcePosition.location?, hline]
        | some n => simp [location?, SourcePosition.location?, hline]

end PropertyEntry

/-! ### Failed properties -/

section

variable {properties : PropertyTable} {failed : FailedProperties}
  {located : List LocatedProperty}

/-- A located property is a failed one with what is known of it. -/
structure LocatedProperty.Of (properties : PropertyTable) (name : String) (entry : PropertyEntry)
    (p : LocatedProperty) : Prop where
  name_eq : p.name = name
  entry_eq : properties.lookup name = some entry
  location_eq : entry.location? = some p.location
  message_eq : p.message = entry.message

/-- The first property is left out as a relation, or it is located and the rest after it. -/
theorem locate_cons_eq_ok_iff {name : String} :
    locate properties (name :: failed) = .ok located ↔
      ∃ entry, properties.lookup name = some entry ∧
        ((entry.IsRelation ∧ locate properties failed = .ok located) ∨
          ¬ entry.IsRelation ∧ ∃ p rest, p.Of properties name entry ∧
            locate properties failed = .ok rest ∧ p :: rest = located) := by
  rw [locate]
  cases hentry : properties.lookup name with
  | none => simp
  | some entry =>
    have hlocate : entry.position.bind SourcePosition.location? = entry.location? := rfl
    dsimp only
    rw [hlocate]
    constructor
    · intro h
      refine ⟨entry, rfl, ?_⟩
      split at h
      · next hrelation => exact Or.inl ⟨hrelation, h⟩
      · next hrelation =>
        refine Or.inr ⟨hrelation, ?_⟩
        split at h
        · cases h
        · next l hl =>
          split at h
          · cases h
          · next rest hrest => exact ⟨_, rest, ⟨rfl, hentry, hl, rfl⟩, hrest, Except.ok.inj h⟩
    · rintro ⟨_, heq, h⟩
      obtain rfl := Option.some.inj heq
      rcases h with ⟨hrelation, h⟩ | ⟨hrelation, p, rest, hof, hrest, rfl⟩
      · exact (if_pos hrelation).trans h
      · obtain ⟨_, location, _⟩ := p
        obtain ⟨rfl, -, hl, rfl⟩ := hof
        refine (if_neg hrelation).trans ?_
        dsimp only at hl ⊢
        rw [hl, hrest]
        rfl

/-- Which properties are located. -/
theorem locate_eq_ok (h : locate properties failed = .ok located) :
    (∀ name ∈ failed, ∃ entry, properties.lookup name = some entry ∧
      (entry.IsRelation ∨ ∃ p ∈ located, p.Of properties name entry)) ∧
    ∀ p ∈ located, ∃ name ∈ failed, ∃ entry, ¬ entry.IsRelation ∧
      p.Of properties name entry := by
  induction failed generalizing located with
  | nil =>
    obtain rfl := Except.ok.inj h
    exact ⟨List.forall_mem_nil _, List.forall_mem_nil _⟩
  | cons name failed ih =>
    obtain ⟨entry, hentry, ⟨hrelation, h⟩ | ⟨hrelation, p, rest, hof, hrest, rfl⟩⟩ :=
      locate_cons_eq_ok_iff.1 h
    · obtain ⟨hall, hfrom⟩ := ih h
      refine ⟨List.forall_mem_cons.2 ⟨⟨entry, hentry, Or.inl hrelation⟩, hall⟩, ?_⟩
      intro p hp
      obtain ⟨other, hmem, hof⟩ := hfrom p hp
      exact ⟨other, List.mem_cons_of_mem _ hmem, hof⟩
    · obtain ⟨hall, hfrom⟩ := ih hrest
      refine ⟨List.forall_mem_cons.2 ⟨⟨entry, hentry, Or.inr ⟨p, List.mem_cons_self, hof⟩⟩, ?_⟩,
        List.forall_mem_cons.2 ⟨⟨name, List.mem_cons_self, entry, hrelation, hof⟩, ?_⟩⟩
      · intro other hmem
        obtain ⟨entry', hentry', hplace⟩ := hall other hmem
        refine ⟨entry', hentry', hplace.imp id ?_⟩
        rintro ⟨q, hq, hof'⟩
        exact ⟨q, List.mem_cons_of_mem _ hq, hof'⟩
      · intro q hq
        obtain ⟨other, hmem, hof'⟩ := hfrom q hq
        exact ⟨other, List.mem_cons_of_mem _ hmem, hof'⟩

/-- When all properties are located, or need not be. -/
theorem exists_locate_iff :
    (∃ located, locate properties failed = .ok located) ↔
      ∀ name ∈ failed, ∃ entry, properties.lookup name = some entry ∧
        (entry.IsRelation ∨ entry.location?.isSome) := by
  constructor
  · rintro ⟨located, h⟩ name hmem
    obtain ⟨entry, hentry, hrelation | ⟨p, -, hof⟩⟩ := (locate_eq_ok h).1 name hmem
    · exact ⟨entry, hentry, Or.inl hrelation⟩
    · exact ⟨entry, hentry, Or.inr (by rw [hof.location_eq]; rfl)⟩
  · intro h
    induction failed with
    | nil => exact ⟨[], rfl⟩
    | cons name failed ih =>
      obtain ⟨⟨entry, hentry, hplace⟩, hrest⟩ := List.forall_mem_cons.1 h
      obtain ⟨located, hlocated⟩ := ih hrest
      simp only [locate_cons_eq_ok_iff]
      by_cases hrelation : entry.IsRelation
      · exact ⟨located, entry, hentry, Or.inl ⟨hrelation, hlocated⟩⟩
      · obtain ⟨l, hl⟩ := Option.isSome_iff_exists.1 (hplace.resolve_left hrelation)
        exact ⟨_, entry, hentry, Or.inr ⟨hrelation, ⟨name, l, entry.message⟩, located,
          ⟨rfl, hentry, hl, rfl⟩, hlocated, rfl⟩⟩

/-! ### Findings -/

/-- One of some findings tells of a property with a place and a message. -/
def Tells (findings : List Finding) (l : Location) (message : String) : Prop :=
  ∃ f ∈ findings, f.id = identity .modelingError l message

theorem mem_findingsOf {harnessFile : String} {traces : TraceTable} {f : Finding} :
    f ∈ findingsOf harnessFile traces located ↔
      ∃ p ∈ located, isRedundant located p = false ∧
        .modelingError p.location p.message (some p.name)
          (harnessTrace harnessFile ((traces.lookup p.name).getD [])) = f := by
  simp [findingsOf, and_assoc]

/-- A property that is not redundant is told. -/
theorem tells_findingsOf (harnessFile : String) (traces : TraceTable) {p : LocatedProperty}
    (hp : p ∈ located) (hkept : isRedundant located p = false) :
    Tells (findingsOf harnessFile traces located) p.location p.message :=
  ⟨_, mem_findingsOf.2 ⟨p, hp, hkept, rfl⟩, rfl⟩

/-- What is redundant is told by a null pointer at the same place. -/
theorem exists_mem_findingsOf (harnessFile : String) (traces : TraceTable) {p : LocatedProperty}
    (hp : p ∈ located) :
    Tells (findingsOf harnessFile traces located) p.location p.message ∨
      startsWith p.message "dereference failure" = true ∧
      startsWith p.message nullDereference = false ∧
      ∃ q ∈ located, q.location = p.location ∧ startsWith q.message nullDereference = true ∧
        Tells (findingsOf harnessFile traces located) q.location q.message := by
  cases hredundant : isRedundant located p with
  | false => exact Or.inl (tells_findingsOf harnessFile traces hp hredundant)
  | true =>
    rw [isRedundant, Bool.and_eq_true, Bool.and_eq_true, Bool.not_eq_true', List.any_eq_true]
      at hredundant
    obtain ⟨⟨hdereference, hnull⟩, q, hq, hsame⟩ := hredundant
    rw [Bool.and_eq_true, beq_iff_eq] at hsame
    refine Or.inr ⟨hdereference, hnull, q, hq, hsame.1, hsame.2, ?_⟩
    -- a null pointer is itself never redundant, so there is no chain of such findings
    refine tells_findingsOf harnessFile traces hq ?_
    rw [isRedundant, hsame.2]
    simp

end

/-! ### Gaps -/

/-- The counts of a function. -/
def CoverageTable.CountsAt (t : CoverageTable) (file function : String)
    (counts : FunctionCounts) : Prop :=
  ∃ functions, (file, functions) ∈ t.counts ∧ (function, counts) ∈ functions

/-- The gaps are those of the functions with counts and lines. -/
theorem mem_coverageGaps_iff {t : CoverageTable} {f : Finding} :
    f ∈ coverageGaps t ↔ ∃ file function counts lines, t.CountsAt file function counts ∧
      linesOf? t file function = some lines ∧ f ∈ functionGaps file function counts lines := by
  rw [coverageGaps, List.mem_flatMap]
  constructor
  · rintro ⟨⟨file, functions⟩, hfile, h⟩
    obtain ⟨⟨function, counts⟩, hfunction, h⟩ := List.mem_flatMap.1 h
    dsimp only at h
    split at h
    · next lines hlines =>
      exact ⟨file, function, counts, lines, ⟨functions, hfile, hfunction⟩, hlines, h⟩
    · cases h
  · rintro ⟨file, function, counts, lines, ⟨functions, hfile, hfunction⟩, hlines, h⟩
    refine ⟨_, hfile, List.mem_flatMap.2 ⟨_, hfunction, ?_⟩⟩
    dsimp only
    rwa [hlines]

/-- What the coverage adds to the findings are gaps. -/
theorem exists_of_mem_coverageGaps {t : CoverageTable} {f : Finding} (h : f ∈ coverageGaps t) :
    ∃ l length, f = .coverageGap l length := by
  obtain ⟨file, function, counts, lines, -, -, h⟩ := mem_coverageGaps_iff.1 h
  rw [functionGaps] at h
  split at h
  · cases h
  · obtain ⟨gap, -, rfl⟩ := List.mem_map.1 h
    exact ⟨_, _, rfl⟩

/-- A gap in the coverage is no modeling error. -/
theorem kind_of_mem_coverageGaps {t : CoverageTable} {f : Finding} (h : f ∈ coverageGaps t) :
    f.kind = .coverageGap := by
  obtain ⟨l, length, rfl⟩ := exists_of_mem_coverageGaps h
  rfl

/-! ### Order -/

/-- What findings are sorted by: file, line, function and message, one after the other. -/
def Finding.place (f : Finding) : String ×ₗ Nat ×ₗ String ×ₗ String :=
  toLex (f.location.file, toLex (f.location.line, toLex (f.location.function, f.message)))

theorem Finding.precedes_iff (f g : Finding) : f.precedes g = true ↔ f.place ≤ g.place := by
  rw [place, place, Prod.Lex.toLex_le_toLex, Prod.Lex.toLex_le_toLex, Prod.Lex.toLex_le_toLex,
    precedes]
  split
  · next h => simp [h]
  · next h =>
    split
    · next h' => simp [not_not.1 h, h']
    · next h' =>
      split
      · next h'' => simp [not_not.1 h, not_not.1 h', h'']
      · next h'' => simp [not_not.1 h, not_not.1 h', not_not.1 h'']

section

variable {fs : List Finding} {f : Finding}

theorem mem_of_mem_distinctFindings (h : f ∈ distinctFindings fs) : f ∈ fs := by
  induction fs with
  | nil => exact h
  | cons g fs ih =>
    rcases List.mem_cons.1 h with rfl | h
    · exact List.mem_cons_self
    · exact List.mem_cons_of_mem _ (ih (List.mem_filter.1 h).1)

/-- Of the findings with one identity, one is left. -/
theorem exists_mem_distinctFindings (h : f ∈ fs) : ∃ g ∈ distinctFindings fs, g.id = f.id := by
  induction fs with
  | nil => cases h
  | cons d fs ih =>
    by_cases heq : d.id = f.id
    · exact ⟨d, List.mem_cons_self, heq⟩
    · have hmem : f ∈ fs := (List.mem_cons.1 h).resolve_left fun hfd => heq (hfd ▸ rfl)
      obtain ⟨g, hg, hid⟩ := ih hmem
      refine ⟨g, List.mem_cons_of_mem _ (List.mem_filter.2 ⟨hg, ?_⟩), hid⟩
      exact decide_eq_true fun hgd => heq (hgd.symm.trans hid)

theorem distinctFindings_sublist (fs : List Finding) : (distinctFindings fs).Sublist fs := by
  induction fs with
  | nil => exact List.Sublist.refl _
  | cons f fs ih => exact (List.filter_sublist.trans ih).cons_cons f

theorem nodup_distinctFindings (fs : List Finding) : ((distinctFindings fs).map (·.id)).Nodup := by
  induction fs with
  | nil => exact List.nodup_nil
  | cons f fs ih =>
    rw [distinctFindings, List.map_cons, List.nodup_cons]
    refine ⟨?_, ih.sublist (List.filter_sublist.map _)⟩
    intro hmem
    obtain ⟨g, hg, hid⟩ := List.mem_map.1 hmem
    exact of_decide_eq_true (List.mem_filter.1 hg).2 hid

theorem orderFindings_nil : orderFindings [] = [] := by
  rw [orderFindings, List.mergeSort_nil, distinctFindings]

theorem orderFindings_singleton (f : Finding) : orderFindings [f] = [f] := by
  rw [orderFindings, List.mergeSort_singleton]
  rfl

theorem mem_of_mem_orderFindings (h : f ∈ orderFindings fs) : f ∈ fs :=
  List.mem_mergeSort.1 (mem_of_mem_distinctFindings h)

theorem exists_mem_orderFindings (h : f ∈ fs) : ∃ g ∈ orderFindings fs, g.id = f.id :=
  exists_mem_distinctFindings (List.mem_mergeSort.2 h)

theorem nodup_orderFindings (fs : List Finding) : ((orderFindings fs).map (·.id)).Nodup :=
  nodup_distinctFindings _

theorem sorted_orderFindings (fs : List Finding) :
    (orderFindings fs).Pairwise fun f g => f.place ≤ g.place := by
  have hsorted : (fs.mergeSort Finding.precedes).Pairwise fun f g => f.precedes g = true := by
    refine List.pairwise_mergeSort ?_ ?_ fs
    · intro f g h hfg hgh
      rw [Finding.precedes_iff] at hfg hgh ⊢
      exact hfg.trans hgh
    · intro f g
      rw [Bool.or_eq_true, Finding.precedes_iff, Finding.precedes_iff]
      exact le_total _ _
  -- leaving findings out does not change the order of those that stay
  refine (hsorted.sublist (distinctFindings_sublist _)).imp fun h => ?_
  exact (Finding.precedes_iff _ _).1 h

/-- What some findings tell, they tell in order. -/
theorem Tells.orderFindings {l : Location} {message : String} {gs : List Finding}
    (h : Tells fs l message) (hsub : fs ⊆ gs) : Tells (orderFindings gs) l message := by
  obtain ⟨f, hf, hid⟩ := h
  obtain ⟨g, hg, heq⟩ := exists_mem_orderFindings (hsub hf)
  exact ⟨g, hg, heq.trans hid⟩

end

/-! ### Modeling errors -/

section

variable {harnessFile : String} {failed : FailedProperties} {raw : RawReport}
  {errors : List Finding}

/-- The traces can be read, if they are there. -/
theorem exists_tracesOf_iff :
    (∃ traces, tracesOf raw = .ok traces) ↔ ∀ text ∈ raw.trace, (readTraces? text).isSome := by
  rw [tracesOf]
  cases raw.trace with
  | none => simp
  | some text => cases htraces : readTraces? text <;> simp [htraces]

/-- The modeling errors are found in the documents, step by step. -/
theorem modelingErrors_eq_ok_iff (hne : failed ≠ []) :
    modelingErrors harnessFile failed raw = .ok errors ↔
      ∃ properties traces located, raw.properties? = some properties ∧
        tracesOf raw = .ok traces ∧ locate properties failed = .ok located ∧
        findingsOf harnessFile traces located = errors := by
  have hempty : ¬ failed.isEmpty = true := by simpa using hne
  rw [modelingErrors, if_neg hempty, RawReport.properties?]
  cases raw.property with
  | none => simp
  | some text =>
    rw [Option.bind_some]
    dsimp only
    cases readProperties? text with
    | none => simp
    | some properties =>
      cases tracesOf raw with
      | error e => simp [bind, Except.bind]
      | ok traces =>
        cases hlocated : locate properties failed with
        | error e => simp [bind, Except.bind, hlocated]
        | ok located => simp [bind, Except.bind, pure, Except.pure, hlocated]

/-- When the modeling errors can be found. -/
theorem exists_modelingErrors_iff :
    (∃ errors, modelingErrors harnessFile failed raw = .ok errors) ↔
      (failed ≠ [] → raw.properties?.isSome ∧
        ∀ text ∈ raw.trace, (readTraces? text).isSome) ∧
      ∀ name ∈ failed, ∃ entry, raw.entry? name = some entry ∧
        (entry.IsRelation ∨ entry.location?.isSome) := by
  by_cases hne : failed = []
  · subst hne
    exact ⟨fun _ => ⟨fun h => absurd rfl h, List.forall_mem_nil _⟩, fun _ => ⟨[], rfl⟩⟩
  · rw [← exists_tracesOf_iff]
    constructor
    · rintro ⟨errors, h⟩
      obtain ⟨properties, traces, located, hproperties, htraces, hlocated, -⟩ :=
        (modelingErrors_eq_ok_iff hne).1 h
      refine ⟨fun _ => ⟨by rw [hproperties]; rfl, traces, htraces⟩, ?_⟩
      have hall := exists_locate_iff.1 ⟨located, hlocated⟩
      simpa [RawReport.entry?, hproperties] using hall
    · rintro ⟨hdocuments, hall⟩
      obtain ⟨hsome, traces, htraces⟩ := hdocuments hne
      obtain ⟨properties, hproperties⟩ := Option.isSome_iff_exists.1 hsome
      obtain ⟨located, hlocated⟩ : ∃ located, locate properties failed = .ok located := by
        rw [exists_locate_iff]
        simpa [RawReport.entry?, hproperties] using hall
      exact ⟨_, (modelingErrors_eq_ok_iff hne).2
        ⟨properties, traces, located, hproperties, htraces, hlocated, rfl⟩⟩

/-- The modeling errors tell of every failed property that is a matter of the harness. -/
theorem tells_modelingErrors (h : modelingErrors harnessFile failed raw = .ok errors)
    {name : String} (hname : name ∈ failed) : ∃ entry, raw.entry? name = some entry ∧
      (entry.IsRelation ∨ ∃ l, entry.location? = some l ∧ (Tells errors l entry.message ∨
        startsWith entry.message "dereference failure" = true ∧
        startsWith entry.message nullDereference = false ∧
        ∃ other ∈ failed, ∃ null, raw.entry? other = some null ∧ null.location? = some l ∧
          startsWith null.message nullDereference = true ∧ Tells errors l null.message)) := by
  obtain ⟨properties, traces, located, hproperties, -, hlocated, rfl⟩ :=
    (modelingErrors_eq_ok_iff (List.ne_nil_of_mem hname)).1 h
  have hentries : ∀ other, raw.entry? other = properties.lookup other := by
    intro other
    rw [RawReport.entry?, hproperties, Option.bind_some]
  obtain ⟨hall, hfrom⟩ := locate_eq_ok hlocated
  obtain ⟨entry, hentry, hplace⟩ := hall name hname
  refine ⟨entry, (hentries name).trans hentry, hplace.imp id ?_⟩
  rintro ⟨p, hp, hof⟩
  refine ⟨p.location, hof.location_eq, ?_⟩
  rw [← hof.message_eq]
  refine (exists_mem_findingsOf harnessFile traces hp).imp id ?_
  rintro ⟨hdereference, hnull, q, hq, hsame, hstarts, htells⟩
  obtain ⟨other, hother, null, -, hof'⟩ := hfrom q hq
  rw [hof'.message_eq] at hstarts htells
  rw [hsame] at htells
  exact ⟨hdereference, hnull, other, hother, null, (hentries other).trans hof'.entry_eq,
    hsame ▸ hof'.location_eq, hstarts, htells⟩

/-- Every modeling error tells of a failed property. -/
theorem of_mem_modelingErrors (h : modelingErrors harnessFile failed raw = .ok errors)
    {f : Finding} (hf : f ∈ errors) : ∃ name ∈ failed, ∃ entry, raw.entry? name = some entry ∧
      entry.location? = some f.location ∧ f.property = some name ∧ f.message = entry.message ∧
      f.id = identity .modelingError f.location f.message := by
  by_cases hne : failed = []
  · subst hne
    obtain rfl := Except.ok.inj h
    cases hf
  · obtain ⟨properties, traces, located, hproperties, -, hlocated, rfl⟩ :=
      (modelingErrors_eq_ok_iff hne).1 h
    obtain ⟨p, hp, -, rfl⟩ := mem_findingsOf.1 hf
    obtain ⟨name, hname, entry, -, hof⟩ := (locate_eq_ok hlocated).2 p hp
    have hentry : raw.entry? name = some entry := by
      rw [RawReport.entry?, hproperties, Option.bind_some, hof.entry_eq]
    exact ⟨name, hname, entry, hentry, hof.location_eq, congrArg some hof.name_eq,
      hof.message_eq, rfl⟩

end

/-! ### The report -/

section

variable {harnessFile : String} {raw : RawReport} {report : VerifierReport}

/-- A report is read from the documents, step by step. -/
theorem readReport_eq_ok_iff :
    readReport harnessFile raw = .ok report ↔ ∃ failed errors, raw.failed? = some failed ∧
      modelingErrors harnessFile failed raw = .ok errors ∧
      ((raw.coverage = none ∧ ⟨orderFindings errors, none⟩ = report) ∨
        ∃ text table, raw.coverage = some text ∧ readCoverage? text = some table ∧
          ⟨orderFindings (errors ++ coverageGaps table), some (coverageIndex table)⟩ = report) := by
  rw [readReport, RawReport.failed?]
  cases raw.result with
  | none => simp
  | some text =>
    rw [Option.bind_some]
    dsimp only
    cases readFailed? text with
    | none => simp
    | some failed =>
      cases herrors : modelingErrors harnessFile failed raw with
      | error e => simp [bind, Except.bind, herrors]
      | ok errors =>
        cases raw.coverage with
        | none => simp [bind, Except.bind, pure, Except.pure, herrors]
        | some text =>
          cases htable : readCoverage? text <;>
            simp [bind, Except.bind, pure, Except.pure, throw, throwThe, MonadExceptOf.throw,
              herrors, htable]

/-- The findings of a report are its modeling errors and the gaps in its coverage. -/
theorem exists_of_readReport_eq_ok (h : readReport harnessFile raw = .ok report) :
    ∃ failed errors gaps, raw.failed? = some failed ∧
      modelingErrors harnessFile failed raw = .ok errors ∧
      (∀ f ∈ gaps, f.kind = .coverageGap) ∧ report.findings = orderFindings (errors ++ gaps) := by
  obtain ⟨failed, errors, hfailed, herrors, ⟨-, rfl⟩ | ⟨text, table, -, -, rfl⟩⟩ :=
    readReport_eq_ok_iff.1 h
  · exact ⟨failed, errors, [], hfailed, herrors, List.forall_mem_nil _, by rw [List.append_nil]⟩
  · exact ⟨failed, errors, _, hfailed, herrors, fun f hf => kind_of_mem_coverageGaps hf, rfl⟩

/-- When a report can be read. -/
theorem exists_readReport_iff :
    (∃ report, readReport harnessFile raw = .ok report) ↔ ∃ failed, raw.failed? = some failed ∧
      (∃ errors, modelingErrors harnessFile failed raw = .ok errors) ∧
      ∀ text ∈ raw.coverage, (readCoverage? text).isSome := by
  constructor
  · rintro ⟨report, h⟩
    obtain ⟨failed, errors, hfailed, herrors, ⟨hnone, -⟩ | ⟨text, table, hsome, htable, -⟩⟩ :=
      readReport_eq_ok_iff.1 h
    · exact ⟨failed, hfailed, ⟨errors, herrors⟩, by simp [hnone]⟩
    · exact ⟨failed, hfailed, ⟨errors, herrors⟩, by simp [hsome, htable]⟩
  · rintro ⟨failed, hfailed, ⟨errors, herrors⟩, hcoverage⟩
    cases hraw : raw.coverage with
    | none =>
      exact ⟨_, readReport_eq_ok_iff.2 ⟨failed, errors, hfailed, herrors, Or.inl ⟨hraw, rfl⟩⟩⟩
    | some text =>
      obtain ⟨table, htable⟩ := Option.isSome_iff_exists.1 (hcoverage text hraw)
      exact ⟨_, readReport_eq_ok_iff.2
        ⟨failed, errors, hfailed, herrors, Or.inr ⟨text, table, hraw, htable, rfl⟩⟩⟩

end

/-! ### A small report -/

/-- The report of a single failed property. -/
theorem readReport_single (harnessFile name description : String) (position : SourcePosition)
    (l : Location) (result property : String) (hfailed : readFailed? result = some [name])
    (hproperties : readProperties? property = some [(name, ⟨description, some position⟩)])
    (hrelation : Text.contains description "pointer relation" = false)
    (hlocation : position.location? = some l) :
    readReport harnessFile { result := some result, property := some property } =
      .ok ⟨[.modelingError l (Text.trim description) (some name) []], none⟩ := by
  have hlocated : locate [(name, ⟨description, some position⟩)] [name] =
      .ok [⟨name, l, Text.trim description⟩] := by
    simp [locate, hrelation, hlocation]
  have herrors : modelingErrors harnessFile [name]
      { result := some result, property := some property } =
        .ok [.modelingError l (Text.trim description) (some name) []] := by
    unfold modelingErrors
    dsimp only
    rw [if_neg (by simp), hproperties]
    dsimp only
    rw [hlocated]
    -- a single property is not redundant
    have hkept : isRedundant [⟨name, l, Text.trim description⟩]
        ⟨name, l, Text.trim description⟩ = false := by
      simp [isRedundant]
    have hsingle : findingsOf harnessFile [] [⟨name, l, Text.trim description⟩] =
        [.modelingError l (Text.trim description) (some name) []] := by
      rw [findingsOf, List.filter_cons, hkept]
      rfl
    exact congrArg Except.ok hsingle
  unfold readReport
  dsimp only
  rw [hfailed]
  dsimp only
  rw [herrors]
  exact congrArg (fun fs => Except.ok (VerifierReport.mk fs none)) (orderFindings_singleton _)

/-- The documents of a run in which the property `a` has failed. -/
def oneReport : RawReport where
  result := some "\x7b\"viewer-result\":\x7b\"results\":\x7b\"false\":[\"a\"]\x7d\x7d\x7d"
  property := some ("\x7b\"viewer-property\":\x7b\"properties\":\x7b\"a\":\x7b" ++
    "\"description\":\"x\",\"location\":\x7b\"file\":\"f\",\"line\":1\x7d\x7d\x7d\x7d\x7d")

/-- The finding of the property `a`. -/
def oneFinding : Finding := .modelingError ⟨"f", "", 1⟩ "x" (some "a") []

theorem readReport_oneReport (harnessFile : String) :
    readReport harnessFile oneReport = .ok ⟨[oneFinding], none⟩ :=
  readReport_single harnessFile "a" "x" ⟨some "f", none, some (.number 1)⟩ ⟨"f", "", 1⟩
    (oneReport.result.getD "") (oneReport.property.getD "") (by decide +kernel) (by decide +kernel)
    (by decide) rfl

/-! ### What is told -/

/-- **No failed property disappears.**  A report that can be read tells of every failed property,
unless it is a pointer relation; one that is left out as redundant stands beside a null pointer
that is told.  It tells of no other properties, of nothing twice, and in order.  And it can be
read exactly if all documents that it is read from can be, and every failed property has an entry
and, unless it is a pointer relation, a file and a line. -/
theorem readReport_tells (harnessFile : String) (raw : RawReport) :
    (∀ report, readReport harnessFile raw = .ok report →
      ∃ failed, raw.failed? = some failed ∧
        (∀ name ∈ failed, ∃ entry, raw.entry? name = some entry ∧
          (entry.IsRelation ∨ ∃ l, entry.location? = some l ∧
            (Tells report.findings l entry.message ∨
              startsWith entry.message "dereference failure" = true ∧
              startsWith entry.message nullDereference = false ∧
              ∃ other ∈ failed, ∃ null, raw.entry? other = some null ∧
                null.location? = some l ∧ startsWith null.message nullDereference = true ∧
                Tells report.findings l null.message))) ∧
        (∀ f ∈ report.findings, f.kind = .modelingError →
          ∃ name ∈ failed, ∃ entry, raw.entry? name = some entry ∧
            entry.location? = some f.location ∧ f.property = some name ∧
            f.message = entry.message ∧ f.id = identity .modelingError f.location f.message) ∧
        (report.findings.map (·.id)).Nodup ∧
        report.findings.Pairwise fun f g => f.place ≤ g.place) ∧
    ((∃ report, readReport harnessFile raw = .ok report) ↔
      ∃ failed, raw.failed? = some failed ∧
        (failed ≠ [] → raw.properties?.isSome ∧
          ∀ text ∈ raw.trace, (readTraces? text).isSome) ∧
        (∀ name ∈ failed, ∃ entry, raw.entry? name = some entry ∧
          (entry.IsRelation ∨ ∃ p file line, entry.position = some p ∧ p.file = some file ∧
            p.line.bind LineText.value? = some line)) ∧
        ∀ text ∈ raw.coverage, (readCoverage? text).isSome) := by
  constructor
  · intro report h
    obtain ⟨failed, errors, gaps, hfailed, herrors, hgaps, hfindings⟩ :=
      exists_of_readReport_eq_ok h
    have hordered : ∀ {l message}, Tells errors l message → Tells report.findings l message := by
      intro l message htells
      rw [hfindings]
      exact htells.orderFindings (List.subset_append_left _ _)
    refine ⟨failed, hfailed, ?_, ?_, ?_, ?_⟩
    · intro name hname
      obtain ⟨entry, hentry, hrelation | ⟨l, hl, htold⟩⟩ := tells_modelingErrors herrors hname
      · exact ⟨entry, hentry, Or.inl hrelation⟩
      · refine ⟨entry, hentry, Or.inr ⟨l, hl, htold.imp hordered ?_⟩⟩
        rintro ⟨hdereference, hnull, other, hother, null, hothers, hplace, hstarts, htells⟩
        exact ⟨hdereference, hnull, other, hother, null, hothers, hplace, hstarts,
          hordered htells⟩
    · intro f hf hkind
      rw [hfindings] at hf
      rcases List.mem_append.1 (mem_of_mem_orderFindings hf) with hmem | hmem
      · exact of_mem_modelingErrors herrors hmem
      · rw [hgaps f hmem] at hkind
        cases hkind
    · rw [hfindings]
      exact nodup_orderFindings _
    · rw [hfindings]
      exact sorted_orderFindings _
  · simp only [exists_readReport_iff, exists_modelingErrors_iff,
      PropertyEntry.isSome_location?_iff, and_assoc]

theorem readReport_tells_oneReport :
    readReport "harness.c" oneReport = .ok ⟨[oneFinding], none⟩ ∧
      ∃ failed, oneReport.failed? = some failed ∧ ∀ name ∈ failed, ∃ entry,
        oneReport.entry? name = some entry := by
  have hread := readReport_oneReport "harness.c"
  obtain ⟨failed, hfailed, htold, -⟩ := (readReport_tells "harness.c" oneReport).1 _ hread
  refine ⟨hread, failed, hfailed, fun name hname => ?_⟩
  obtain ⟨entry, hentry, -⟩ := htold name hname
  exact ⟨entry, hentry⟩

end HarnessRepair
