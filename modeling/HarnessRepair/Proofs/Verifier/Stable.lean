import HarnessRepair.Proofs.Finding.Identity
import HarnessRepair.Proofs.Verifier.Reading

/-!
# What a report tells does not depend on the order of its documents

Failed properties come as a list, and may come in any order and more than once.  Findings are
sorted by place with a sort that keeps the order of equals, and of findings with one identity
the first stays; so what comes first in the list could show.  It does not: at one place there
are at most a modeling error and a gap, and modeling errors come before gaps.

## Main definitions

* `Finding.told`, `Finding.bare` — what a finding tells apart from this run.
* `Finding.rank` — its place, and modeling errors before gaps.
* `SameCoverage` — two tables of coverage, however their entries are arranged.
* `ReadAlike` — two readings tell the same, or both fail.

## Main results

* `rank_le_mergeSort` — findings are sorted by rank, though only places are compared.
* `distinctFindings_congr` — of findings in order, those that stay depend on which there are.
* `readReport_stable` — **a report is read alike whatever the order of what has failed.**
-/

namespace HarnessRepair

/-! ### Findings apart from their run -/

namespace Finding

/-- What a finding tells: identity, kind, location, message and cluster. -/
def told (f : Finding) : FindingId × FindingKind × Location × String × Option ErrorCluster :=
  (f.id, f.kind, f.location, f.message, f.cluster)

/-- A finding without what belongs to one run only: the property and the trace. -/
def bare (f : Finding) : Finding := { f with property := none, trace := [] }

@[simp] theorem bare_id (f : Finding) : f.bare.id = f.id := rfl

@[simp] theorem told_comp_bare : Finding.told ∘ Finding.bare = Finding.told := rfl

/-- The place of a finding; at one place, modeling errors come before gaps. -/
def rank (f : Finding) : (String ×ₗ Nat ×ₗ String ×ₗ String) ×ₗ Bool :=
  toLex (f.place, decide (f.kind = .coverageGap))

@[simp] theorem rank_bare (f : Finding) : f.bare.rank = f.rank := rfl

theorem rank_le_iff {f g : Finding} : f.rank ≤ g.rank ↔ f.place ≤ g.place ∧
    (g.place ≤ f.place → f.kind = .coverageGap → g.kind = .coverageGap) := by
  rw [rank, rank, Prod.Lex.toLex_le_toLex, Bool.le_iff_imp, decide_eq_true_eq, decide_eq_true_eq]
  constructor
  · rintro (hlt | ⟨heq, hkind⟩)
    · exact ⟨hlt.le, fun hle => absurd hlt hle.not_gt⟩
    · exact ⟨heq.le, fun _ => hkind⟩
  · rintro ⟨hle, hkind⟩
    rcases hle.lt_or_eq with hlt | heq
    · exact Or.inl hlt
    · exact Or.inr ⟨heq, hkind heq.ge⟩

/-- The finding of a kind that says something of a place. -/
def ofMatter (kind : FindingKind) (l : Location) (message : String) : Finding where
  id := identity kind l message
  kind := kind
  location := l
  message := message
  cluster :=
    match kind with
    | .modelingError => some (ErrorCluster.classify message)
    | .coverageGap => none
  property := none
  trace := []

theorem Built.bare_eq_ofMatter {f : Finding} (h : f.Built) :
    f.bare = ofMatter f.kind f.location f.message := by
  obtain ⟨c, l, rfl⟩ := h
  cases c <;> rfl

theorem kind_eq_of_isGap_iff {f g : Finding} (h : f.kind = .coverageGap ↔ g.kind = .coverageGap) :
    f.kind = g.kind := by
  cases hf : f.kind <;> cases hg : g.kind <;> simp_all

/-- Findings of one rank tell the same. -/
theorem Built.bare_eq {f g : Finding} (hf : f.Built) (hg : g.Built) (h : f.rank = g.rank) :
    f.bare = g.bare := by
  obtain ⟨hplace, hgap⟩ := Prod.mk.inj (toLex.injective h)
  obtain ⟨hfile, hrest⟩ := Prod.mk.inj (toLex.injective hplace)
  obtain ⟨hline, hrest⟩ := Prod.mk.inj (toLex.injective hrest)
  obtain ⟨hfunction, hmessage⟩ := Prod.mk.inj (toLex.injective hrest)
  have hlocation : f.location = g.location := by
    cases hl : f.location
    cases hm : g.location
    simp_all
  rw [hf.bare_eq_ofMatter, hg.bare_eq_ofMatter, hlocation, hmessage,
    kind_eq_of_isGap_iff (decide_eq_decide.1 hgap)]

end Finding

/-! ### Sorting -/

/-- Sorting keeps the order of equals. -/
theorem pairwise_mergeSort_of_pairwise {α : Type} {le : α → α → Bool} {R : α → α → Prop}
    (htrans : ∀ a b c, le a b = true → le b c = true → le a c = true)
    (htotal : ∀ a b, (le a b || le b a) = true) {l : List α} (h : l.Pairwise R) :
    (l.mergeSort le).Pairwise fun a b => le b a = true → R a b := by
  induction l with
  | nil => simp
  | cons a l ih =>
    obtain ⟨hfirst, hrest⟩ := List.pairwise_cons.1 h
    obtain ⟨before, after, hsplit, hsort, hbefore⟩ := List.mergeSort_cons htrans htotal a l
    have hall := ih hrest
    rw [hsort, List.pairwise_append] at hall
    obtain ⟨hb, ha, hba⟩ := hall
    have hmem : ∀ c ∈ before ++ after, c ∈ l := fun c hc => by
      rwa [← hsort, List.mem_mergeSort] at hc
    rw [hsplit, List.pairwise_append, List.pairwise_cons]
    refine ⟨hb, ⟨fun c hc _ => hfirst c (hmem c (List.mem_append_right _ hc)), ha⟩, ?_⟩
    intro b hbefore' c hc hle
    rcases List.mem_cons.1 hc with rfl | hc
    · -- what comes before the first is strictly smaller
      have hlt := hbefore b hbefore'
      rw [hle] at hlt
      cases hlt
    · exact hba b hbefore' c hc hle

theorem rank_le_mergeSort {errors gaps : List Finding}
    (herrors : ∀ f ∈ errors, f.kind = .modelingError)
    (hgaps : ∀ f ∈ gaps, f.kind = .coverageGap) :
    ((errors ++ gaps).mergeSort Finding.precedes).Pairwise fun f g => f.rank ≤ g.rank := by
  have htrans : ∀ f g h : Finding, f.precedes g = true → g.precedes h = true →
      f.precedes h = true := by
    intro f g h hfg hgh
    rw [Finding.precedes_iff] at hfg hgh ⊢
    exact hfg.trans hgh
  have htotal : ∀ f g : Finding, (f.precedes g || g.precedes f) = true := by
    intro f g
    rw [Bool.or_eq_true, Finding.precedes_iff, Finding.precedes_iff]
    exact le_total _ _
  have hkinds : (errors ++ gaps).Pairwise fun f g =>
      f.kind = .coverageGap → g.kind = .coverageGap := by
    refine List.pairwise_append.2 ⟨?_, ?_, fun _ _ g hg _ => hgaps g hg⟩
    · refine List.pairwise_of_forall_mem_list fun f hf g _ hkind => ?_
      rw [herrors f hf] at hkind
      cases hkind
    · exact List.pairwise_of_forall_mem_list fun _ _ g hg _ => hgaps g hg
  have hsorted := List.pairwise_mergeSort htrans htotal (errors ++ gaps)
  refine (hsorted.and (pairwise_mergeSort_of_pairwise htrans htotal hkinds)).imp ?_
  rintro f g ⟨hle, hkind⟩
  rw [Finding.precedes_iff] at hle hkind
  exact Finding.rank_le_iff.2 ⟨hle, hkind⟩

/-! ### Findings that stay -/

section

variable {fs gs : List Finding}

/-- Of findings in order, those stay that come before all others of their identity. -/
theorem mem_distinctFindings_iff (hsorted : fs.Pairwise fun f g => f.rank ≤ g.rank)
    (hrank : ∀ f ∈ fs, ∀ g ∈ fs, f.rank = g.rank → f = g) {f : Finding} :
    f ∈ distinctFindings fs ↔ f ∈ fs ∧ ∀ g ∈ fs, g.id = f.id → f.rank ≤ g.rank := by
  induction fs with
  | nil => simp [distinctFindings]
  | cons d fs ih =>
    obtain ⟨hfirst, hrest⟩ := List.pairwise_cons.1 hsorted
    have htail : ∀ f ∈ fs, ∀ g ∈ fs, f.rank = g.rank → f = g := fun f hf g hg =>
      hrank f (List.mem_cons_of_mem _ hf) g (List.mem_cons_of_mem _ hg)
    rw [distinctFindings, List.mem_cons, List.mem_filter, ih hrest htail, decide_eq_true_eq,
      List.mem_cons, List.forall_mem_cons]
    constructor
    · rintro (rfl | ⟨⟨hmem, hleast⟩, hne⟩)
      · exact ⟨Or.inl rfl, fun _ => le_rfl, fun g hg _ => hfirst g hg⟩
      · exact ⟨Or.inr hmem, fun heq => absurd heq.symm hne, hleast⟩
    · rintro ⟨rfl | hmem, hle, hleast⟩
      · exact Or.inl rfl
      · by_cases heq : d.id = f.id
        · -- the first finding is not below this one, so it is this one
          have hrank_eq := le_antisymm (hle heq) (hfirst f hmem)
          exact Or.inl (hrank f (List.mem_cons_of_mem _ hmem) d List.mem_cons_self hrank_eq)
        · exact Or.inr ⟨⟨hmem, hleast⟩, fun h => heq h.symm⟩

/-- Of findings in order, those that stay depend on which there are. -/
theorem distinctFindings_congr (hfs : fs.Pairwise fun f g => f.rank ≤ g.rank)
    (hgs : gs.Pairwise fun f g => f.rank ≤ g.rank)
    (hrank : ∀ f ∈ fs, ∀ g ∈ fs, f.rank = g.rank → f = g) (h : ∀ f, f ∈ fs ↔ f ∈ gs) :
    distinctFindings fs = distinctFindings gs := by
  have hrank' : ∀ f ∈ gs, ∀ g ∈ gs, f.rank = g.rank → f = g := fun f hf g hg =>
    hrank f ((h f).2 hf) g ((h g).2 hg)
  have hmem : ∀ f, f ∈ distinctFindings fs ↔ f ∈ distinctFindings gs := by
    intro f
    rw [mem_distinctFindings_iff hfs hrank, mem_distinctFindings_iff hgs hrank']
    simp only [h]
  have hnodup : ∀ l : List Finding, (distinctFindings l).Nodup := fun l =>
    (nodup_distinctFindings l).of_map _
  refine List.Perm.eq_of_pairwise ?_ (hfs.sublist (distinctFindings_sublist fs))
    (hgs.sublist (distinctFindings_sublist gs))
    ((List.perm_ext_iff_of_nodup (hnodup fs) (hnodup gs)).2 hmem)
  intro f g hf hg hle hge
  exact hrank f (mem_of_mem_distinctFindings hf) g
    ((h g).2 (mem_of_mem_distinctFindings hg)) (le_antisymm hle hge)

theorem map_bare_distinctFindings (fs : List Finding) :
    (distinctFindings fs).map Finding.bare = distinctFindings (fs.map Finding.bare) := by
  induction fs with
  | nil => rfl
  | cons f fs ih =>
    rw [distinctFindings, List.map_cons, List.map_cons, distinctFindings, ← ih, List.filter_map]
    rfl

end

/-- What some findings tell in order depends on what the modeling errors and the gaps among
them tell, and not on how these are arranged. -/
theorem map_told_orderFindings_congr {errors errors' gaps gaps' : List Finding}
    (herrors : ∀ f ∈ errors, f.Built ∧ f.kind = .modelingError)
    (herrors' : ∀ f ∈ errors', f.Built ∧ f.kind = .modelingError)
    (hgaps : ∀ f ∈ gaps, f.Built ∧ f.kind = .coverageGap)
    (hgaps' : ∀ f ∈ gaps', f.Built ∧ f.kind = .coverageGap)
    (he : ∀ f, f ∈ errors.map Finding.bare ↔ f ∈ errors'.map Finding.bare)
    (hg : ∀ f, f ∈ gaps.map Finding.bare ↔ f ∈ gaps'.map Finding.bare) :
    (orderFindings (errors ++ gaps)).map Finding.told =
      (orderFindings (errors' ++ gaps')).map Finding.told := by
  have hsorted := rank_le_mergeSort (fun f hf => (herrors f hf).2) fun f hf => (hgaps f hf).2
  have hsorted' := rank_le_mergeSort (fun f hf => (herrors' f hf).2) fun f hf => (hgaps' f hf).2
  have hbuilt : ∀ f ∈ (errors ++ gaps).mergeSort Finding.precedes, f.Built := by
    intro f hf
    rw [List.mem_mergeSort, List.mem_append] at hf
    exact hf.elim (fun h => (herrors f h).1) fun h => (hgaps f h).1
  suffices hbare : (orderFindings (errors ++ gaps)).map Finding.bare =
      (orderFindings (errors' ++ gaps')).map Finding.bare by
    simpa using congrArg (List.map Finding.told) hbare
  rw [orderFindings, orderFindings, map_bare_distinctFindings, map_bare_distinctFindings]
  refine distinctFindings_congr (List.pairwise_map.2 hsorted) (List.pairwise_map.2 hsorted') ?_ ?_
  · simp only [List.forall_mem_map]
    intro f hf g hg hrank
    exact (hbuilt f hf).bare_eq (hbuilt g hg) hrank
  · intro f
    have hmem : ∀ fs : List Finding, f ∈ (fs.mergeSort Finding.precedes).map Finding.bare ↔
        f ∈ fs.map Finding.bare := fun fs => by simp
    rw [hmem, hmem, List.map_append, List.map_append, List.mem_append, List.mem_append, he, hg]

/-! ### Modeling errors -/

section

variable {properties properties' : PropertyTable} {failed failed' : FailedProperties}
  {located located' : List LocatedProperty}

/-- Which properties are located depends on which have failed and on what is known of each. -/
theorem mem_locate_congr (hfailed : ∀ name, name ∈ failed → name ∈ failed')
    (hproperties : ∀ name, properties.lookup name = properties'.lookup name)
    (h : locate properties failed = .ok located) (h' : locate properties' failed' = .ok located')
    {p : LocatedProperty} (hp : p ∈ located) : p ∈ located' := by
  obtain ⟨name, hname, entry, hrelation, hof⟩ := (locate_eq_ok h).2 p hp
  obtain ⟨entry', hentry', hplace⟩ := (locate_eq_ok h').1 name (hfailed name hname)
  obtain rfl : entry = entry' := by
    rw [← hproperties, hof.entry_eq] at hentry'
    exact Option.some.inj hentry'
  obtain ⟨q, hq, hof'⟩ := hplace.resolve_left hrelation
  have heq : p = q := by
    obtain ⟨_, _, _⟩ := p
    obtain ⟨_, _, _⟩ := q
    rw [LocatedProperty.mk.injEq]
    exact ⟨hof.name_eq.trans hof'.name_eq.symm,
      Option.some.inj (hof.location_eq.symm.trans hof'.location_eq),
      hof.message_eq.trans hof'.message_eq.symm⟩
  exact heq ▸ hq

/-- What the findings of located properties tell depends on which are located. -/
theorem mem_map_bare_findingsOf (harnessFile : String) (traces traces' : TraceTable)
    (h : ∀ p, p ∈ located ↔ p ∈ located') {f : Finding}
    (hf : f ∈ (findingsOf harnessFile traces located).map Finding.bare) :
    f ∈ (findingsOf harnessFile traces' located').map Finding.bare := by
  have hredundant : ∀ p, isRedundant located' p = isRedundant located p := by
    intro p
    have hany : ∀ q : LocatedProperty → Bool, located'.any q = located.any q := by
      intro q
      rw [Bool.eq_iff_iff, List.any_eq_true, List.any_eq_true]
      simp only [h]
    rw [isRedundant, isRedundant, hany]
  obtain ⟨g, hg, rfl⟩ := List.mem_map.1 hf
  obtain ⟨p, hp, hkept, rfl⟩ := mem_findingsOf.1 hg
  refine List.mem_map.2 ⟨_, mem_findingsOf.2 ⟨p, (h p).1 hp, ?_, rfl⟩, rfl⟩
  rw [hredundant, hkept]

theorem built_of_mem_findingsOf {harnessFile : String} {traces : TraceTable} {f : Finding}
    (hf : f ∈ findingsOf harnessFile traces located) : f.Built ∧ f.kind = .modelingError := by
  obtain ⟨p, -, -, rfl⟩ := mem_findingsOf.1 hf
  exact ⟨⟨.violated _ _ _, p.location, rfl⟩, rfl⟩

theorem built_of_mem_coverageGaps {t : CoverageTable} {f : Finding} (hf : f ∈ coverageGaps t) :
    f.Built ∧ f.kind = .coverageGap := by
  obtain ⟨l, length, rfl⟩ := exists_of_mem_coverageGaps hf
  exact ⟨⟨.uncovered length, l, rfl⟩, rfl⟩

/-- Two tables of coverage say the same of each function, however they are arranged. -/
structure SameCoverage (t t' : CoverageTable) : Prop where
  lines : ∀ file function, linesOf? t file function = linesOf? t' file function
  counts : ∀ file function counts,
    t.CountsAt file function counts ↔ t'.CountsAt file function counts

theorem SameCoverage.mem_coverageGaps {t t' : CoverageTable} (h : SameCoverage t t')
    (f : Finding) : f ∈ coverageGaps t ↔ f ∈ coverageGaps t' := by
  rw [mem_coverageGaps_iff, mem_coverageGaps_iff]
  simp only [h.lines, h.counts]

/-- What is told of located properties and of coverage does not depend on how the tables are
arranged. -/
theorem map_told_of_tables (harnessFile : String) (traces traces' : TraceTable)
    {t t' : CoverageTable} (hfailed : ∀ name, name ∈ failed ↔ name ∈ failed')
    (hproperties : ∀ name, properties.lookup name = properties'.lookup name)
    (hcoverage : SameCoverage t t') (h : locate properties failed = .ok located)
    (h' : locate properties' failed' = .ok located') :
    (orderFindings (findingsOf harnessFile traces located ++ coverageGaps t)).map Finding.told =
      (orderFindings (findingsOf harnessFile traces' located' ++ coverageGaps t')).map
        Finding.told := by
  have hlocated : ∀ p, p ∈ located ↔ p ∈ located' := fun p =>
    ⟨mem_locate_congr (fun name => (hfailed name).1) hproperties h h',
      mem_locate_congr (fun name => (hfailed name).2) (fun name => (hproperties name).symm) h' h⟩
  refine map_told_orderFindings_congr (fun _ => built_of_mem_findingsOf)
    (fun _ => built_of_mem_findingsOf) (fun _ => built_of_mem_coverageGaps)
    (fun _ => built_of_mem_coverageGaps) (fun f => ⟨?_, ?_⟩) fun f => ?_
  · exact mem_map_bare_findingsOf harnessFile traces traces' hlocated
  · exact mem_map_bare_findingsOf harnessFile traces' traces fun p => (hlocated p).symm
  · simp only [List.mem_map, hcoverage.mem_coverageGaps]

end

/-! ### Reports -/

section

variable {harnessFile : String} {raw : RawReport} {failed failed' : FailedProperties}
  {errors errors' : List Finding}

theorem built_of_mem_modelingErrors (h : modelingErrors harnessFile failed raw = .ok errors)
    {f : Finding} (hf : f ∈ errors) : f.Built ∧ f.kind = .modelingError := by
  by_cases hne : failed = []
  · subst hne
    obtain rfl := Except.ok.inj h
    cases hf
  · obtain ⟨_, _, _, -, -, -, rfl⟩ := (modelingErrors_eq_ok_iff hne).1 h
    exact built_of_mem_findingsOf hf

/-- Whether there are failed properties depends on which there are. -/
theorem eq_nil_iff_of_mem_iff (hsame : ∀ name, name ∈ failed ↔ name ∈ failed') :
    failed = [] ↔ failed' = [] := by
  simp only [List.eq_nil_iff_forall_not_mem, hsame]

theorem exists_modelingErrors_congr (hsame : ∀ name, name ∈ failed ↔ name ∈ failed') :
    (∃ errors, modelingErrors harnessFile failed raw = .ok errors) ↔
      ∃ errors, modelingErrors harnessFile failed' raw = .ok errors := by
  simp only [exists_modelingErrors_iff, ne_eq, eq_nil_iff_of_mem_iff hsame, hsame]

theorem mem_map_bare_modelingErrors (hsame : ∀ name, name ∈ failed ↔ name ∈ failed')
    (h : modelingErrors harnessFile failed raw = .ok errors)
    (h' : modelingErrors harnessFile failed' raw = .ok errors') {f : Finding}
    (hf : f ∈ errors.map Finding.bare) : f ∈ errors'.map Finding.bare := by
  by_cases hne : failed = []
  · subst hne
    obtain rfl := Except.ok.inj h
    cases hf
  · have hne' : failed' ≠ [] := fun hnil => hne ((eq_nil_iff_of_mem_iff hsame).2 hnil)
    obtain ⟨properties, traces, located, hproperties, htraces, hlocated, rfl⟩ :=
      (modelingErrors_eq_ok_iff hne).1 h
    obtain ⟨_, traces', located', hproperties', -, hlocated', rfl⟩ :=
      (modelingErrors_eq_ok_iff hne').1 h'
    obtain rfl := Option.some.inj (hproperties.symm.trans hproperties')
    refine mem_map_bare_findingsOf harnessFile traces traces' (fun p => ⟨?_, ?_⟩) hf
    · exact mem_locate_congr (fun name => (hsame name).1) (fun _ => rfl) hlocated hlocated'
    · exact mem_locate_congr (fun name => (hsame name).2) (fun _ => rfl) hlocated' hlocated

/-- Two readings of a report tell the same findings in the same order with the same coverage, or
both fail. -/
inductive ReadAlike : Except ParseFailure VerifierReport → Except ParseFailure VerifierReport →
    Prop where
  | failed (e e' : ParseFailure) : ReadAlike (.error e) (.error e')
  | read {report report' : VerifierReport}
      (findings : report.findings.map Finding.told = report'.findings.map Finding.told)
      (coverage : report.coverage = report'.coverage) : ReadAlike (.ok report) (.ok report')

/-- What is told of the modeling errors and some gaps depends on which properties have failed. -/
theorem map_told_modelingErrors (hsame : ∀ name, name ∈ failed ↔ name ∈ failed')
    (h : modelingErrors harnessFile failed raw = .ok errors)
    (h' : modelingErrors harnessFile failed' raw = .ok errors') {gaps : List Finding}
    (hgaps : ∀ f ∈ gaps, f.Built ∧ f.kind = .coverageGap) :
    (orderFindings (errors ++ gaps)).map Finding.told =
      (orderFindings (errors' ++ gaps)).map Finding.told :=
  map_told_orderFindings_congr (fun _ => built_of_mem_modelingErrors h)
    (fun _ => built_of_mem_modelingErrors h') hgaps hgaps
    (fun _ => ⟨mem_map_bare_modelingErrors hsame h h',
      mem_map_bare_modelingErrors (fun name => (hsame name).symm) h' h⟩) fun _ => Iff.rfl

end

/-- **A report is read alike whatever the order of what has failed.**  Where the result document
is replaced by one in which the same properties have failed, in another order or more than once,
both readings fail or tell the same.  Nor does it show in which order the tables of properties,
traces and coverage are arranged. -/
theorem readReport_stable (harnessFile : String) (raw : RawReport) (result : String)
    {failed failed' : FailedProperties} (hfailed : raw.failed? = some failed)
    (hfailed' : readFailed? result = some failed')
    (hsame : ∀ name, name ∈ failed ↔ name ∈ failed') :
    ReadAlike (readReport harnessFile raw)
      (readReport harnessFile { raw with result := some result }) ∧
    ∀ (properties properties' : PropertyTable) (traces traces' : TraceTable)
      (t t' : CoverageTable), (∀ name, properties.lookup name = properties'.lookup name) →
      SameCoverage t t' →
      ((∃ located, locate properties failed = .ok located) ↔
        ∃ located', locate properties' failed' = .ok located') ∧
      ∀ located located', locate properties failed = .ok located →
        locate properties' failed' = .ok located' →
        (orderFindings (findingsOf harnessFile traces located ++ coverageGaps t)).map
            Finding.told =
          (orderFindings (findingsOf harnessFile traces' located' ++ coverageGaps t')).map
            Finding.told := by
  constructor
  · have hother : ({ raw with result := some result } : RawReport).failed? = some failed' :=
      hfailed'
    have hreadable : (∃ report, readReport harnessFile raw = .ok report) ↔
        ∃ report, readReport harnessFile { raw with result := some result } = .ok report := by
      rw [exists_readReport_iff, exists_readReport_iff, hfailed, hother]
      simp only [Option.some.injEq, exists_eq_left', exists_modelingErrors_congr hsame]
      rfl
    cases h : readReport harnessFile raw with
    | error e =>
      cases h' : readReport harnessFile { raw with result := some result } with
      | error e' => exact .failed e e'
      | ok report' =>
        obtain ⟨report, hread⟩ := hreadable.2 ⟨report', h'⟩
        rw [h] at hread
        cases hread
    | ok report =>
      obtain ⟨report', h'⟩ := hreadable.1 ⟨report, h⟩
      rw [h']
      obtain ⟨_, errors, hf, herrors, hcoverage⟩ := readReport_eq_ok_iff.1 h
      obtain ⟨_, errors', hf', herrors', hcoverage'⟩ := readReport_eq_ok_iff.1 h'
      obtain rfl := Option.some.inj (hfailed.symm.trans hf)
      obtain rfl := Option.some.inj (hother.symm.trans hf')
      -- the errors are read from documents that have not been replaced
      replace herrors' : modelingErrors harnessFile failed' raw = .ok errors' := herrors'
      rcases hcoverage with ⟨hnone, rfl⟩ | ⟨text, table, htext, htable, rfl⟩
      · rcases hcoverage' with ⟨-, rfl⟩ | ⟨text', -, htext', -, -⟩
        · refine .read ?_ rfl
          simpa using map_told_modelingErrors hsame herrors herrors' (List.forall_mem_nil _)
        · exact absurd (hnone.symm.trans htext') (Option.some_ne_none _).symm
      · rcases hcoverage' with ⟨hnone', -⟩ | ⟨text', table', htext', htable', rfl⟩
        · exact absurd (htext.symm.trans hnone') (Option.some_ne_none _)
        · obtain rfl := Option.some.inj (htext.symm.trans htext')
          obtain rfl := Option.some.inj (htable.symm.trans htable')
          exact .read (map_told_modelingErrors hsame herrors herrors' fun _ =>
            built_of_mem_coverageGaps) rfl
  · intro properties properties' traces traces' t t' hproperties hcoverage
    refine ⟨?_, fun located located' h h' => ?_⟩
    · simp only [exists_locate_iff, hproperties, hsame]
    · exact map_told_of_tables harnessFile traces traces' hsame hproperties hcoverage h h'

/-- The result document of a run in which two properties have failed, with one of them told
twice and the other first. -/
def rearrangedResult : String :=
  "\x7b\"viewer-result\":\x7b\"results\":\x7b\"false\":[\"b\",\"a\",\"b\"]\x7d\x7d\x7d"

theorem readReport_stable_rearrangedResult :
    repeatedReport.failed? = some ["a", "b"] ∧ readFailed? rearrangedResult = some ["b", "a", "b"] ∧
      (∀ name, name ∈ ["a", "b"] ↔ name ∈ ["b", "a", "b"]) ∧
      (∃ report, readReport "harness.c" repeatedReport = .ok report) ∧
      ReadAlike (readReport "harness.c" repeatedReport)
        (readReport "harness.c" { repeatedReport with result := some rearrangedResult }) := by
  have hfailed : repeatedReport.failed? = some ["a", "b"] := by decide +kernel
  have hfailed' : readFailed? rearrangedResult = some ["b", "a", "b"] := by decide +kernel
  have hsame : ∀ name, name ∈ ["a", "b"] ↔ name ∈ ["b", "a", "b"] := by
    intro name
    simp only [List.mem_cons, List.not_mem_nil, or_false]
    exact ⟨Or.inr, fun h => h.elim Or.inr id⟩
  have hread : ∃ report, readReport "harness.c" repeatedReport = .ok report :=
    exists_readReport_iff.2 ⟨_, hfailed, ⟨_, modelingErrors_repeatedReport⟩, by
      rintro _ ⟨⟩⟩
  exact ⟨hfailed, hfailed', hsame, hread,
    (readReport_stable "harness.c" repeatedReport rearrangedResult hfailed hfailed' hsame).1⟩

end HarnessRepair
