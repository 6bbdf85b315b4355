import HarnessRepair.Proofs.Finding.Complaint
import HarnessRepair.Proofs.Verifier.Reading
import Mathlib.Data.Set.Function

/-!
# What the identity of a finding tells

The key behind an identity joins five texts by bars, and no bar in a text is marked as
its own.  Where the file names and the function names hold equally many bars, the key
can be taken apart again, and findings of one identity are about the same matter.
Where they do not, two findings can share a key, and a report tells of one of them only.

Digests are taken to be free of collisions among the keys that are looked at; among
all keys they cannot be.

## Main definitions

* `Finding.SameMatter` — what findings of one identity should have in common.
* `Finding.BarsAgree` — file and function names hold equally many bars.
* `RawReport.Gives` — the findings of a report before any is left out.

## Main results

* `identityKey_inj` — a key can be taken apart.
* `id_eq_iff_sameMatter` — **identities tell findings apart by their matter, and a
  report leaves out no other matter.**
* `not_sameMatter_barred` — which fails where a bar changes sides.
-/

namespace HarnessRepair

open Text

/-! ### Taking a key apart -/

/-- Of two texts that hold a separator equally often, each can be told from what
comes behind one more separator. -/
theorem append_cons_inj_of_count {α : Type} [DecidableEq α] {d : α} {a a' b b' : List α}
    (hcount : a.count d = a'.count d) (h : a ++ d :: b = a' ++ d :: b') : a = a' ∧ b = b' := by
  induction a generalizing a' with
  | nil =>
    cases a' with
    | nil => exact ⟨rfl, (List.cons.inj h).2⟩
    | cons c a' =>
      -- the separator would be one of the other text
      obtain rfl : d = c := (List.cons.inj h).1
      rw [List.count_nil, List.count_cons_self] at hcount
      exact absurd hcount (Nat.succ_ne_zero _).symm
  | cons c a ih =>
    cases a' with
    | nil =>
      obtain rfl : c = d := (List.cons.inj h).1
      rw [List.count_nil, List.count_cons_self] at hcount
      exact absurd hcount (Nat.succ_ne_zero _)
    | cons c' a' =>
      obtain ⟨rfl, h'⟩ := List.cons.inj h
      rw [List.count_cons, List.count_cons] at hcount
      obtain ⟨rfl, rfl⟩ := ih (Nat.add_right_cancel hcount) h'
      exact ⟨rfl, rfl⟩

theorem toList_identityKey (kind : FindingKind) (l : Location) (message : String) :
    (identityKey kind l message).toList = kind.name.toList ++ '|' :: (l.file.toList ++
      '|' :: (l.function.toList ++ '|' :: ((toString l.line).toList ++
        '|' :: (signature kind message).toList))) := by
  simp [identityKey]

theorem FindingKind.name_inj {k k' : FindingKind} (h : k.name.toList = k'.name.toList) :
    k = k' := by
  cases k <;> cases k' <;> first | rfl | exact absurd h (by decide)

theorem FindingKind.count_name (k : FindingKind) : k.name.toList.count '|' = 0 := by
  cases k <;> decide

theorem count_toString (n : Nat) : (toString n).toList.count '|' = 0 :=
  List.count_eq_zero.2 fun h => absurd (isDigit_of_mem_toString h) (by decide)

/-- **A key can be taken apart** if it is known how many bars its names hold. -/
theorem identityKey_inj {k k' : FindingKind} {l l' : Location} {m m' : String}
    (hfile : l.file.toList.count '|' = l'.file.toList.count '|')
    (hfunction : l.function.toList.count '|' = l'.function.toList.count '|')
    (h : identityKey k l m = identityKey k' l' m') :
    k = k' ∧ l = l' ∧ signature k m = signature k' m' := by
  have hlist := congrArg String.toList h
  rw [toList_identityKey, toList_identityKey] at hlist
  have hkinds : k.name.toList.count '|' = k'.name.toList.count '|' := by
    rw [k.count_name, k'.count_name]
  have hlines : (toString l.line).toList.count '|' = (toString l'.line).toList.count '|' := by
    rw [count_toString, count_toString]
  obtain ⟨hk, hlist⟩ := append_cons_inj_of_count hkinds hlist
  obtain ⟨hf, hlist⟩ := append_cons_inj_of_count hfile hlist
  obtain ⟨hg, hlist⟩ := append_cons_inj_of_count hfunction hlist
  obtain ⟨hn, hs⟩ := append_cons_inj_of_count hlines hlist
  refine ⟨FindingKind.name_inj hk, ?_, String.toList_inj.1 hs⟩
  cases l
  cases l'
  rw [Location.mk.injEq]
  exact ⟨String.toList_inj.1 hf, String.toList_inj.1 hg, toString_inj hn⟩

/-! ### Findings of one identity -/

namespace Finding

/-- A finding that one of the two constructors has built. -/
def Built (f : Finding) : Prop := ∃ (c : Complaint) (l : Location), f = c.madeAt l

/-- The key behind the identity of a finding. -/
def key (f : Finding) : String := identityKey f.kind f.location f.message

/-- Two findings have kind, file, function and line in common, and, unless they are
gaps, say the same up to blanks. -/
structure SameMatter (f g : Finding) : Prop where
  kind : f.kind = g.kind
  file : f.location.file = g.location.file
  function : f.location.function = g.location.function
  line : f.location.line = g.location.line
  said : f.kind = .modelingError → normalizeBlanks f.message = normalizeBlanks g.message

/-- The file names of two findings hold equally many bars, and so do the names of
their functions. -/
def BarsAgree (f g : Finding) : Prop :=
  f.location.file.toList.count '|' = g.location.file.toList.count '|' ∧
    f.location.function.toList.count '|' = g.location.function.toList.count '|'

theorem Built.id_eq {f : Finding} (h : f.Built) : f.id = .ofKey f.key := by
  obtain ⟨c, l, rfl⟩ := h
  cases c <;> rfl

/-- Findings with the same key have the same identity. -/
theorem Built.id_eq_of_key_eq {f g : Finding} (hf : f.Built) (hg : g.Built)
    (h : f.key = g.key) : f.id = g.id := by
  rw [hf.id_eq, hg.id_eq, h]

theorem sameMatter_iff {f g : Finding} : SameMatter f g ↔
    f.kind = g.kind ∧ f.location = g.location ∧
      signature f.kind f.message = signature g.kind g.message := by
  constructor
  · rintro ⟨hkind, hfile, hfunction, hline, hsaid⟩
    refine ⟨hkind, ?_, ?_⟩
    · cases hf : f.location
      cases hg : g.location
      rw [hf, hg] at hfile hfunction hline
      rw [Location.mk.injEq]
      exact ⟨hfile, hfunction, hline⟩
    · rw [← hkind]
      cases hk : f.kind with
      | modelingError => exact hsaid hk
      | coverageGap => rfl
  · rintro ⟨hkind, hlocation, hsignature⟩
    refine ⟨hkind, by rw [hlocation], by rw [hlocation], by rw [hlocation], fun hk => ?_⟩
    rw [← hkind, hk] at hsignature
    exact hsignature

/-- The same matter has the same key. -/
theorem SameMatter.key_eq {f g : Finding} (h : SameMatter f g) : f.key = g.key := by
  obtain ⟨hkind, hlocation, hsignature⟩ := sameMatter_iff.1 h
  rw [key, key, identityKey, identityKey, hsignature, hkind, hlocation]

theorem sameMatter_of_key_eq {f g : Finding} (hbars : BarsAgree f g) (h : f.key = g.key) :
    SameMatter f g :=
  sameMatter_iff.2 (identityKey_inj hbars.1 hbars.2 h)

theorem id_eq_iff {keys : Set String} (hfree : Set.InjOn FindingId.ofKey keys) {f g : Finding}
    (hf : f.Built) (hg : g.Built) (hfkey : f.key ∈ keys) (hgkey : g.key ∈ keys)
    (hbars : BarsAgree f g) : f.id = g.id ↔ SameMatter f g := by
  refine ⟨fun hid => ?_, fun h => hf.id_eq_of_key_eq hg h.key_eq⟩
  rw [hf.id_eq, hg.id_eq] at hid
  exact sameMatter_of_key_eq hbars (hfree hfkey hgkey hid)

end Finding

/-! ### Findings of one report -/

/-- The findings that the documents of a report give, before any is left out. -/
inductive RawReport.Gives (harnessFile : String) (raw : RawReport) : Finding → Prop
  | error {failed : FailedProperties} {errors : List Finding} {f : Finding} :
    raw.failed? = some failed → modelingErrors harnessFile failed raw = .ok errors →
      f ∈ errors → Gives harnessFile raw f
  | gap {text : String} {table : CoverageTable} {f : Finding} :
    raw.coverage = some text → readCoverage? text = some table →
      f ∈ coverageGaps table → Gives harnessFile raw f

section

variable {harnessFile : String} {raw : RawReport} {report : VerifierReport} {f : Finding}

/-- What a report gives is built by the constructors. -/
theorem RawReport.Gives.built (h : raw.Gives harnessFile f) : f.Built := by
  cases h with
  | @error failed errors _ _ herrors hf =>
    by_cases hne : failed = []
    · subst hne
      obtain rfl := Except.ok.inj herrors
      cases hf
    · obtain ⟨_, _, _, -, -, -, rfl⟩ := (modelingErrors_eq_ok_iff hne).1 herrors
      obtain ⟨p, -, -, rfl⟩ := mem_findingsOf.1 hf
      exact ⟨.violated _ _ _, p.location, rfl⟩
  | gap _ _ hf =>
    obtain ⟨l, length, rfl⟩ := exists_of_mem_coverageGaps hf
    exact ⟨.uncovered length, l, rfl⟩

/-- A report that can be read has put in order what its documents give. -/
theorem exists_gives_of_readReport (h : readReport harnessFile raw = .ok report) :
    ∃ given, report.findings = orderFindings given ∧ ∀ f, raw.Gives harnessFile f ↔ f ∈ given := by
  obtain ⟨failed, errors, hfailed, herrors, hcoverage⟩ := readReport_eq_ok_iff.1 h
  have herror : ∀ {failed' errors' f}, raw.failed? = some failed' →
      modelingErrors harnessFile failed' raw = .ok errors' → f ∈ errors' → f ∈ errors := by
    intro failed' errors' f hfailed' herrors' hf
    obtain rfl := Option.some.inj (hfailed.symm.trans hfailed')
    obtain rfl := Except.ok.inj (herrors.symm.trans herrors')
    exact hf
  rcases hcoverage with ⟨hnone, rfl⟩ | ⟨text, table, htext, htable, rfl⟩
  · refine ⟨errors, rfl, fun f => ⟨?_, fun hf => .error hfailed herrors hf⟩⟩
    rintro (⟨hfailed', herrors', hf⟩ | ⟨htext, -, -⟩)
    · exact herror hfailed' herrors' hf
    · rw [hnone] at htext
      cases htext
  · refine ⟨errors ++ coverageGaps table, rfl, fun f => ⟨?_, fun hf => ?_⟩⟩
    · rintro (⟨hfailed', herrors', hf⟩ | ⟨htext', htable', hf⟩)
      · exact List.mem_append_left _ (herror hfailed' herrors' hf)
      · obtain rfl := Option.some.inj (htext.symm.trans htext')
        obtain rfl := Option.some.inj (htable.symm.trans htable')
        exact List.mem_append_right _ hf
    · rcases List.mem_append.1 hf with hf | hf
      · exact .error hfailed herrors hf
      · exact .gap htext htable hf

/-- **Identities tell findings apart by their matter**, among those whose names hold equally
many bars; so a report that can be read leaves a finding out only where it tells of the same
matter. -/
theorem id_eq_iff_sameMatter (keys : Set String) (hfree : Set.InjOn FindingId.ofKey keys) :
    (∀ f g : Finding, f.Built → g.Built → f.key ∈ keys → g.key ∈ keys → f.BarsAgree g →
      (f.id = g.id ↔ f.SameMatter g)) ∧
    ∀ harnessFile raw report, readReport harnessFile raw = .ok report →
      ∀ f, raw.Gives harnessFile f → ∃ g ∈ report.findings, raw.Gives harnessFile g ∧
        g.id = f.id ∧ (f.key ∈ keys → g.key ∈ keys → f.BarsAgree g → f.SameMatter g) := by
  constructor
  · intro f g hf hg hfkey hgkey hbars
    exact Finding.id_eq_iff hfree hf hg hfkey hgkey hbars
  · intro harnessFile raw report hread f hf
    obtain ⟨given, hfindings, hgives⟩ := exists_gives_of_readReport hread
    obtain ⟨g, hg, hid⟩ := exists_mem_orderFindings ((hgives f).1 hf)
    have hgiven : raw.Gives harnessFile g := (hgives g).2 (mem_of_mem_orderFindings hg)
    refine ⟨g, hfindings ▸ hg, hgiven, hid, fun hfkey hgkey hbars => ?_⟩
    exact (Finding.id_eq_iff hfree hf.built hgiven.built hfkey hgkey hbars).1 hid.symm

/-- Of two findings of one identity that a report without coverage gives, it tells of the
first only. -/
theorem readReport_of_id_eq {failed : FailedProperties} {f g : Finding}
    (hfailed : raw.failed? = some failed) (hcoverage : raw.coverage = none)
    (herrors : modelingErrors harnessFile failed raw = .ok [f, g])
    (hprecedes : f.precedes g = true) (hid : f.id = g.id) :
    readReport harnessFile raw = .ok ⟨[f], none⟩ := by
  have horder : orderFindings [f, g] = [f] := by
    rw [orderFindings, List.mergeSort_of_pairwise (by simpa using hprecedes)]
    simp [distinctFindings, hid]
  exact readReport_eq_ok_iff.2
    ⟨failed, _, hfailed, herrors, Or.inl ⟨hcoverage, by rw [horder]⟩⟩

end

/-! ### Names with bars -/

/-- The documents of a run in which two properties with the descriptions and places have
failed. -/
def twoFailures (first second : String) : RawReport where
  result := some "\x7b\"viewer-result\":\x7b\"results\":\x7b\"false\":[\"a\",\"b\"]\x7d\x7d\x7d"
  property := some ("\x7b\"viewer-property\":\x7b\"properties\":\x7b\"a\":\x7b" ++ first ++
    "\x7d\x7d,\"b\":\x7b" ++ second ++ "\x7d\x7d\x7d\x7d\x7d")

/-- One thing is said twice of a place, with different blanks. -/
def repeatedReport : RawReport :=
  twoFailures
    "\"description\":\"x  y\",\"location\":\x7b\"file\":\"p|q.c\",\"function\":\"f\",\"line\":1"
    "\"description\":\"x y\",\"location\":\x7b\"file\":\"p|q.c\",\"function\":\"f\",\"line\":1"

/-- One of the two findings. -/
def repeatedFinding (message property : String) : Finding :=
  .modelingError ⟨"p|q.c", "f", 1⟩ message (some property) []

theorem modelingErrors_repeatedReport :
    modelingErrors "harness.c" ["a", "b"] repeatedReport =
      .ok [repeatedFinding "x  y" "a", repeatedFinding "x y" "b"] := by
  have hproperties : repeatedReport.properties? =
      some [("a", ⟨"x  y", some ⟨some "p|q.c", some "f", some (.number 1)⟩⟩),
        ("b", ⟨"x y", some ⟨some "p|q.c", some "f", some (.number 1)⟩⟩)] := by
    decide +kernel
  exact (modelingErrors_eq_ok_iff (List.cons_ne_nil _ _)).2 ⟨_, [], _, hproperties, rfl, rfl, rfl⟩

theorem id_eq_iff_sameMatter_repeatedReport :
    Set.InjOn FindingId.ofKey {(repeatedFinding "x y" "b").key, (repeatedFinding "z" "b").key} ∧
      ((repeatedFinding "x y" "b").id = (repeatedFinding "z" "b").id ↔
        (repeatedFinding "x y" "b").SameMatter (repeatedFinding "z" "b")) ∧
      readReport "harness.c" repeatedReport = .ok ⟨[repeatedFinding "x  y" "a"], none⟩ ∧
      repeatedReport.Gives "harness.c" (repeatedFinding "x y" "b") ∧
      (repeatedFinding "x y" "b").SameMatter (repeatedFinding "x  y" "a") := by
  have hfree : Set.InjOn FindingId.ofKey
      {(repeatedFinding "x y" "b").key, (repeatedFinding "z" "b").key} := by
    rw [Set.injOn_pair]
    intro hid
    exact absurd hid (by decide +kernel)
  have hbuilt : ∀ message property, (repeatedFinding message property).Built :=
    fun message property => ⟨.violated message (some property) [], ⟨"p|q.c", "f", 1⟩, rfl⟩
  have hkey : (repeatedFinding "x  y" "a").key = (repeatedFinding "x y" "b").key := by decide
  have hid := (hbuilt _ _).id_eq_of_key_eq (hbuilt _ _) hkey
  have hfailed : repeatedReport.failed? = some ["a", "b"] := by decide +kernel
  have hread : readReport "harness.c" repeatedReport = .ok ⟨[repeatedFinding "x  y" "a"], none⟩ :=
    readReport_of_id_eq hfailed rfl modelingErrors_repeatedReport (by decide +kernel) hid
  have hgives : repeatedReport.Gives "harness.c" (repeatedFinding "x y" "b") :=
    .error hfailed modelingErrors_repeatedReport (by simp)
  obtain ⟨htell, hkept⟩ := id_eq_iff_sameMatter _ hfree
  refine ⟨hfree, ?_, hread, hgives, ?_⟩
  · exact htell _ _ (hbuilt _ _) (hbuilt _ _) (Set.mem_insert _ _)
      (Set.mem_insert_of_mem _ rfl) ⟨rfl, rfl⟩
  · obtain ⟨g, hg, -, -, hsame⟩ := hkept _ _ _ hread _ hgives
    obtain rfl := List.mem_singleton.1 hg
    refine hsame (Set.mem_insert _ _) ?_ ⟨rfl, rfl⟩
    rw [hkey]
    exact Set.mem_insert _ _

/-- One thing is said of two places, between which a bar changes sides. -/
def barredReport : RawReport :=
  twoFailures
    "\"description\":\"x\",\"location\":\x7b\"file\":\"f\",\"function\":\"g|h\",\"line\":1"
    "\"description\":\"x\",\"location\":\x7b\"file\":\"f|g\",\"function\":\"h\",\"line\":1"

/-- The finding in one of the two places. -/
def barredFinding (file function property : String) : Finding :=
  .modelingError ⟨file, function, 1⟩ "x" (some property) []

theorem modelingErrors_barredReport :
    modelingErrors "harness.c" ["a", "b"] barredReport =
      .ok [barredFinding "f" "g|h" "a", barredFinding "f|g" "h" "b"] := by
  have hproperties : barredReport.properties? =
      some [("a", ⟨"x", some ⟨some "f", some "g|h", some (.number 1)⟩⟩),
        ("b", ⟨"x", some ⟨some "f|g", some "h", some (.number 1)⟩⟩)] := by
    decide +kernel
  exact (modelingErrors_eq_ok_iff (List.cons_ne_nil _ _)).2 ⟨_, [], _, hproperties, rfl, rfl, rfl⟩

/-- The two findings have the same key, and the report tells of one of them only. -/
theorem not_sameMatter_barred :
    ∃ f g : Finding, f.Built ∧ g.Built ∧ f.key = g.key ∧ f.id = g.id ∧ ¬ f.SameMatter g ∧
      barredReport.Gives "harness.c" g ∧
      readReport "harness.c" barredReport = .ok ⟨[f], none⟩ := by
  have hbuilt : ∀ file function property, (barredFinding file function property).Built :=
    fun file function property => ⟨.violated "x" (some property) [], ⟨file, function, 1⟩, rfl⟩
  have hkey : (barredFinding "f" "g|h" "a").key = (barredFinding "f|g" "h" "b").key := by decide
  have hid := (hbuilt "f" "g|h" "a").id_eq_of_key_eq (hbuilt "f|g" "h" "b") hkey
  have hfailed : barredReport.failed? = some ["a", "b"] := by decide +kernel
  refine ⟨_, _, hbuilt "f" "g|h" "a", hbuilt "f|g" "h" "b", hkey, hid, ?_, ?_, ?_⟩
  · intro hsame
    exact absurd hsame.file (by decide)
  · exact .error hfailed modelingErrors_barredReport (by simp)
  · exact readReport_of_id_eq hfailed rfl modelingErrors_barredReport (by decide +kernel) hid

end HarnessRepair
