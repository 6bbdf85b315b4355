import HarnessRepair.Proofs.Text.Newline
import HarnessRepair.Verifier.Reading
import Mathlib.Data.List.Forall2
import Mathlib.Data.List.Induction
import Mathlib.Data.List.Nodup

/-!
# What is shown of a counterexample

A counterexample has many steps; few of them assign a variable of the harness.  Those
that do are shown, each variable with the first value that it gets.

## Main definitions

* `IsLastSegment` — what stands behind the last double colon of a scope.
* `TraceStep.Eligible`, `TraceStep.Makes` — a step that is worth showing, and its entry.
* `FirstMade` — the step at an index is the first to make an entry for its variable.

## Main results

* `lastScope_eq_iff`, `traceStep?_eq_some_iff` — what the reader of a step does.
* `harnessTrace_exact` — **a trace shows the first assignment to each variable, in order.**
-/

namespace HarnessRepair

open Text

/-! ### Scopes -/

/-- A text without a double colon. -/
def IsSegment (cs : List Char) : Prop := ¬ [':', ':'] <:+: cs

/-- The last of the segments that double colons part a scope into.  Of three colons the
last two part. -/
def IsLastSegment (scope segment : List Char) : Prop :=
  (scope = segment ∧ IsSegment segment) ∨
    ∃ front, scope = front ++ [':', ':'] ++ segment ∧ IsSegment (':' :: segment)

theorem isSegment_cons_iff {c d : Char} {cs : List Char} :
    IsSegment (c :: d :: cs) ↔ ¬ (c = ':' ∧ d = ':') ∧ IsSegment (d :: cs) := by
  rw [IsSegment, IsSegment, List.infix_cons_iff, not_or]
  refine and_congr (not_congr ?_) Iff.rfl
  rw [List.cons_prefix_cons, List.cons_prefix_cons]
  simp [eq_comm]

theorem isSegment_reverse {cs : List Char} : IsSegment cs.reverse ↔ IsSegment cs := by
  rw [IsSegment, IsSegment, ← List.reverse_infix, List.reverse_reverse]
  rfl

/-- What stands before a double colon begins as the whole text does. -/
theorem exists_append_colon_eq_cons {d : Char} {rest first tail : List Char}
    (h : d :: rest = first ++ [':', ':'] ++ tail) : ∃ more, first ++ [':'] = d :: more := by
  cases first with
  | nil =>
    obtain ⟨rfl, -⟩ := List.cons.inj h
    exact ⟨[], rfl⟩
  | cons x first =>
    obtain ⟨rfl, -⟩ := List.cons.inj h
    exact ⟨first ++ [':'], rfl⟩

/-- The text before the first double colon, or all of it. -/
theorem beforeColons_eq_iff {cs first : List Char} :
    beforeColons cs = first ↔ (cs = first ∧ IsSegment first) ∨
      ∃ rest, cs = first ++ [':', ':'] ++ rest ∧ IsSegment (first ++ [':']) := by
  have hshort : ∀ l : List Char, l.length < 2 → IsSegment l := fun l hl h =>
    absurd h.length_le (by simpa using hl)
  fun_induction beforeColons cs generalizing first with
  | case1 =>
    refine ⟨?_, ?_⟩
    · rintro rfl
      exact Or.inl ⟨rfl, hshort _ (by simp)⟩
    · rintro (⟨h, -⟩ | ⟨rest, h, -⟩)
      · exact h
      · simp at h
  | case2 c =>
    refine ⟨?_, ?_⟩
    · rintro rfl
      exact Or.inl ⟨rfl, hshort _ (by simp)⟩
    · rintro (⟨h, -⟩ | ⟨rest, h, -⟩)
      · exact h
      · have hlength := congrArg List.length h
        simp at hlength
        omega
  | case3 c d rest h =>
    refine ⟨?_, ?_⟩
    · rintro rfl
      obtain ⟨rfl, rfl⟩ := h
      exact Or.inr ⟨rest, rfl, hshort _ (by simp)⟩
    · rintro (⟨rfl, hsegment⟩ | ⟨tail, heq, hsegment⟩)
      · exact absurd h (isSegment_cons_iff.1 hsegment).1
      · -- a longer text before the colons would hold those at the front
        cases first with
        | nil => rfl
        | cons x first =>
          obtain ⟨rfl, htail⟩ := List.cons.inj heq
          obtain ⟨more, hmore⟩ := exists_append_colon_eq_cons htail
          rw [List.cons_append, hmore, isSegment_cons_iff] at hsegment
          exact absurd h hsegment.1
  | case4 c d rest h ih =>
    cases first with
    | nil =>
      refine ⟨fun heq => absurd heq (List.cons_ne_nil _ _), ?_⟩
      rintro (⟨heq, -⟩ | ⟨tail, heq, -⟩)
      · exact absurd heq (List.cons_ne_nil _ _)
      · obtain ⟨hc, heq⟩ := List.cons.inj heq
        exact absurd ⟨hc, (List.cons.inj heq).1⟩ h
    | cons x first =>
      refine List.cons_eq_cons.trans ((and_congr Iff.rfl ih).trans ?_)
      constructor
      · rintro ⟨rfl, ⟨rfl, hsegment⟩ | ⟨tail, heq, hsegment⟩⟩
        · exact Or.inl ⟨rfl, isSegment_cons_iff.2 ⟨h, hsegment⟩⟩
        · obtain ⟨more, hmore⟩ := exists_append_colon_eq_cons heq
          refine Or.inr ⟨tail, congrArg (List.cons c) heq, ?_⟩
          rw [hmore] at hsegment
          rw [List.cons_append, hmore]
          exact isSegment_cons_iff.2 ⟨h, hsegment⟩
      · rintro (⟨heq, hsegment⟩ | ⟨tail, heq, hsegment⟩)
        · obtain ⟨rfl, rfl⟩ := List.cons.inj heq
          exact ⟨rfl, Or.inl ⟨rfl, (isSegment_cons_iff.1 hsegment).2⟩⟩
        · obtain ⟨rfl, htail⟩ := List.cons.inj heq
          obtain ⟨more, hmore⟩ := exists_append_colon_eq_cons htail
          rw [List.cons_append, hmore] at hsegment
          refine ⟨rfl, Or.inr ⟨tail, htail, ?_⟩⟩
          rw [hmore]
          exact (isSegment_cons_iff.1 hsegment).2

/-- The last segment is the first one of the text read backwards. -/
theorem lastScope_eq_iff {scope segment : List Char} :
    lastScope scope = segment ↔ IsLastSegment scope segment := by
  rw [lastScope, List.reverse_eq_iff, beforeColons_eq_iff, IsLastSegment, isSegment_reverse,
    List.reverse_inj, ← List.reverse_cons, isSegment_reverse]
  refine or_congr Iff.rfl ⟨?_, ?_⟩
  · rintro ⟨rest, h, hsegment⟩
    refine ⟨rest.reverse, ?_, hsegment⟩
    rw [List.reverse_eq_iff.1 h]
    simp
  · rintro ⟨front, rfl, hsegment⟩
    exact ⟨front.reverse, by simp, hsegment⟩

/-! ### Steps -/

namespace TraceStep

/-- A step assigns a variable that is worth showing. -/
structure Eligible (harnessFile : String) (step : TraceStep) (detail : Assignment) : Prop where
  kind_eq : step.kind = "variable-assignment"
  detail_eq : step.detail = some detail
  /-- It is at global scope, or in a file that is named as the harness is. -/
  place : step.position.function = none ∨ ∃ file name, step.position.file = some file ∧
    Path.fileName? file = some name ∧ Path.fileName? harnessFile = some name
  not_malloc : step.position.function ≠ some "malloc"
  not_memcpy : step.position.function ≠ some "memcpy"
  not_helper : ∀ segment, IsLastSegment detail.scope.toList segment →
    ¬ "tmp_if_expr".toList <+: segment
  not_returned : ¬ "return_value".toList <:+: detail.lhs.toList

/-- The entry of an assignment: its function, its variable and the value without the blanks
around it. -/
def entry (step : TraceStep) (detail : Assignment) : TraceEntry :=
  ⟨step.position.function.getD "global", addressOf detail.lhs, addressOf (trim detail.value)⟩

/-- A step is worth showing, and this is its entry. -/
def Makes (harnessFile : String) (step : TraceStep) (e : TraceEntry) : Prop :=
  ∃ detail, step.Eligible harnessFile detail ∧ step.entry detail = e

end TraceStep

theorem sameFileName_eq_true_iff {p q : String} : sameFileName p q = true ↔
    ∃ name, Path.fileName? p = some name ∧ Path.fileName? q = some name := by
  rw [sameFileName]
  cases Path.fileName? p with
  | none => simp
  | some a =>
    cases Path.fileName? q with
    | none => simp
    | some b => exact ⟨fun h => ⟨a, rfl, congrArg some (beq_iff_eq.1 h).symm⟩,
        fun ⟨name, ha, hb⟩ => beq_iff_eq.2 (Option.some.inj (ha.trans hb.symm))⟩

theorem isSome_stripPrefix?_iff {start cs : List Char} :
    (stripPrefix? start cs).isSome = true ↔ start <+: cs := by
  rw [Option.isSome_iff_exists]
  exact exists_congr fun rest => stripPrefix?_eq_some_iff.trans eq_comm

variable {harnessFile : String} {step : TraceStep} {detail : Assignment} {e : TraceEntry}

theorem isShown_eq_true_iff (hdetail : step.detail = some detail) :
    isShown harnessFile step detail = true ↔ step.Eligible harnessFile detail := by
  have hplace : (step.position.function.isNone || (step.position.file.map fun file =>
      sameFileName file harnessFile).getD false) = true ↔ step.position.function = none ∨
        ∃ file name, step.position.file = some file ∧ Path.fileName? file = some name ∧
          Path.fileName? harnessFile = some name := by
    rw [Bool.or_eq_true, Option.isNone_iff_eq_none]
    cases step.position.file with
    | none => simp
    | some file => simp [sameFileName_eq_true_iff]
  have hhelper : (stripPrefix? "tmp_if_expr".toList (lastScope detail.scope.toList)).isSome =
      true ↔ ∃ segment, IsLastSegment detail.scope.toList segment ∧
        "tmp_if_expr".toList <+: segment := by
    rw [isSome_stripPrefix?_iff]
    simp [← lastScope_eq_iff]
  have hreturned : contains detail.lhs "return_value" = true ↔
      "return_value".toList <:+: detail.lhs.toList := Text.occurs_eq_true_iff
  simp only [isShown, Bool.and_eq_true, hplace, Bool.not_eq_true', ← Bool.not_eq_true, hhelper,
    hreturned, beq_iff_eq, Bool.or_eq_true, not_or, not_exists, not_and]
  constructor
  · rintro ⟨⟨⟨⟨hkind, hin⟩, hmalloc, hmemcpy⟩, hnothelper⟩, hnotreturned⟩
    exact ⟨hkind, hdetail, hin, hmalloc, hmemcpy, hnothelper, hnotreturned⟩
  · rintro ⟨hkind, -, hin, hmalloc, hmemcpy, hnothelper, hnotreturned⟩
    exact ⟨⟨⟨⟨hkind, hin⟩, hmalloc, hmemcpy⟩, hnothelper⟩, hnotreturned⟩

/-- The entries that steps make. -/
theorem traceStep?_eq_some_iff :
    traceStep? harnessFile step = some e ↔ step.Makes harnessFile e := by
  rw [traceStep?, Option.bind_eq_some_iff]
  constructor
  · rintro ⟨detail, hdetail, h⟩
    split at h
    · next hshown =>
      exact ⟨detail, (isShown_eq_true_iff hdetail).1 hshown, Option.some.inj h⟩
    · cases h
  · rintro ⟨detail, heligible, rfl⟩
    refine ⟨detail, heligible.detail_eq, ?_⟩
    rw [if_pos ((isShown_eq_true_iff heligible.detail_eq).2 heligible)]
    rfl

/-! ### Traces -/

/-- What an entry tells of: a variable in a function. -/
def TraceEntry.target (e : TraceEntry) : String × String := (e.scope, e.variableName)

/-- The step at an index makes an entry, and no step before it makes one for the same
variable. -/
structure FirstMade (harnessFile : String) (steps : List TraceStep) (i : Nat)
    (e : TraceEntry) : Prop where
  made : ∃ step, steps[i]? = some step ∧ step.Makes harnessFile e
  first : ∀ j < i, ∀ step e', steps[j]? = some step → step.Makes harnessFile e' →
    e'.target ≠ e.target

variable {steps more : List TraceStep} {i : Nat}

theorem FirstMade.lt_length (h : FirstMade harnessFile steps i e) : i < steps.length := by
  obtain ⟨step, hstep, -⟩ := h.made
  exact (List.getElem?_eq_some_iff.1 hstep).1

/-- Whether a step is the first is up to the steps before it. -/
theorem firstMade_append_iff (hi : i < steps.length) :
    FirstMade harnessFile (steps ++ more) i e ↔ FirstMade harnessFile steps i e := by
  have hleft : ∀ j ≤ i, (steps ++ more)[j]? = steps[j]? := fun j hj =>
    List.getElem?_append_left (Nat.lt_of_le_of_lt hj hi)
  constructor
  · rintro ⟨hmade, hfirst⟩
    rw [hleft i (Nat.le_refl i)] at hmade
    refine ⟨hmade, fun j hj step e' hstep => hfirst j hj step e' ?_⟩
    exact (hleft j (Nat.le_of_lt hj)).trans hstep
  · rintro ⟨hmade, hfirst⟩
    rw [← hleft i (Nat.le_refl i)] at hmade
    refine ⟨hmade, fun j hj step e' hstep => hfirst j hj step e' ?_⟩
    exact (hleft j (Nat.le_of_lt hj)).symm.trans hstep

/-- The last step is the first to make its entry if no step before it makes one for the
same variable. -/
theorem firstMade_length_iff : FirstMade harnessFile (steps ++ [step]) steps.length e ↔
    step.Makes harnessFile e ∧
      ∀ s ∈ steps, ∀ e', s.Makes harnessFile e' → e'.target ≠ e.target := by
  constructor
  · rintro ⟨⟨s, hs, hmakes⟩, hfirst⟩
    rw [List.getElem?_concat_length] at hs
    obtain rfl := Option.some.inj hs
    refine ⟨hmakes, fun s hmem e' => ?_⟩
    obtain ⟨j, hj, rfl⟩ := List.mem_iff_getElem.1 hmem
    refine hfirst j hj _ e' ?_
    rw [List.getElem?_append_left hj, List.getElem?_eq_getElem hj]
  · rintro ⟨hmakes, hfirst⟩
    refine ⟨⟨step, List.getElem?_concat_length, hmakes⟩, fun j hj s e' hs => ?_⟩
    rw [List.getElem?_append_left hj] at hs
    exact hfirst s (List.mem_of_getElem? hs) e'

/-- Some entries tell of a counterexample.  They are made at places, in order, and the places
are exactly those of the steps that are the first to make an entry for their variable. -/
structure Shows (harnessFile : String) (steps : List TraceStep) (places : List Nat)
    (entries : List TraceEntry) : Prop where
  ascending : places.Pairwise (· < ·)
  mem_iff : ∀ i, i ∈ places ↔ ∃ e, FirstMade harnessFile steps i e
  made : List.Forall₂ (FirstMade harnessFile steps) places entries
  /-- Every variable that some step assigns is told, -/
  told : ∀ s ∈ steps, ∀ e, s.Makes harnessFile e → e.target ∈ entries.map TraceEntry.target
  /-- and none is told twice. -/
  nodup : (entries.map TraceEntry.target).Nodup

theorem addEntry_eq (entries : List TraceEntry) (e : TraceEntry) :
    addEntry entries e = if e.target ∈ entries.map TraceEntry.target then entries
      else entries ++ [e] := by
  have hiff : (entries.any fun f => f.scope == e.scope && f.variableName == e.variableName) =
      true ↔ e.target ∈ entries.map TraceEntry.target := by
    rw [List.any_eq_true, List.mem_map]
    refine exists_congr fun f => and_congr Iff.rfl ?_
    rw [Bool.and_eq_true, beq_iff_eq, beq_iff_eq, TraceEntry.target, TraceEntry.target,
      Prod.mk.injEq]
  rw [addEntry]
  simp only [hiff]

theorem isPrefix_addEntry (entries : List TraceEntry) (e : TraceEntry) :
    entries <+: addEntry entries e := by
  rw [addEntry_eq]
  split
  · exact List.prefix_rfl
  · exact List.prefix_append _ _

theorem isPrefix_foldl_addEntry (entries new : List TraceEntry) :
    entries <+: new.foldl addEntry entries := by
  induction new generalizing entries with
  | nil => exact List.prefix_rfl
  | cons e new ih => exact (isPrefix_addEntry entries e).trans (ih _)

theorem harnessTrace_append (harnessFile : String) (steps more : List TraceStep) :
    harnessTrace harnessFile (steps ++ more) =
      (more.filterMap (traceStep? harnessFile)).foldl addEntry
        (harnessTrace harnessFile steps) := by
  rw [harnessTrace, List.filterMap_append, List.foldl_append]
  rfl

namespace Shows

variable {places : List Nat} {entries : List TraceEntry}

/-- A variable is told exactly if a step assigns it. -/
theorem mem_target_iff (h : Shows harnessFile steps places entries) {t : String × String} :
    t ∈ entries.map TraceEntry.target ↔
      ∃ s ∈ steps, ∃ e, s.Makes harnessFile e ∧ e.target = t := by
  constructor
  · intro ht
    obtain ⟨e, he, rfl⟩ := List.mem_map.1 ht
    obtain ⟨k, hk, rfl⟩ := List.mem_iff_getElem.1 he
    have hplaces : k < places.length := by rwa [h.made.length_eq]
    obtain ⟨s, hs, hmakes⟩ := (h.made.get hplaces hk).made
    exact ⟨s, List.mem_of_getElem? hs, _, hmakes, rfl⟩
  · rintro ⟨s, hs, e, hmakes, rfl⟩
    exact h.told s hs e hmakes

/-- A step that is not the first to make its entry adds nothing. -/
theorem skip (h : Shows harnessFile steps places entries)
    (hnone : ∀ e, ¬ FirstMade harnessFile (steps ++ [step]) steps.length e) :
    Shows harnessFile (steps ++ [step]) places entries where
  ascending := h.ascending
  mem_iff i := by
    rw [h.mem_iff]
    refine exists_congr fun e => ⟨fun hfirst => (firstMade_append_iff hfirst.lt_length).2 hfirst,
      fun hfirst => ?_⟩
    have hlt := hfirst.lt_length
    rw [List.length_append, List.length_singleton, Nat.lt_succ_iff_lt_or_eq] at hlt
    rcases hlt with hlt | rfl
    · exact (firstMade_append_iff hlt).1 hfirst
    · exact absurd hfirst (hnone e)
  made := h.made.imp fun _ _ hfirst => (firstMade_append_iff hfirst.lt_length).2 hfirst
  told s hs e hmakes := by
    rcases List.mem_append.1 hs with hs | hs
    · exact h.told s hs e hmakes
    · obtain rfl := List.mem_singleton.1 hs
      -- what it would be the first to make is made before it
      by_contra hnew
      refine hnone e (firstMade_length_iff.2 ⟨hmakes, fun s' hs' e' hmakes' heq => hnew ?_⟩)
      exact heq ▸ h.told s' hs' e' hmakes'
  nodup := h.nodup

/-- A step that is the first to make its entry adds it. -/
theorem concat (h : Shows harnessFile steps places entries)
    (hfirst : FirstMade harnessFile (steps ++ [step]) steps.length e) :
    Shows harnessFile (steps ++ [step]) (places ++ [steps.length]) (entries ++ [e]) where
  ascending := by
    refine List.pairwise_append.2 ⟨h.ascending, List.pairwise_singleton _ _, fun i hi j hj => ?_⟩
    obtain ⟨e', he'⟩ := (h.mem_iff i).1 hi
    rw [List.mem_singleton.1 hj]
    exact he'.lt_length
  mem_iff i := by
    rw [List.mem_append, List.mem_singleton, h.mem_iff]
    constructor
    · rintro (⟨e', he'⟩ | rfl)
      · exact ⟨e', (firstMade_append_iff he'.lt_length).2 he'⟩
      · exact ⟨e, hfirst⟩
    · rintro ⟨e', he'⟩
      have hlt := he'.lt_length
      rw [List.length_append, List.length_singleton, Nat.lt_succ_iff_lt_or_eq] at hlt
      exact hlt.imp (fun hlt => ⟨e', (firstMade_append_iff hlt).1 he'⟩) id
  made := by
    refine List.rel_append (h.made.imp fun _ _ h' => ?_) (.cons hfirst .nil)
    exact (firstMade_append_iff h'.lt_length).2 h'
  told s hs e' hmakes := by
    rw [List.map_append, List.mem_append]
    rcases List.mem_append.1 hs with hs | hs
    · exact Or.inl (h.told s hs e' hmakes)
    · obtain rfl := List.mem_singleton.1 hs
      obtain ⟨detail, heligible, rfl⟩ := hmakes
      obtain ⟨⟨detail', heligible', rfl⟩, -⟩ := firstMade_length_iff.1 hfirst
      obtain rfl := Option.some.inj (heligible.detail_eq.symm.trans heligible'.detail_eq)
      exact Or.inr (List.mem_singleton_self _)
  nodup := by
    rw [List.map_append, List.map_singleton]
    refine h.nodup.append (List.nodup_singleton _) (List.disjoint_singleton.2 ?_)
    rw [h.mem_target_iff]
    rintro ⟨s, hs, e', hmakes, heq⟩
    exact (firstMade_length_iff.1 hfirst).2 s hs e' hmakes heq

end Shows

/-- One step after the other, the entries show the steps so far. -/
theorem exists_shows_harnessTrace (harnessFile : String) (steps : List TraceStep) :
    ∃ places, Shows harnessFile steps places (harnessTrace harnessFile steps) := by
  induction steps using List.reverseRecOn with
  | nil =>
    refine ⟨[], List.Pairwise.nil, fun i => ?_, .nil, List.forall_mem_nil _, List.nodup_nil⟩
    simpa using fun e (h : FirstMade harnessFile [] i e) => Nat.not_lt_zero i h.lt_length
  | append_singleton steps step ih =>
    obtain ⟨places, h⟩ := ih
    rw [harnessTrace_append]
    cases hstep : traceStep? harnessFile step with
    | none =>
      rw [List.filterMap_cons_none hstep]
      refine ⟨places, h.skip fun e hfirst => ?_⟩
      rw [traceStep?_eq_some_iff.2 (firstMade_length_iff.1 hfirst).1] at hstep
      cases hstep
    | some e =>
      rw [List.filterMap_cons_some hstep, List.filterMap_nil, List.foldl_cons, List.foldl_nil,
        addEntry_eq]
      have hmakes := traceStep?_eq_some_iff.1 hstep
      split
      · next htold =>
        obtain ⟨s, hs, e', hmakes', heq⟩ := h.mem_target_iff.1 htold
        refine ⟨places, h.skip fun f hfirst => ?_⟩
        obtain ⟨hmade, hnone⟩ := firstMade_length_iff.1 hfirst
        obtain rfl : e = f :=
          Option.some.inj (hstep.symm.trans (traceStep?_eq_some_iff.2 hmade))
        exact hnone s hs e' hmakes' heq
      · next hnew =>
        refine ⟨_, h.concat (firstMade_length_iff.2 ⟨hmakes, fun s hs e' hmakes' heq => ?_⟩)⟩
        exact hnew (heq ▸ h.told s hs e' hmakes')

/-- **A trace shows the first assignment to each variable, in order.**  Its entries are, one by
one and in their order, those of the steps that are worth showing and are the first to assign
their variable in their function; none else and none twice.  Further steps add to a trace and
leave what is there. -/
theorem harnessTrace_exact (harnessFile : String) (steps more : List TraceStep) :
    (∃ places, Shows harnessFile steps places (harnessTrace harnessFile steps)) ∧
      harnessTrace harnessFile steps <+: harnessTrace harnessFile (steps ++ more) := by
  refine ⟨exists_shows_harnessTrace harnessFile steps, ?_⟩
  rw [harnessTrace_append]
  exact isPrefix_foldl_addEntry _ _

end HarnessRepair
