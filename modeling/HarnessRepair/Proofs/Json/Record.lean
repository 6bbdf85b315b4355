import HarnessRepair.Json.Record
import HarnessRepair.Verifier.Document
import Mathlib.Data.List.Basic
import Mathlib.Data.List.Forall2

/-!
# Records

What a document says of a field is stated without the reader of records: an object
has a member of that name, once, or an array holds the value alone.  The reader is
then shown to find just that.  A record with several fields is read off an object exactly
when all members have names and none of the fields stands there twice, and a field is then
what stands under its name.

## Main definitions

* `Value.HasField`, `Value.LacksField` — a record with its one field, and without it.
* `valuesOf` — the values that stand under a name.
* `WellNamed` — each member has a name, and a known name is given once.

## Main results

* `knownMembers_single` — which members of an object are known.
* `exists_record?_iff`, `exists_record?_none_iff` — what is found of the field.
* `wrapped?_eq_some_iff`, `orDefault_eq_some_iff` — a field that must, and one that need
  not be there.
* `exists_knownMembers_iff`, `lookup_knownMembers` — **which objects are read, and what is
  found in them.**
* `mapM_eq_some_iff` — what a list of values is read as.
-/

namespace HarnessRepair

namespace Json

namespace Value

/-- A record with a value of its one field. -/
inductive HasField (name : String) : Value → Value → Prop where
  | member {members : List (Literal × Value)} {v : Value}
      (named : ∀ m ∈ members, m.1.isSome)
      (once : members.filter (fun m => m.1 == some name) = [(some name, v)]) :
      HasField name (.object members) v
  | item (v : Value) : HasField name (.array [v]) v

/-- A record without its one field. -/
inductive LacksField (name : String) : Value → Prop where
  | object {members : List (Literal × Value)}
      (named : ∀ m ∈ members, m.1.isSome)
      (absent : ∀ m ∈ members, m.1 ≠ some name) :
      LacksField name (.object members)
  | array : LacksField name (.array [])

end Value

section

variable {name : String} {v w : Value}

/-- A member of another name is skipped. -/
theorem knownMembers_other {key : String} {members : List (Literal × Value)} (h : key ≠ name) :
    knownMembers [name] ((some key, v) :: members) = knownMembers [name] members := by
  cases hrest : knownMembers [name] members <;> simp [knownMembers, hrest, h]

/-- The known members have the name that is asked for. -/
theorem key_of_mem_knownMembers {members : List (Literal × Value)}
    {entries : List (String × Value)} (h : knownMembers [name] members = some entries)
    {e : String × Value} (he : e ∈ entries) : e.1 = name := by
  induction members generalizing entries with
  | nil =>
    obtain rfl := Option.some.inj h
    cases he
  | cons m members ih =>
    obtain ⟨_ | key, value⟩ := m
    · cases h
    · by_cases hkey : key = name
      · rw [knownMembers, Option.bind_eq_bind, Option.bind_eq_some_iff] at h
        obtain ⟨rest, hrest, h⟩ := h
        rw [if_pos (by simp [hkey])] at h
        split at h
        · cases h
        · obtain rfl := Option.some.inj h
          rcases List.mem_cons.1 he with rfl | he
          · exact hkey
          · exact ih hrest he
      · rw [knownMembers_other hkey] at h
        exact ih h he

/-- A member of the name is known if none behind it has that name. -/
theorem knownMembers_same {members : List (Literal × Value)} {entries : List (String × Value)} :
    knownMembers [name] ((some name, v) :: members) = some entries ↔
      knownMembers [name] members = some [] ∧ entries = [(name, v)] := by
  cases hrest : knownMembers [name] members with
  | none => simp [knownMembers, hrest]
  | some rest =>
    cases rest with
    | nil =>
      have hread : knownMembers [name] ((some name, v) :: members) = some [(name, v)] := by
        simp [knownMembers, hrest]
      rw [hread, Option.some.injEq]
      exact ⟨fun h => ⟨rfl, h.symm⟩, fun h => h.2.symm⟩
    | cons e rest =>
      have hkey : e.1 = name := key_of_mem_knownMembers hrest List.mem_cons_self
      simp [knownMembers, hrest, hkey]

/-- An object is read if all its members have names, and at most one has the name that is
asked for; that one is found. -/
theorem knownMembers_single {members : List (Literal × Value)} {entries : List (String × Value)} :
    knownMembers [name] members = some entries ↔
      (∀ m ∈ members, m.1.isSome) ∧ entries.length ≤ 1 ∧
        members.filter (fun m => m.1 == some name) = entries.map fun e => (some e.1, e.2) := by
  induction members generalizing entries with
  | nil => cases entries <;> simp [knownMembers]
  | cons m members ih =>
    obtain ⟨_ | key, value⟩ := m
    · simp [knownMembers]
    · rw [List.forall_mem_cons]
      by_cases hkey : key = name
      · subst hkey
        rw [knownMembers_same, ih, List.filter_cons_of_pos (by simp)]
        constructor
        · rintro ⟨⟨hnamed, -, hnone⟩, rfl⟩
          exact ⟨⟨rfl, hnamed⟩, Nat.le_refl 1, by rw [hnone]; rfl⟩
        · rintro ⟨⟨-, hnamed⟩, hlength, hfilter⟩
          obtain - | ⟨⟨k, w⟩, rest⟩ := entries
          · cases hfilter
          · obtain rfl : rest = [] := List.length_eq_zero_iff.1 (by simpa using hlength)
            obtain ⟨hhead, hnone⟩ := List.cons.inj hfilter
            obtain ⟨hname, rfl⟩ := Prod.mk.inj hhead
            obtain rfl := Option.some.inj hname
            exact ⟨⟨hnamed, Nat.zero_le 1, hnone⟩, rfl⟩
      · rw [knownMembers_other hkey, ih, List.filter_cons_of_neg (by simpa using hkey)]
        simp

/-- The field is found in a record that has it. -/
theorem exists_record?_iff :
    (∃ r, v.record? [name] = some r ∧ r.find? name = some w) ↔ v.HasField name w := by
  constructor
  · rintro ⟨r, hread, hfind⟩
    cases v with
    | object members =>
      obtain ⟨entries, hentries, rfl⟩ := Option.map_eq_some_iff.1 hread
      obtain ⟨hnamed, hlength, hfilter⟩ := knownMembers_single.1 hentries
      obtain - | ⟨⟨key, value⟩, rest⟩ := entries
      · cases hfind
      · obtain rfl : rest = [] := List.length_eq_zero_iff.1 (by simpa using hlength)
        obtain rfl : key = name := key_of_mem_knownMembers hentries List.mem_cons_self
        obtain rfl : value = w := by simpa [Record.find?] using hfind
        exact .member hnamed hfilter
    | array items =>
      rw [Value.record?] at hread
      split at hread
      · next hlength =>
        obtain rfl := Option.some.inj hread
        match items, hlength, hfind with
        | [value], _, hfind =>
          obtain rfl : value = w := by simpa [Record.find?] using hfind
          exact .item value
      · cases hread
    | _ => cases hread
  · intro h
    cases h with
    | member hnamed hfilter =>
      have hread : knownMembers [name] _ = some [(name, w)] :=
        knownMembers_single.2 ⟨hnamed, Nat.le_refl 1, hfilter⟩
      refine ⟨⟨false, [(name, w)]⟩, ?_, by simp [Record.find?]⟩
      rw [Value.record?, hread]
      rfl
    | item => exact ⟨⟨true, [(name, w)]⟩, rfl, by simp [Record.find?]⟩

/-- The field is not found in a record that lacks it. -/
theorem exists_record?_none_iff :
    (∃ r, v.record? [name] = some r ∧ r.find? name = none) ↔ v.LacksField name := by
  constructor
  · rintro ⟨r, hread, hfind⟩
    cases v with
    | object members =>
      obtain ⟨entries, hentries, rfl⟩ := Option.map_eq_some_iff.1 hread
      obtain ⟨hnamed, -, hfilter⟩ := knownMembers_single.1 hentries
      refine .object hnamed fun m hm hname => ?_
      -- a member of the name would be an entry, and be found
      have hmem : m ∈ entries.map fun e => ((some e.1 : Literal), e.2) := by
        rw [← hfilter]
        exact List.mem_filter.2 ⟨hm, by simp [hname]⟩
      obtain ⟨e, he, rfl⟩ := List.mem_map.1 hmem
      obtain rfl := Option.some.inj hname
      have hnone := List.lookup_eq_none_iff.1 hfind e he
      simp at hnone
    | array items =>
      rw [Value.record?] at hread
      split at hread
      · next hlength =>
        obtain rfl := Option.some.inj hread
        match items, hlength, hfind with
        | [], _, _ => exact .array
        | [value], _, hfind => simp [Record.find?] at hfind
      · cases hread
    | _ => cases hread
  · intro h
    cases h with
    | @object members hnamed habsent =>
      have hnone : members.filter (fun m => m.1 == some name) = [] :=
        List.filter_eq_nil_iff.2 fun m hm => by simpa using habsent m hm
      have hread : knownMembers [name] members = some [] :=
        knownMembers_single.2 ⟨hnamed, Nat.zero_le 1, hnone⟩
      refine ⟨⟨false, []⟩, ?_, rfl⟩
      rw [Value.record?, hread]
      rfl
    | array => exact ⟨⟨true, []⟩, rfl, rfl⟩

/-- A field with a default is as the record has it, or else the default. -/
theorem orDefault_eq_some_iff {α : Type} {default a : α} {decode : Value → Option α} :
    (∃ r, v.record? [name] = some r ∧ r.orDefault name default decode = some a) ↔
      (v.LacksField name ∧ default = a) ∨ ∃ w, v.HasField name w ∧ decode w = some a := by
  simp only [← exists_record?_iff, ← exists_record?_none_iff]
  constructor
  · rintro ⟨r, hread, hfield⟩
    rw [Record.orDefault] at hfield
    cases hfind : r.find? name with
    | none =>
      rw [hfind] at hfield
      exact Or.inl ⟨⟨r, hread, hfind⟩, Option.some.inj hfield⟩
    | some w =>
      rw [hfind] at hfield
      exact Or.inr ⟨w, ⟨r, hread, hfind⟩, hfield⟩
  · rintro (⟨⟨r, hread, hfind⟩, rfl⟩ | ⟨w, ⟨r, hread, hfind⟩, hdecode⟩)
    · exact ⟨r, hread, by rw [Record.orDefault, hfind]⟩
    · exact ⟨r, hread, by rw [Record.orDefault, hfind]; exact hdecode⟩

/-- The texts of a list of texts are what the list is made of. -/
theorem list?_text?_eq_some_iff {ss : List String} :
    v.list? Value.text? = some ss ↔ v = .ofTexts ss := by
  constructor
  · intro h
    cases v with
    | array items =>
      rw [Value.list?] at h
      suffices hitems : items = ss.map Value.ofText by rw [hitems, Value.ofTexts]
      induction items generalizing ss with
      | nil =>
        obtain rfl : [] = ss := by simpa using h
        rfl
      | cons item items ih =>
        rw [List.mapM_cons, Option.bind_eq_bind, Option.bind_eq_some_iff] at h
        obtain ⟨s, hs, hrest⟩ := h
        rw [Option.bind_eq_bind, Option.bind_eq_some_iff] at hrest
        obtain ⟨rest, hrest, hcons⟩ := hrest
        obtain rfl : s :: rest = ss := Option.some.inj hcons
        have hitem : item = .ofText s := by
          cases item with
          | string text =>
            rw [Value.ofText, show text = some s from hs]
          | _ => cases hs
        rw [hitem, ih hrest, List.map_cons]
    | _ => cases h
  · rintro rfl
    rw [Value.ofTexts, Value.list?]
    induction ss with
    | nil => rfl
    | cons s ss ih =>
      rw [List.map_cons, List.mapM_cons, ih]
      rfl

end

end Json

open Json

/-- A wrapped value is the one behind the field. -/
theorem wrapped?_eq_some_iff {α : Type} {name : String} {decode : Value → Option α} {v : Value}
    {a : α} : wrapped? name decode v = some a ↔ ∃ w, v.HasField name w ∧ decode w = some a := by
  simp only [← exists_record?_iff]
  rw [wrapped?, Option.bind_eq_bind, Option.bind_eq_some_iff]
  constructor
  · rintro ⟨r, hread, hfield⟩
    obtain ⟨w, hfind, hdecode⟩ := Option.bind_eq_some_iff.1 hfield
    exact ⟨w, ⟨r, hread, hfind⟩, hdecode⟩
  · rintro ⟨w, ⟨r, hread, hfind⟩, hdecode⟩
    exact ⟨r, hread, Option.bind_eq_some_iff.2 ⟨w, hfind, hdecode⟩⟩

/-! ### Members of objects -/

namespace Json

/-- The values that stand under a name, in order. -/
def valuesOf (name : String) (members : List (Literal × Value)) : List Value :=
  (members.filter fun m => m.1 == some name).map (·.2)

/-- Each member has a name, and none of the given names stands twice. -/
structure WellNamed (names : List String) (members : List (Literal × Value)) : Prop where
  named : ∀ m ∈ members, m.1.isSome
  once : ∀ name ∈ names, (valuesOf name members).length ≤ 1

section

variable {names : List String} {name : String} {members : List (Literal × Value)}

@[simp] theorem valuesOf_nil (name : String) : valuesOf name [] = [] := rfl

theorem valuesOf_cons (name : String) (m : Literal × Value) (members : List (Literal × Value)) :
    valuesOf name (m :: members) =
      if m.1 = some name then m.2 :: valuesOf name members else valuesOf name members := by
  by_cases h : m.1 = some name
  · rw [if_pos h, valuesOf, List.filter_cons_of_pos (by simpa using h), List.map_cons, valuesOf]
  · rw [if_neg h, valuesOf, List.filter_cons_of_neg (by simpa using h), valuesOf]

/-- A member with a known name is an entry unless there is one already, any other is skipped. -/
theorem knownMembers_cons_eq_some_iff {key : String} {v : Value}
    {entries : List (String × Value)} :
    knownMembers names ((some key, v) :: members) = some entries ↔
      ∃ rest, knownMembers names members = some rest ∧
        if key ∈ names then rest.lookup key = none ∧ entries = (key, v) :: rest
        else entries = rest := by
  rw [knownMembers, Option.bind_eq_bind, Option.bind_eq_some_iff]
  refine exists_congr fun rest => and_congr_right fun _ => ?_
  by_cases hkey : key ∈ names
  · rw [if_pos (List.contains_iff_mem.2 hkey), if_pos hkey]
    by_cases hany : rest.any (·.1 == key) = true
    · obtain ⟨e, he, hname⟩ := List.any_eq_true.1 hany
      rw [if_pos hany, List.lookup_eq_none_iff]
      refine iff_of_false (fun h => nomatch h) fun h => ?_
      exact bne_iff_ne.1 (h.1 e he) (beq_iff_eq.1 hname).symm
    · rw [if_neg hany, Option.some.injEq, List.lookup_eq_none_iff, eq_comm]
      refine (and_iff_right fun e he => bne_iff_ne.2 fun heq => hany ?_).symm
      exact List.any_eq_true.2 ⟨e, he, beq_iff_eq.2 heq.symm⟩
  · rw [if_neg (mt List.contains_iff_mem.1 hkey), if_neg hkey, Option.some.injEq, eq_comm]

/-- **What is found of an object under a known name is the first value that stands there.** -/
theorem lookup_knownMembers {entries : List (String × Value)}
    (h : knownMembers names members = some entries) (hname : name ∈ names) :
    entries.lookup name = (valuesOf name members).head? := by
  induction members generalizing entries with
  | nil =>
    obtain rfl := Option.some.inj h
    rfl
  | cons m members ih =>
    obtain ⟨_ | key, v⟩ := m
    · cases h
    · obtain ⟨rest, hrest, hentries⟩ := knownMembers_cons_eq_some_iff.1 h
      rw [valuesOf_cons]
      by_cases hkey : key = name
      · subst hkey
        rw [if_pos hname] at hentries
        rw [hentries.2, if_pos rfl, List.lookup_cons_self, List.head?_cons]
      · have hother : entries.lookup name = rest.lookup name := by
          split at hentries
          · rw [hentries.2, List.lookup_cons, beq_eq_false_iff_ne.2 (Ne.symm hkey)]
          · rw [hentries]
        rw [if_neg fun heq => hkey (Option.some.inj heq), hother, ih hrest]

/-- Members are well named if the first has a name that, if known, none of the others has. -/
theorem wellNamed_cons_iff {m : Literal × Value} :
    WellNamed names (m :: members) ↔
      WellNamed names members ∧
        ∃ key, m.1 = some key ∧ (key ∈ names → valuesOf key members = []) := by
  constructor
  · rintro ⟨hnamed, honce⟩
    obtain ⟨key, hkey⟩ := Option.isSome_iff_exists.1 (hnamed m List.mem_cons_self)
    refine ⟨⟨fun m' hm' => hnamed m' (List.mem_cons_of_mem m hm'), fun name hname => ?_⟩, key, hkey,
      fun hknown => ?_⟩
    · refine Nat.le_trans ?_ (honce name hname)
      rw [valuesOf_cons]
      split
      · exact Nat.le_succ _
      · exact Nat.le_refl _
    · have h := honce key hknown
      rw [valuesOf_cons, if_pos hkey, List.length_cons] at h
      exact List.length_eq_zero_iff.1 (by omega)
  · rintro ⟨⟨hnamed, honce⟩, key, hkey, hfirst⟩
    refine ⟨List.forall_mem_cons.2 ⟨by rw [hkey]; rfl, hnamed⟩, fun name hname => ?_⟩
    rw [valuesOf_cons]
    by_cases heq : m.1 = some name
    · obtain rfl : key = name := Option.some.inj (hkey.symm.trans heq)
      rw [if_pos heq, hfirst hname]
      exact Nat.le_refl 1
    · rw [if_neg heq]
      exact honce name hname

/-- **An object is read exactly if its members have names and each known one stands once.** -/
theorem exists_knownMembers_iff :
    (∃ entries, knownMembers names members = some entries) ↔ WellNamed names members := by
  induction members with
  | nil => exact iff_of_true ⟨[], rfl⟩ ⟨by simp, by simp⟩
  | cons m members ih =>
    rw [wellNamed_cons_iff, ← ih]
    obtain ⟨_ | key, v⟩ := m
    · refine iff_of_false (fun ⟨_, h⟩ => nomatch h) ?_
      rintro ⟨-, key, hkey, -⟩
      cases hkey
    · constructor
      · rintro ⟨entries, h⟩
        obtain ⟨rest, hrest, hentries⟩ := knownMembers_cons_eq_some_iff.1 h
        refine ⟨⟨rest, hrest⟩, key, rfl, fun hknown => ?_⟩
        rw [if_pos hknown, lookup_knownMembers hrest hknown] at hentries
        exact List.head?_eq_none_iff.1 hentries.1
      · rintro ⟨⟨rest, hrest⟩, name, hname, hfirst⟩
        obtain rfl := Option.some.inj hname
        by_cases hknown : key ∈ names
        · refine ⟨(key, v) :: rest, knownMembers_cons_eq_some_iff.2 ⟨rest, hrest, ?_⟩⟩
          rw [if_pos hknown, lookup_knownMembers hrest hknown, hfirst hknown]
          exact ⟨rfl, rfl⟩
        · refine ⟨rest, knownMembers_cons_eq_some_iff.2 ⟨rest, hrest, ?_⟩⟩
          rw [if_neg hknown]

/-- **A well-named object is read, and each field is the first value under its name.** -/
theorem WellNamed.exists_record? (h : WellNamed names members) :
    ∃ r, (Value.object members).record? names = some r ∧ r.positional = false ∧
      ∀ name ∈ names, r.find? name = (valuesOf name members).head? := by
  obtain ⟨entries, hentries⟩ := exists_knownMembers_iff.2 h
  refine ⟨⟨false, entries⟩, ?_, rfl, fun name hname => lookup_knownMembers hentries hname⟩
  rw [Value.record?, hentries]
  rfl

end

/-! ### Lists of values -/

/-- What is made of each value of a list is made of all, or of none. -/
theorem mapM_eq_some_iff {α β : Type} {decode : α → Option β} {items : List α} {as : List β} :
    items.mapM decode = some as ↔ List.Forall₂ (fun item a => decode item = some a) items as := by
  induction items generalizing as with
  | nil =>
    rw [List.mapM_nil, List.forall₂_nil_left_iff]
    exact Option.some_inj.trans eq_comm
  | cons item items ih =>
    rw [List.mapM_cons, Option.bind_eq_bind, Option.bind_eq_some_iff]
    simp only [Option.bind_eq_bind, Option.bind_eq_some_iff, ih]
    constructor
    · rintro ⟨a, ha, rest, hrest, heq⟩
      obtain rfl := Option.some.inj heq
      exact .cons ha hrest
    · intro h
      cases h with
      | cons ha hrest => exact ⟨_, ha, _, hrest, rfl⟩

end Json

end HarnessRepair
