import HarnessRepair.Json.Record
import Mathlib.Data.List.Nodup
import Mathlib.Data.String.Basic

/-!
# Dictionaries

An object that is read as a dictionary gives each of its keys once and in order, whatever the
order in which they are written.  So what is found under a key is what stands there.

## Main definitions

* `KeyAscending` — entries in the order of their keys, no key twice.

## Main results

* `keyAscending_of_dictionary?` — the entries of a dictionary ascend.
* `lookup_eq_some_iff_mem` — of distinct keys, every entry is found.
* `nodup_flatMap_keys`, `filter_flatMap_key` — what is made of each entry stays apart.
-/

namespace HarnessRepair.Json

variable {α β : Type}

/-! ### Distinct keys -/

section

variable {κ : Type} {entries : List (κ × α)}

theorem lookup_eq_some_iff_mem [BEq κ] [LawfulBEq κ] (h : (entries.map Prod.fst).Nodup)
    {k : κ} {a : α} : entries.lookup k = some a ↔ (k, a) ∈ entries := by
  rw [List.lookup_eq_some_iff]
  constructor
  · rintro ⟨before, after, rfl, -⟩
    exact List.mem_append_right _ List.mem_cons_self
  · intro hmem
    obtain ⟨before, after, rfl⟩ := List.append_of_mem hmem
    refine ⟨before, after, rfl, fun e he => ?_⟩
    rw [List.map_append, List.map_cons] at h
    have hne : e.1 ≠ k := fun heq => (List.disjoint_of_nodup_append h)
      (List.mem_map_of_mem he) (heq ▸ List.mem_cons_self)
    simpa using hne.symm

variable {key : β → κ} {made : κ × α → List β}

/-- Lists that are made of entries with distinct keys, and tell of which, are disjoint. -/
theorem nodup_flatMap_keys (key : β → κ) (h : (entries.map Prod.fst).Nodup)
    (hkey : ∀ e ∈ entries, ∀ b ∈ made e, key b = e.1) (heach : ∀ e ∈ entries, (made e).Nodup) :
    (entries.flatMap made).Nodup := by
  refine List.nodup_flatMap.2 ⟨heach, ?_⟩
  refine (List.pairwise_map.1 h).imp_of_mem fun he he' hne b hb hb' => hne ?_
  exact (hkey _ he b hb).symm.trans (hkey _ he' b hb')

/-- What tells of one key is what is made of its entry. -/
theorem filter_flatMap_key [DecidableEq κ] (h : (entries.map Prod.fst).Nodup)
    (hkey : ∀ e ∈ entries, ∀ b ∈ made e, key b = e.1) {k : κ} {a : α}
    (hmem : (k, a) ∈ entries) :
    (entries.flatMap made).filter (fun b => key b = k) = made (k, a) := by
  obtain ⟨before, after, rfl⟩ := List.append_of_mem hmem
  have hnone : ∀ e ∈ before ++ after, (made e).filter (fun b => key b = k) = [] := by
    intro e he
    rw [List.filter_eq_nil_iff]
    intro b hb heq
    have hkeys : (((k, a) :: (before ++ after)).map Prod.fst).Nodup :=
      (List.perm_middle.map Prod.fst).nodup_iff.1 h
    refine (List.nodup_cons.1 hkeys).1 (List.mem_map.2 ⟨e, he, ?_⟩)
    have hsub : e ∈ before ++ (k, a) :: after :=
      List.mem_append.2 ((List.mem_append.1 he).imp id (List.mem_cons_of_mem _))
    exact (hkey e hsub b hb).symm.trans (of_decide_eq_true heq)
  rw [List.filter_flatMap, List.flatMap_append, List.flatMap_cons,
    List.flatMap_eq_nil_iff.2 fun e he => hnone e (List.mem_append_left _ he),
    List.flatMap_eq_nil_iff.2 fun e he => hnone e (List.mem_append_right _ he),
    List.nil_append, List.append_nil]
  exact List.filter_eq_self.2 fun b hb => decide_eq_true (hkey _ hmem b hb)

end

/-! ### Entries in order -/

variable {entries : List (String × α)} {key : String} {a : α}

/-- The entries stand in the order of their keys, and no key stands twice. -/
def KeyAscending (entries : List (String × α)) : Prop :=
  (entries.map Prod.fst).Pairwise (· < ·)

namespace KeyAscending

theorem nodup (h : KeyAscending entries) : (entries.map Prod.fst).Nodup :=
  h.imp fun hlt => hlt.ne

theorem lookup_eq_some_iff (h : KeyAscending entries) :
    entries.lookup key = some a ↔ (key, a) ∈ entries :=
  lookup_eq_some_iff_mem h.nodup

end KeyAscending

theorem mem_of_mem_insertEntry {e : String × α} (h : e ∈ insertEntry key a entries) :
    e = (key, a) ∨ e ∈ entries := by
  induction entries with
  | nil => exact Or.inl (List.mem_singleton.1 h)
  | cons entry rest ih =>
    obtain ⟨k, b⟩ := entry
    rw [insertEntry] at h
    split at h
    · exact List.mem_cons.1 h
    · split at h
      · exact (List.mem_cons.1 h).imp id (List.mem_cons_of_mem _)
      · rcases List.mem_cons.1 h with rfl | h
        · exact Or.inr List.mem_cons_self
        · exact (ih h).imp id (List.mem_cons_of_mem _)

theorem KeyAscending.insertEntry (h : KeyAscending entries) :
    KeyAscending (insertEntry key a entries) := by
  induction entries with
  | nil => exact List.pairwise_singleton _ _
  | cons entry rest ih =>
    obtain ⟨k, b⟩ := entry
    obtain ⟨hfirst, hrest⟩ := List.pairwise_cons.1 h
    rw [Json.insertEntry]
    split
    · next hlt =>
      refine List.pairwise_cons.2 ⟨List.forall_mem_cons.2 ⟨hlt, fun k' hk' => ?_⟩, h⟩
      exact hlt.trans (hfirst k' hk')
    · next hnotlt =>
      split
      · next heq =>
        subst heq
        exact List.pairwise_cons.2 ⟨hfirst, hrest⟩
      · next hne =>
        refine List.pairwise_cons.2 ⟨fun k' hk' => ?_, ih hrest⟩
        obtain ⟨e, he, rfl⟩ := List.mem_map.1 hk'
        rcases mem_of_mem_insertEntry he with rfl | he
        · exact lt_of_le_of_ne (not_lt.1 hnotlt) fun heq => hne heq.symm
        · exact hfirst _ (List.mem_map_of_mem he)

/-- The entries of a dictionary ascend, and each has been read from some value. -/
theorem keyAscending_of_dictionary? {decode : Value → Option α} {v : Value}
    (h : v.dictionary? decode = some entries) :
    KeyAscending entries ∧ ∀ e ∈ entries, ∃ w, decode w = some e.2 := by
  cases v with
  | object members =>
    rw [Value.dictionary?] at h
    -- what has been read so far ascends
    have hascending : KeyAscending ([] : List (String × α)) := .nil
    have hread : ∀ e ∈ ([] : List (String × α)), ∃ w, decode w = some e.2 :=
      List.forall_mem_nil _
    generalize ([] : List (String × α)) = start at h hascending hread
    induction members generalizing start with
    | nil =>
      obtain rfl : start = entries := Option.some.inj h
      exact ⟨hascending, hread⟩
    | cons member members ih =>
      obtain ⟨k, v⟩ := member
      rw [List.foldlM_cons, Option.bind_eq_bind, Option.bind_eq_some_iff] at h
      obtain ⟨next, hnext, h⟩ := h
      obtain ⟨key, -, hnext⟩ := Option.bind_eq_some_iff.1 hnext
      obtain ⟨a, hdecode, hnext⟩ := Option.bind_eq_some_iff.1 hnext
      obtain rfl := Option.some.inj hnext
      refine ih _ h hascending.insertEntry fun e he => ?_
      rcases mem_of_mem_insertEntry he with rfl | he
      · exact ⟨v, hdecode⟩
      · exact hread e he
  | _ => cases h

end HarnessRepair.Json
