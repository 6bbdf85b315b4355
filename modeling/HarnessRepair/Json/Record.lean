import HarnessRepair.Json.Value
import HarnessRepair.Number.Binary64
import HarnessRepair.Text.Numeral

/-!
# Reading records out of JSON

A record with known fields may be written as an object, or as an array of its
fields in the order in which they are declared.  In an object unknown members
are skipped and a known one may stand only once; an absent optional field is
empty.  In an array the fields that have a default may be left off at the end.

## Main definitions

* `Record`, `Value.record?` — the known fields of a value.
* `Record.required`, `Record.optional`, `Record.orDefault` — one field.
* `Value.text?`, `Value.variant?`, `Value.nat?`, `Value.list?`, `Value.dictionary?`, ... — plain
  values.

## Main results

* `lookup_insertEntry` — the last entry given for a key counts.
-/

namespace HarnessRepair.Json

/-! ### Plain values -/

namespace Value

/-- A text. -/
def text? : Value → Option String
  | .string s => s
  | _ => none

/-- The name of an alternative that carries nothing: a text, or an object whose only member
has that name and is `null`. -/
def variant? : Value → Option String
  | .object [(name, .null)] => name
  | v => v.text?

/-- A truth value. -/
def bool? : Value → Option Bool
  | .bool b => some b
  | _ => none

/-- A natural number below `limit`, written as an integer. -/
def nat? (limit : Nat) : Value → Option Nat
  | .number n =>
    if n.integral && !n.negative && n.digits < limit then some n.digits else none
  | _ => none

/-- A 64-bit number. -/
def word? : Value → Option Nat := nat? Text.wordLimit

/-- A 32-bit number. -/
def halfWord? : Value → Option Nat := nat? 4294967296

/-- An integer of 32 bits, negative ones included. -/
def int32? : Value → Option Int
  | .number n =>
    if !n.integral then none
    else if n.negative then
      if 0 < n.digits && n.digits ≤ 2147483648 then some (-n.digits) else none
    else if n.digits < 2147483648 then some n.digits else none
  | _ => none

/-- A floating-point number, written as an integer or not. -/
def binary64? : Value → Option Binary64
  | .number n => Binary64.ofDecimal? n.negative n.digits n.exponent
  | _ => none

/-- A value or `null`. -/
def nullable? {α : Type} (decode : Value → Option α) : Value → Option (Option α)
  | .null => some none
  | v => (decode v).map some

/-- A list of values of one kind. -/
def list? {α : Type} (decode : Value → Option α) : Value → Option (List α)
  | .array items => items.mapM decode
  | _ => none

end Value

/-! ### Dictionaries -/

/-- Adds an entry to a list in ascending order of keys, in place of one with the same key. -/
def insertEntry {α : Type} (key : String) (a : α) : List (String × α) → List (String × α)
  | [] => [(key, a)]
  | (k, b) :: rest =>
    if key < k then (key, a) :: (k, b) :: rest
    else if key = k then (key, a) :: rest
    else (k, b) :: insertEntry key a rest

/-- The last entry given for a key is the one that is found, and no other changes. -/
theorem lookup_insertEntry {α : Type} (key other : String) (a : α)
    (entries : List (String × α)) :
    (insertEntry key a entries).lookup other =
      if other = key then some a else entries.lookup other := by
  induction entries with
  | nil =>
    rw [insertEntry, List.lookup_cons, List.lookup_nil]
    by_cases h : other = key
    · rw [if_pos h, beq_iff_eq.2 h]
    · rw [if_neg h, beq_eq_false_iff_ne.2 h]
  | cons entry rest ih =>
    obtain ⟨k, b⟩ := entry
    by_cases hlt : key < k
    · rw [insertEntry, if_pos hlt, List.lookup_cons]
      by_cases h : other = key
      · rw [if_pos h, beq_iff_eq.2 h]
      · rw [if_neg h, beq_eq_false_iff_ne.2 h]
    · by_cases heq : key = k
      · subst heq
        rw [insertEntry, if_neg hlt, if_pos rfl, List.lookup_cons, List.lookup_cons]
        by_cases h : other = key
        · rw [if_pos h, beq_iff_eq.2 h]
        · rw [if_neg h, beq_eq_false_iff_ne.2 h]
      · rw [insertEntry, if_neg hlt, if_neg heq, List.lookup_cons, List.lookup_cons, ih]
        by_cases h : other = k
        · have hne : other ≠ key := fun hk => heq (hk.symm.trans h)
          rw [if_neg hne, if_neg hne, beq_iff_eq.2 h]
        · rw [beq_eq_false_iff_ne.2 h]

/-- The entries of an object in ascending order of keys; the last of a repeated key counts. -/
def Value.dictionary? {α : Type} (decode : Value → Option α) :
    Value → Option (List (String × α))
  | .object members =>
    members.foldlM
      (fun entries (k, v) => do
        let key ← k
        let a ← decode v
        return insertEntry key a entries)
      []
  | _ => none

/-! ### Records -/

/-- The known fields found in a value. -/
structure Record where
  /-- Written as an array. -/
  positional : Bool
  entries : List (String × Value)

/-- The fields of an object, given their names: each known one at most once. -/
def knownMembers (names : List String) :
    List (Literal × Value) → Option (List (String × Value))
  | [] => some []
  | (none, _) :: _ => none
  | (some k, v) :: rest => do
    let entries ← knownMembers names rest
    if names.contains k then
      if entries.any (·.1 == k) then none else some ((k, v) :: entries)
    else some entries

/-- The fields of a value, given their names in the order of declaration. -/
def Value.record? (names : List String) : Value → Option Record
  | .object members => (knownMembers names members).map (⟨false, ·⟩)
  | .array items =>
    if items.length ≤ names.length then some ⟨true, names.zip items⟩ else none
  | _ => none

namespace Record

/-- The value of a field, if it is present. -/
def find? (r : Record) (name : String) : Option Value := r.entries.lookup name

/-- A field that must be present. -/
def required {α : Type} (r : Record) (name : String) (decode : Value → Option α) : Option α :=
  (r.find? name).bind decode

/-- A field that may be absent or `null`; an array cannot leave it off. -/
def optional {α : Type} (r : Record) (name : String) (decode : Value → Option α) :
    Option (Option α) :=
  match r.find? name with
  | none => if r.positional then none else some none
  | some v => v.nullable? decode

/-- A field that may be absent or `null`, also at the end of an array. -/
def optionalOrAbsent {α : Type} (r : Record) (name : String) (decode : Value → Option α) :
    Option (Option α) :=
  match r.find? name with
  | none => some none
  | some v => v.nullable? decode

/-- A field with a default for when it is absent. -/
def orDefault {α : Type} (r : Record) (name : String) (default : α)
    (decode : Value → Option α) : Option α :=
  match r.find? name with
  | none => some default
  | some v => decode v

end Record

end HarnessRepair.Json
