import HarnessRepair.Json.Record

/-!
# Members of objects

Descriptions written by hand are read leniently: a member that is absent or `null`
is not given, members that nobody asks for say nothing.

## Main definitions

* `Value.given?` — a member that is not `null`.
* `Value.field?`, `Value.optionalField?`, `Value.fieldOr?` — a member that must be
  given, that may be given, or that has a default.
-/

namespace HarnessRepair.Json.Value

/-- A member that is present and not `null`. -/
def given? (v : Value) (name : String) : Option Value :=
  match v.member? name with
  | some .null => none
  | x => x

/-- A member that must be present. -/
def field? {α : Type} (v : Value) (name : String) (decode : Value → Option α) : Option α :=
  (v.member? name).bind decode

/-- A member that may be given. -/
def optionalField? {α : Type} (v : Value) (name : String) (decode : Value → Option α) :
    Option (Option α) :=
  match v.given? name with
  | none => some none
  | some x => (decode x).map some

/-- A member with a default for when it is not given. -/
def fieldOr? {α : Type} (v : Value) (name : String) (default : α) (decode : Value → Option α) :
    Option α :=
  (v.optionalField? name decode).map fun o => o.getD default

/-- A list of texts. -/
def texts? : Value → Option (List String) := list? text?

end HarnessRepair.Json.Value
