/-!
# JSON values

A document as it was written: members keep their order and their repetitions,
numbers keep whether they were written as integers, and a string literal that
escapes half of a surrogate pair denotes no text at all.

## Main definitions

* `Number`, `Literal`, `Value` — the values.
* `Value.ofNat`, `Value.ofText`, `Value.ofObject` — building them.
* `Value.member?` — a member by name.
-/

namespace HarnessRepair.Json

/-- The number `± digits * 10 ^ exponent`. -/
structure Number where
  negative : Bool
  digits : Nat
  exponent : Int
  /-- Written without a point and without an exponent. -/
  integral : Bool
  deriving DecidableEq, Repr, Inhabited

/-- What a string literal denotes; `none` if it holds a lone surrogate. -/
abbrev Literal := Option String

/-- A JSON value. -/
inductive Value where
  | null
  | bool (b : Bool)
  | number (n : Number)
  | string (s : Literal)
  | array (items : List Value)
  | object (members : List (Literal × Value))
  deriving Repr, Inhabited

namespace Value

/-- A natural number. -/
def ofNat (n : Nat) : Value := .number ⟨false, n, 0, true⟩

/-- An integer. -/
def ofInt (n : Int) : Value := .number ⟨decide (n < 0), n.natAbs, 0, true⟩

/-- A text. -/
def ofText (s : String) : Value := .string (some s)

/-- An object with named members. -/
def ofObject (members : List (String × Value)) : Value :=
  .object (members.map fun (k, v) => (some k, v))

/-- An optional value, `null` when there is none. -/
def ofOption {α : Type} (f : α → Value) : Option α → Value
  | none => .null
  | some a => f a

/-- A list of texts. -/
def ofTexts (ss : List String) : Value := .array (ss.map ofText)

/-- The value of the first member with a name. -/
def member? (name : String) : Value → Option Value
  | .object members => (members.find? fun (k, _) => k == some name).map (·.2)
  | _ => none

end Value

end HarnessRepair.Json
