import HarnessRepair.Text.ByteText
import HarnessRepair.Yaml.Node
import HarnessRepair.Yaml.Plain

/-!
# Decoding YAML documents

What a node says depends on what is asked for: a text, a list, a record, or whatever it
stands for.  An alias is followed only where something is asked of it, and aliases can be
followed only so often.

## Main definitions

* `Decoding` — a computation on a document.
* `follow` — the node behind an alias.
* `textOf`, `optionalTextOf`, `itemsOf`, `membersOf` — what nodes say.
* `valueOf` — what a node stands for, as a JSON value.
* `Document.decode?` — the result of such a computation.
-/

namespace HarnessRepair.Yaml

open Json Text

/-- A computation on a document, with the number of aliases that may still be followed. -/
abbrev Decoding := ReaderT Document (StateT Nat Option)

/-- How often aliases can be followed for each step of a document. -/
def turnsForStep : Nat := 100

/-- The result of a computation on a document. -/
def Document.decode? {α : Type} (d : Document) (a : Decoding α) : Option α :=
  ((a.run d).run (turnsForStep * d.root.steps)).map (·.1)

/-- The node that a node stands for. -/
def follow (n : Node) : Decoding Node := fun d turns =>
  match n with
  | .alias _ => if turns = 0 then none else (d.target? n).map fun m => (m, turns - 1)
  | n => some (n, turns)

/-! ### Texts -/

/-- The text of a scalar, whatever it would stand for without one being asked for. -/
def textIn? : Node → Option String
  | .scalar _ s => some s
  | .tagged _ n => textIn? n
  | _ => none

/-- The text that a node says. -/
def textOf (n : Node) : Decoding String := do
  let m ← follow n
  textIn? m

/-- The tag of a kind of scalar. -/
def coreTag (kind : String) : String := "tag:yaml.org,2002:" ++ kind

/-- The text that a node says, or nothing. -/
def optionalTextOf (n : Node) : Decoding (Option String) := do
  match ← follow n with
  | .void => return none
  | .scalar false s => return if nullWords.contains s then none else some s
  | .tagged tag (.scalar false s) =>
    if tag = coreTag "null" then
      if s ∈ nullWords ∧ s ≠ "" then return none else failure
    else return some s
  | m => return some (← textIn? m)

/-! ### Collections -/

/-- The items of a sequence. -/
def itemsIn? : Node → Option (List Node)
  | .sequence items => some items
  | .tagged _ n => itemsIn? n
  | n => if n.isBlank then some [] else none

/-- The items of a sequence; nothing written is no item. -/
def itemsOf (n : Node) : Decoding (List Node) := do
  let m ← follow n
  itemsIn? m

/-- The entries of a mapping. -/
def entriesIn? : Node → Option (List (Node × Node))
  | .mapping entries => some entries
  | .tagged _ n => entriesIn? n
  | n => if n.isBlank then some [] else none

/-- The entries of a mapping whose keys are texts; nothing written is no entry. -/
def membersOf (n : Node) : Decoding (List (String × Node)) := do
  let m ← follow n
  (← entriesIn? m).mapM fun (k, v) => return (← textOf k, v)

/-! ### Values -/

/-- The kind that a tag of the user's own names: one behind an exclamation mark, of whole
characters. -/
def ownKind? (tag : String) : Option String :=
  match tag.toList with
  | '!' :: rest => text? (toBytes (String.ofList (if rest.isEmpty then ['!'] else rest)))
  | _ => none

/-- What a scalar stands for that is said to be of a kind: the core kinds are those of
truth values, integers, decimals and nothing. -/
def resolveTagged? (tag : String) (quoted : Bool) (s : String) : Option Value :=
  if tag = coreTag "bool" then (boolWords.lookup s).map .bool
  else if tag = coreTag "int" then (integer? s.toList).map .number
  else if tag = coreTag "float" then
    (if unboundedWords.contains s then some unbounded else finiteDecimal? s.toList).map .number
  else if tag = coreTag "null" then if s ∈ nullWords ∧ s ≠ "" then some .null else none
  else if tag.toList.head? = some '!' ∧ !quoted then some (resolveScalar s)
  else some (.ofText s)

/-- How many collections may stand in each other. -/
def depthLimit : Nat := 128

/-- What a node stands for, with fewer than so many collections in each other.  No node of
the user's own kinds stands for anything. -/
def valueOf : Nat → Node → Decoding Value
  | 0, _ => failure
  | limit + 1, n => do
    let m ← follow n
    let (tag, body) := match m with
      | .tagged tag body => (some tag, body)
      | body => (none, body)
    if (tag.bind ownKind?).isSome then failure
    match body with
    | .scalar quoted s =>
      match tag with
      | some tag => resolveTagged? tag quoted s
      | none => return if quoted then .ofText s else resolveScalar s
    | .sequence items =>
      if limit = 0 then failure
      return .array (← items.mapM (valueOf limit))
    | .mapping entries =>
      if limit = 0 then failure
      return .object (← entries.mapM fun (k, v) => return (some (← textOf k), ← valueOf limit v))
    | .void => return .null
    | _ => failure

/-- The members of a record with what they stand for. -/
def recordOf (n : Node) : Decoding Value := do
  let members ← membersOf n
  return .object (← members.mapM fun (name, v) => return (some name, ← valueOf depthLimit v))

end HarnessRepair.Yaml
