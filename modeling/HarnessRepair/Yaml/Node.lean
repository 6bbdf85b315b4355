/-!
# YAML nodes

A document is a tree of scalars, sequences and mappings.  A node may be given a number,
and an alias with that number stands for it elsewhere, even inside of the node itself.

## Main definitions

* `Node` — the tree.
* `Document` — a tree with the nodes that aliases stand for.
* `Document.target?` — the node that an alias stands for.
-/

namespace HarnessRepair.Yaml

/-- A YAML node. -/
inductive Node where
  /-- A document without content. -/
  | void
  /-- A text, quoted or not. -/
  | scalar (quoted : Bool) (text : String)
  | sequence (items : List Node)
  | mapping (entries : List (Node × Node))
  /-- A node that is said to be of a kind; a character of the tag is a byte. -/
  | tagged (tag : String) (node : Node)
  /-- The node that has a number. -/
  | alias (number : Nat)
  deriving Repr, Inhabited

namespace Node

/-- Whether nothing is written where a node may stand. -/
def isBlank : Node → Bool
  | .void => true
  | .scalar quoted s => !quoted && s.isEmpty
  | .tagged _ n => n.isBlank
  | _ => false

mutual

/-- The number of steps in which a node is read: a collection starts and ends. -/
def steps : Node → Nat
  | .sequence items => stepsOfItems items + 2
  | .mapping entries => stepsOfEntries entries + 2
  | .tagged _ n => n.steps
  | _ => 1

/-- The number of steps for some items. -/
def stepsOfItems : List Node → Nat
  | [] => 0
  | n :: rest => n.steps + stepsOfItems rest

/-- The number of steps for some entries. -/
def stepsOfEntries : List (Node × Node) → Nat
  | [] => 0
  | e :: rest => stepsOfEntry e + stepsOfEntries rest

/-- The number of steps for a key and a value. -/
def stepsOfEntry : Node × Node → Nat
  | (k, v) => k.steps + v.steps

end

end Node

/-- A document: its tree, and the nodes that have numbers. -/
structure Document where
  root : Node
  numbered : List (Nat × Node) := []
  deriving Repr

/-- The node that a node stands for. -/
def Document.target? (d : Document) : Node → Option Node
  | .alias number => d.numbered.lookup number
  | n => some n

end HarnessRepair.Yaml
