import HarnessRepair.Yaml.Layout
import HarnessRepair.Yaml.Node

/-!
# YAML documents

Settings and batches are written in YAML, one document a text.

An anchor gives its node a number, and an alias stands for the number that its name has
there.  The number is how many names there are so far, so a name that is given anew may
share its number with the next new one; then the number stands for the node that starts
last.

## Main definitions

* `Reading` — the tokens ahead, and the nodes that have names.
* `Reading.start`, `Reading.finish` — a node with a name.
* `readNode` — a node.
* `parse?` — the document of a text.
-/

namespace HarnessRepair.Yaml

/-- The tokens ahead, and what is known of the nodes behind. -/
structure Reading where
  tokens : List Token
  /-- The number that each name has here. -/
  numbers : List (String × Nat) := []
  /-- How many nodes have been given a name. -/
  given : Nat := 0
  /-- The nodes that have numbers, each with how many were given a name before it. -/
  numbered : List (Nat × Nat × Node) := []

namespace Reading

/-- The token ahead. -/
def ahead? (r : Reading) : Option Token := r.tokens.head?

/-- Whether one of some tokens is ahead. -/
def isAt (r : Reading) (ts : List Token) : Bool := r.ahead?.any ts.contains

/-- The reading behind the token ahead. -/
def next (r : Reading) : Reading := { r with tokens := r.tokens.drop 1 }

/-- A node starts that may have a name: its number, and how many were given a name before. -/
def start (r : Reading) : Option String → Option (Nat × Nat) × Reading
  | none => (none, r)
  | some name =>
    let number := r.numbers.length
    (some (number, r.given),
      { r with
        numbers := (name, number) :: r.numbers.filter (·.1 != name)
        given := r.given + 1 })

/-- A node ends that may have a number.  The number stays with another node if that started
later. -/
def finish (r : Reading) (number? : Option (Nat × Nat)) (n : Node) : Reading :=
  match number? with
  | none => r
  | some (number, before) =>
    if (r.numbered.lookup number).any fun other => before < other.1 then r
    else
      { r with
        numbered := (number, before, n) :: r.numbered.filter fun other => other.1 != number }

end Reading

/-- A scalar without content. -/
def blankNode : Node := .scalar false ""

/-! ### Tags and anchors -/

/-- What the handles of tags stand for if no directive says so. -/
def commonHandles : List (String × String) := [("!", "!"), ("!!", "tag:yaml.org,2002:")]

/-- A tag in full, if its handle is known. -/
def fullTag? (handles : List (String × String)) (handle suffix : String) : Option String :=
  if handle.isEmpty then some suffix
  else ((handles ++ commonHandles).lookup handle).map (· ++ suffix)

/-- What is said of a node in front of it. -/
structure Properties where
  anchor : Option String := none
  tag : Option String := none

/-- The properties ahead: an anchor, a tag, or both in either order. -/
def readProperties (handles : List (String × String)) (r : Reading) :
    Option (Properties × Reading) :=
  match r.tokens with
  | .anchor name :: .tag handle suffix :: rest | .tag handle suffix :: .anchor name :: rest =>
    (fullTag? handles handle suffix).map fun tag =>
      (⟨some name, some tag⟩, { r with tokens := rest })
  | .anchor name :: rest => some (⟨some name, none⟩, { r with tokens := rest })
  | .tag handle suffix :: rest =>
    (fullTag? handles handle suffix).map fun tag => (⟨none, some tag⟩, { r with tokens := rest })
  | _ => some ({}, r)

/-- A node with the tag that is said of it. -/
def Properties.apply (p : Properties) (n : Node) : Node :=
  match p.tag with
  | none => n
  | some tag => .tagged tag n

/-! ### Nodes -/

mutual

/-- A node.  In block context it may be a block collection, and as a part of a mapping
also a block sequence that is not further right. -/
def readNode (handles : List (String × String)) :
    Nat → Bool → Bool → Reading → Option (Node × Reading)
  | 0, _, _, _ => none
  | fuel + 1, block, level, r => do
    match r.tokens with
    | .alias name :: _ => return (.alias (← r.numbers.lookup name), r.next)
    | _ =>
      let (p, r) ← readProperties handles r
      let (number?, r) := r.start p.anchor
      let (n, r) ←
        match r.tokens with
        | .scalar plain s :: _ => some (Node.scalar (!plain) s, r.next)
        | .flowSequenceStart :: _ =>
          (readFlowItems handles fuel true r.next).map fun (ns, r) => (Node.sequence ns, r)
        | .flowMappingStart :: _ =>
          (readFlowEntries handles fuel true r.next).map fun (es, r) => (Node.mapping es, r)
        | t :: _ =>
          if level && t == .blockEntry then
            (readLevelItems handles fuel r).map fun (ns, r) => (Node.sequence ns, r)
          else if block && t == .blockSequenceStart then
            (readItems handles fuel r.next).map fun (ns, r) => (Node.sequence ns, r)
          else if block && t == .blockMappingStart then
            (readEntries handles fuel r.next).map fun (es, r) => (Node.mapping es, r)
          else if p.anchor.isSome || p.tag.isSome then some (blankNode, r)
          else none
        | [] => if p.anchor.isSome || p.tag.isSome then some (blankNode, r) else none
      let n := p.apply n
      return (n, r.finish number? n)

/-- A node, or nothing in front of some tokens. -/
def readNodeBefore (handles : List (String × String)) :
    Nat → Bool → Bool → List Token → Reading → Option (Node × Reading)
  | 0, _, _, _, _ => none
  | fuel + 1, block, level, ends, r =>
    if r.isAt ends then some (blankNode, r) else readNode handles fuel block level r

/-- The items of a block sequence up to its end. -/
def readItems (handles : List (String × String)) :
    Nat → Reading → Option (List Node × Reading)
  | 0, _ => none
  | fuel + 1, r =>
    if r.isAt [.blockEntry] then do
      let (n, r) ← readNodeBefore handles fuel true false [.blockEntry, .blockEnd] r.next
      let (ns, r) ← readItems handles fuel r
      return (n :: ns, r)
    else if r.isAt [.blockEnd] then some ([], r.next)
    else none

/-- The items of a block sequence in the column of the mapping around it. -/
def readLevelItems (handles : List (String × String)) :
    Nat → Reading → Option (List Node × Reading)
  | 0, _ => none
  | fuel + 1, r =>
    if r.isAt [.blockEntry] then do
      let (n, r) ←
        readNodeBefore handles fuel true false [.blockEntry, .key, .value, .blockEnd] r.next
      let (ns, r) ← readLevelItems handles fuel r
      return (n :: ns, r)
    else some ([], r)

/-- The entries of a block mapping up to its end. -/
def readEntries (handles : List (String × String)) :
    Nat → Reading → Option (List (Node × Node) × Reading)
  | 0, _ => none
  | fuel + 1, r =>
    if r.isAt [.key] then do
      let ends := [Token.key, .value, .blockEnd]
      let (k, r) ← readNodeBefore handles fuel true true ends r.next
      let (v, r) ←
        if r.isAt [.value] then readNodeBefore handles fuel true true ends r.next
        else some (blankNode, r)
      let (es, r) ← readEntries handles fuel r
      return ((k, v) :: es, r)
    else if r.isAt [.blockEnd] then some ([], r.next)
    else none

/-- The items of a flow sequence up to its end.  An item with a key is a mapping with one
entry. -/
def readFlowItems (handles : List (String × String)) :
    Nat → Bool → Reading → Option (List Node × Reading)
  | 0, _, _ => none
  | fuel + 1, first, r =>
    if r.isAt [.flowSequenceEnd] then some ([], r.next)
    else if !first && !r.isAt [.flowEntry] then none
    else do
      let r := if first then r else r.next
      if r.isAt [.flowSequenceEnd] then return ([], r.next)
      let (n, r) ←
        if r.isAt [.key] then
          (readPair handles fuel r.next).map fun (e, r) => (Node.mapping [e], r)
        else readNode handles fuel false false r
      let (ns, r) ← readFlowItems handles fuel false r
      return (n :: ns, r)

/-- The key and the value of an item of a flow sequence.  Without a key the token that
shows this is taken for it. -/
def readPair (handles : List (String × String)) :
    Nat → Reading → Option ((Node × Node) × Reading)
  | 0, _ => none
  | fuel + 1, r => do
    let (k, r) ←
      if r.isAt [.value, .flowEntry, .flowSequenceEnd] then some (blankNode, r.next)
      else readNode handles fuel false false r
    let (v, r) ←
      if r.isAt [.value] then
        readNodeBefore handles fuel false false [.flowEntry, .flowSequenceEnd] r.next
      else some (blankNode, r)
    return ((k, v), r)

/-- The entries of a flow mapping up to its end. -/
def readFlowEntries (handles : List (String × String)) :
    Nat → Bool → Reading → Option (List (Node × Node) × Reading)
  | 0, _, _ => none
  | fuel + 1, first, r =>
    if r.isAt [.flowMappingEnd] then some ([], r.next)
    else if !first && !r.isAt [.flowEntry] then none
    else do
      let r := if first then r else r.next
      if r.isAt [.flowMappingEnd] then return ([], r.next)
      let (e, r) ←
        if r.isAt [.key] then do
          let (k, r) ←
            readNodeBefore handles fuel false false [.value, .flowEntry, .flowMappingEnd] r.next
          let (v, r) ←
            if r.isAt [.value] then
              readNodeBefore handles fuel false false [.flowEntry, .flowMappingEnd] r.next
            else some (blankNode, r)
          some ((k, v), r)
        else (readNode handles fuel false false r).map fun (k, r) => ((k, blankNode), r)
      let (es, r) ← readFlowEntries handles fuel false r
      return (e :: es, r)

end

/-! ### Documents -/

/-- The handles that the directives ahead give, and what is behind the directives.  There
is at most one version, which is 1.1 or 1.2, and one expansion for a handle. -/
def readDirectives : Bool → List (String × String) → List Token →
    Option (List (String × String) × List Token)
  | versioned, handles, .version major minor :: rest =>
    if versioned || major != 1 || (minor != 1 && minor != 2) then none
    else readDirectives true handles rest
  | versioned, handles, .handle name expansion :: rest =>
    if handles.any (·.1 == name) then none
    else readDirectives versioned (handles ++ [(name, expansion)]) rest
  | _, handles, rest => some (handles, rest)

/-- Whether a token stands between documents. -/
def Token.isBetweenDocuments : Token → Bool
  | .version _ _ => true
  | .handle _ _ => true
  | .documentStart => true
  | .documentEnd => true
  | _ => false

/-- The document that some tokens write. -/
def documentOf? (ts : List Token) : Option Document := do
  let (handles, rest) ← readDirectives false [] ts
  let marked := rest.head? == some .documentStart
  if !marked && rest.length != ts.length then none
  let content := if marked then rest.drop 1 else rest
  let (n, r) ←
    if marked && content.head?.all Token.isBetweenDocuments then
      some (blankNode, (⟨content, [], 0, []⟩ : Reading))
    else readNode handles (4 * ts.length + 4) true false ⟨content, [], 0, []⟩
  if r.tokens.all (· == .documentEnd) then
    some ⟨n, r.numbered.map fun (number, _, node) => (number, node)⟩
  else none

/-- The document that a text writes. -/
def parse? (s : String) : Option Document := do
  match ← tokens? s with
  | [] => return ⟨.void, []⟩
  | ts => documentOf? ts

end HarnessRepair.Yaml
