import HarnessRepair.Yaml.Property
import HarnessRepair.Yaml.Scalar

/-!
# The layout of a YAML text

Indentation and colons give a text its structure: a node further right than the
collection around it starts a collection, one further left ends those in between, and
what turns out to stand before a colon was a key.  A key without a mark in front is
no longer than a line and no longer than 1024 characters.

## Main definitions

* `Candidate` — the start of a node that may turn out to be a key.
* `Layout` — the tokens read so far, and what the next ones depend on.
* `Layout.read?` — one token further.
* `tokens?` — all tokens of a text.
-/

namespace HarnessRepair.Yaml

/-- The start of a node that may turn out to be a key. -/
structure Candidate where
  /-- Where the tokens in front of the key go. -/
  slot : Nat
  mark : Mark
  /-- Whether nothing but a key may stand there. -/
  required : Bool
  deriving DecidableEq, Repr

/-- A text that is read in part. -/
structure Layout where
  cursor : Cursor
  /-- The tokens read so far.  The slot of a candidate stays empty until a colon makes it
  a key. -/
  slots : Array (List Token) := #[]
  /-- The columns of the open block collections, the innermost first. -/
  columns : List Nat := []
  /-- What may be a key at this level of flow collections. -/
  candidate : Option Candidate := none
  /-- What may be a key around each open flow collection, the innermost first. -/
  outer : List (Option Candidate) := []
  /-- Whether a key may start here. -/
  keyAllowed : Bool := true

namespace Layout

/-- Whether a flow collection is open. -/
def inFlow (l : Layout) : Bool := !l.outer.isEmpty

/-- One more token. -/
def emit (l : Layout) (t : Token) : Layout := { l with slots := l.slots.push [t] }

/-- The reader in another place. -/
def moveTo (l : Layout) (c : Cursor) : Layout := { l with cursor := c }

/-- The reader `n` characters further on the line. -/
def forward (l : Layout) (n : Nat) : Layout := l.moveTo (l.cursor.forward n)

/-- Whether a key may start at the next token. -/
def allowKey (l : Layout) (allowed : Bool) : Layout := { l with keyAllowed := allowed }

/-! ### Candidates -/

/-- The layout without its candidate; none if it had to become a key. -/
def dropCandidate? (l : Layout) : Option Layout :=
  if l.candidate.any Candidate.required then none else some { l with candidate := none }

/-- The layout in which the node ahead is a candidate, if keys are allowed here. -/
def proposeKey? (l : Layout) : Option Layout :=
  if l.keyAllowed then
    (dropCandidate? l).map fun l =>
      { l with
        candidate := some ⟨l.slots.size, l.cursor.mark,
          !l.inFlow && l.columns.head? == some l.cursor.column⟩
        slots := l.slots.push [] }
  else some l

/-- The length of a key that has no mark in front. -/
def keyLimit : Nat := 1024

/-- Whether a candidate is too far behind a place to be a key of it. -/
def isStale (m : Mark) (c : Candidate) : Bool :=
  c.mark.line < m.line || c.mark.index + keyLimit < m.index

/-- The layout without the candidates that are too far behind; none if one of them had to
become a key. -/
def dropStale? (l : Layout) : Option Layout :=
  let stale := isStale l.cursor.mark
  if (l.candidate :: l.outer).any fun c => c.any fun c => stale c && c.required then none
  else
    some { l with
      candidate := l.candidate.filter fun c => !stale c
      outer := l.outer.map fun c => c.filter fun c => !stale c }

/-! ### Block collections -/

/-- Whether a column is right of all open block collections. -/
def isInside (l : Layout) (column : Nat) : Bool := !l.inFlow && l.columns.head?.all (· < column)

/-- The layout in which a block collection starts in a column, if that is further right. -/
def openBlock (l : Layout) (column : Nat) (t : Token) : Layout :=
  if l.isInside column then { l.emit t with columns := column :: l.columns } else l

/-- The layout in which the innermost `n` block collections are closed. -/
def closeBlocks (l : Layout) (n : Nat) : Layout :=
  { l with
    slots := l.slots ++ (List.replicate n [Token.blockEnd]).toArray
    columns := l.columns.drop n }

/-- The layout in which the block collections right of a column are closed. -/
def closeRightOf (l : Layout) (column : Nat) : Layout :=
  if l.inFlow then l else l.closeBlocks (l.columns.takeWhile (column < ·)).length

/-- The layout in which all block collections are closed. -/
def closeAll (l : Layout) : Layout := if l.inFlow then l else l.closeBlocks l.columns.length

/-! ### Between tokens -/

/-- The place of the next token, and whether a key may start there.  Tabs are skipped
where no key may start. -/
def skipFrom (flow : Bool) : Bool → Bool → List Char → Mark → Bool × Cursor
  | _, allowed, [], m => (allowed, ⟨[], m⟩)
  | comment, allowed, c :: rest, m =>
    if isBreak c then skipFrom flow false (allowed || !flow) rest m.nextLine
    else if comment || c == '#' then skipFrom flow true allowed rest m.next
    else if c == ' ' || (c == '\t' && (flow || !allowed)) ||
        (isEncodingMark c && m.column == 0) then
      skipFrom flow false allowed rest m.next
    else (allowed, ⟨c :: rest, m⟩)

/-- The layout at the next token. -/
def skip (l : Layout) : Layout :=
  let (allowed, next) := skipFrom l.inFlow false l.keyAllowed l.cursor.rest l.cursor.mark
  { l with cursor := next, keyAllowed := allowed }

/-! ### Tokens -/

/-- A directive. -/
def readDirective? (l : Layout) : Option Layout := do
  let l ← l.closeAll.dropCandidate?
  let (t, next) ← readDirective l.cursor
  return ((l.emit t).moveTo next).allowKey false

/-- The line that marks the start or the end of a document. -/
def readDocumentMark? (l : Layout) (t : Token) : Option Layout := do
  let l ← l.closeAll.dropCandidate?
  return ((l.emit t).forward 3).allowKey false

/-- The opening bracket of a flow collection. -/
def openFlow? (l : Layout) (t : Token) : Option Layout := do
  let l ← l.proposeKey?
  return ((({ l with outer := l.candidate :: l.outer, candidate := none }).emit t).forward 1
    ).allowKey true

/-- The closing bracket of a flow collection. -/
def closeFlow? (l : Layout) (t : Token) : Option Layout := do
  let l ← l.dropCandidate?
  let l :=
    match l.outer with
    | c :: rest => { l with candidate := c, outer := rest }
    | [] => l
  return ((l.emit t).forward 1).allowKey false

/-- The comma of a flow collection. -/
def readComma? (l : Layout) : Option Layout := do
  let l ← l.dropCandidate?
  return ((l.emit .flowEntry).forward 1).allowKey true

/-- The hyphen of a block sequence. -/
def readHyphen? (l : Layout) : Option Layout := do
  if !l.inFlow && !l.keyAllowed then none
  let l ← (l.openBlock l.cursor.column .blockSequenceStart).dropCandidate?
  return ((l.emit .blockEntry).forward 1).allowKey true

/-- The mark in front of a key. -/
def readKeyMark? (l : Layout) : Option Layout := do
  if !l.inFlow && !l.keyAllowed then none
  let l ← (l.openBlock l.cursor.column .blockMappingStart).dropCandidate?
  return ((l.emit .key).forward 1).allowKey !l.inFlow

/-- The colon in front of a value.  Where there is a candidate, it is the key. -/
def readColon? (l : Layout) : Option Layout :=
  match l.candidate with
  | some c =>
    let opens := l.isInside c.mark.column
    let front := if opens then [Token.blockMappingStart, .key] else [.key]
    some ((({ l with
      slots := l.slots.setIfInBounds c.slot front
      columns := if opens then c.mark.column :: l.columns else l.columns
      candidate := none }).emit .value).forward 1 |>.allowKey false)
  | none =>
    if !l.inFlow && !l.keyAllowed then none
    else
      some (((l.openBlock l.cursor.column .blockMappingStart).emit .value).forward 1
        |>.allowKey !l.inFlow)

/-- An anchor, an alias or a tag. -/
def readProperty? (l : Layout) (read : Cursor → Option (Token × Cursor)) : Option Layout := do
  let l ← l.proposeKey?
  let (t, next) ← read l.cursor
  return ((l.emit t).moveTo next).allowKey false

/-- A block of lines. -/
def readBlock? (l : Layout) (literal : Bool) : Option Layout := do
  let l ← l.dropCandidate?
  let (text, next) ← blockScalar literal l.columns.head? l.cursor
  return ((l.emit (.scalar false (String.ofList text))).moveTo next).allowKey true

/-- A quoted scalar. -/
def readQuoted? (l : Layout) (quote : Char) : Option Layout := do
  let l ← l.proposeKey?
  let (text, next) ← quotedScalar quote l.cursor
  return ((l.emit (.scalar false (String.ofList text))).moveTo next).allowKey false

/-- A plain scalar.  Behind one that ends with its line a key may start. -/
def readPlain? (l : Layout) : Option Layout := do
  let l ← l.proposeKey?
  let least := (l.columns.head?.map (· + 1)).getD 0
  let (text, broken, next) ← plainScalar l.inFlow least l.cursor
  return ((l.emit (.scalar true (String.ofList text))).moveTo next).allowKey broken

/-- The characters that no plain scalar starts with. -/
def indicators : List Char := "-?:,[]\x7b\x7d#&*!|>'\"%@".toList ++ ['\x60']

/-- Whether a plain scalar starts with a character in front of some others. -/
def startsPlain (flow : Bool) (c : Char) (rest : List Char) : Bool :=
  !(indicators.contains c || isSpacing c || isBreak c) ||
    (c == '-' && !rest.head?.any isSpacing) ||
    (!flow && (c == '?' || c == ':') && !startsBlank rest)

/-- The layout behind the token that starts with a character in front of some others. -/
def readAt? (l : Layout) (c : Char) (rest : List Char) : Option Layout :=
  let alone := startsBlank rest
  if c == '%' && l.cursor.column == 0 then l.readDirective?
  else if l.cursor.atLineOf '-' then l.readDocumentMark? .documentStart
  else if l.cursor.atLineOf '.' then l.readDocumentMark? .documentEnd
  else if c == '[' then l.openFlow? .flowSequenceStart
  else if c == '\x7b' then l.openFlow? .flowMappingStart
  else if c == ']' then l.closeFlow? .flowSequenceEnd
  else if c == '\x7d' then l.closeFlow? .flowMappingEnd
  else if c == ',' then l.readComma?
  else if c == '-' && alone then l.readHyphen?
  else if c == '?' && (l.inFlow || alone) then l.readKeyMark?
  else if c == ':' && (l.inFlow || alone) then l.readColon?
  else if c == '*' then
    l.readProperty? fun p => (readName p).map fun (name, next) => (.alias name, next)
  else if c == '&' then
    l.readProperty? fun p => (readName p).map fun (name, next) => (.anchor name, next)
  else if c == '!' then l.readProperty? (readTag l.inFlow)
  else if (c == '|' || c == '>') && !l.inFlow then l.readBlock? (c == '|')
  else if c == '\'' || c == '"' then l.readQuoted? c
  else if startsPlain l.inFlow c rest then l.readPlain?
  else none

/-- One token further, from behind the last one; nothing at the end of the text. -/
def read? (l : Layout) : Option (Layout × Bool) := do
  let l ← l.skip.dropStale?
  let l := l.closeRightOf l.cursor.column
  match l.cursor.rest with
  | [] => return (← l.closeAll.dropCandidate?, true)
  | c :: rest => return (← l.readAt? c rest, false)

/-- The layout at the end of the text. -/
def readAll? : Nat → Layout → Option Layout
  | 0, _ => none
  | fuel + 1, l => do
    let (l, done) ← l.read?
    if done then return l else readAll? fuel l

end Layout

/-- The tokens of a text. -/
def tokens? (s : String) : Option (List Token) := do
  let cs := unifyBreaks s.toList
  if !cs.all isAllowed then none
  let l ← Layout.readAll? (cs.length + 2) { cursor := ⟨cs, {}⟩ }
  return l.slots.toList.flatten

end HarnessRepair.Yaml
