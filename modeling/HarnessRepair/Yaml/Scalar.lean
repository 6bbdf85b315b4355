import HarnessRepair.Text.Numeral
import HarnessRepair.Yaml.Cursor

/-!
# YAML scalars

A scalar is plain, quoted or a block of lines.  In plain and quoted scalars a single
line break is a space, and of several the first is dropped; in a block they are kept,
or folded in the same way where no line is indented.

## Main definitions

* `Gap` — what stands between two words, and the text that it leaves.
* `plainScalar` — a scalar without quotes.
* `quotedScalar` — a scalar in quotes.
* `blockScalar` — a block of lines.

Each reader answers the text and the cursor behind it, or nothing where the text is
malformed.
-/

namespace HarnessRepair.Yaml

open Text

/-! ### Gaps -/

/-- The blanks between two words of a scalar. -/
inductive Gap where
  /-- Spaces and tabs within a line. -/
  | spacing (cs : List Char)
  /-- Line breaks; the first is none if it was escaped. -/
  | broken (first : Option Char) (more : List Char)
  deriving DecidableEq, Repr

namespace Gap

/-- Nothing between two words. -/
def empty : Gap := .spacing []

/-- Whether there is a line break in a gap. -/
def isBroken : Gap → Bool
  | .spacing _ => false
  | .broken _ _ => true

/-- A gap with one more space or tab. -/
def addSpacing (c : Char) : Gap → Gap
  | .spacing cs => .spacing (cs ++ [c])
  | g => g

/-- A gap with one more line break. -/
def addBreak (c : Char) : Gap → Gap
  | .spacing _ => .broken (some c) []
  | .broken first more => .broken first (more ++ [c])

/-- The text that a gap leaves. -/
def text : Gap → List Char
  | .spacing cs => cs
  | .broken (some '\n') [] => [' ']
  | .broken (some '\n') more => more
  | .broken (some c) more => c :: more
  | .broken none more => more

end Gap

/-- The gap ahead.  Behind a line break no tab may stand left of the column `least`. -/
def readGap (least : Nat) : List Char → Mark → Gap → Option (Gap × Cursor)
  | [], m, g => some (g, ⟨[], m⟩)
  | c :: rest, m, g =>
    if isSpacing c then
      if g.isBroken && m.column < least && c == '\t' then none
      else readGap least rest m.next (g.addSpacing c)
    else if isBreak c then readGap least rest m.nextLine (g.addBreak c)
    else some (g, ⟨c :: rest, m⟩)

/-! ### Plain scalars -/

/-- The characters that must not follow a colon within a plain scalar of a flow node. -/
def spoilsColon (c : Char) : Bool := isFlowMark c || c == '?'

/-- The word ahead, up to a blank or to what ends a plain scalar. -/
def plainWord (flow : Bool) : List Char → Mark → Option (List Char × Cursor)
  | [], m => some ([], ⟨[], m⟩)
  | c :: rest, m =>
    if isSpacing c || isBreak c then some ([], ⟨c :: rest, m⟩)
    else if flow && c == ':' && rest.head?.any spoilsColon then none
    else if (c == ':' && startsBlank rest) || (flow && isFlowMark c) then
      some ([], ⟨c :: rest, m⟩)
    else (plainWord flow rest m.next).map fun (word, next) => (c :: word, next)

/-- The words of a plain scalar behind a gap: their text, whether a line break is in the
gap behind them, and what is behind that gap. -/
def plainWords (flow : Bool) (least : Nat) :
    Nat → Gap → Cursor → Option (List Char × Bool × Cursor)
  | 0, _, _ => none
  | fuel + 1, gap, c =>
    if c.atDocumentMark || c.rest.head? == some '#' then some ([], gap.isBroken, c)
    else do
      let (word, next) ← plainWord flow c.rest c.mark
      if word.isEmpty then some ([], gap.isBroken, next)
      else if !next.atBlank || next.rest.isEmpty then some (gap.text ++ word, false, next)
      else
        let (behind, next) ← readGap least next.rest next.mark .empty
        if !flow && next.column < least then some (gap.text ++ word, behind.isBroken, next)
        else
          let (more, broken, last) ← plainWords flow least fuel behind next
          return (gap.text ++ word ++ more, broken, last)

/-- A plain scalar, whose lines stand in the column `least` or right of it. -/
def plainScalar (flow : Bool) (least : Nat) (c : Cursor) :
    Option (List Char × Bool × Cursor) :=
  plainWords flow least (c.rest.length + 1) .empty c

/-! ### Quoted scalars -/

/-- The character that a short escape stands for. -/
def shortEscape? (c : Char) : Option Char :=
  [('0', 0), ('a', 7), ('b', 8), ('t', 9), ('\t', 9), ('n', 10), ('v', 11), ('f', 12), ('r', 13),
    ('e', 27), (' ', 32), ('"', 34), ('/', 47), ('\\', 92), ('N', 0x85), ('_', 0xA0),
    ('L', 0x2028), ('P', 0x2029)].lookup c |>.map Char.ofNat

/-- How many hexadecimal digits follow a letter. -/
def hexCount? (c : Char) : Option Nat := [('x', 2), ('u', 4), ('U', 8)].lookup c

/-- The character with a code, if there is one. -/
def charOfCode? (n : Nat) : Option Char :=
  if n < 0xD800 || (0xDFFF < n && n < 0x110000) then some (Char.ofNat n) else none

/-- The character that an escape stands for, from behind the backslash, and how long the
escape is. -/
def readEscape? : List Char → Option (Char × Nat)
  | [] => none
  | c :: rest =>
    match hexCount? c with
    | some n =>
      if rest.length < n then none
      else do return (← charOfCode? (← natOfHexFrom? 0 (rest.take n)), n + 1)
    | none => (shortEscape? c).map fun ch => (ch, 1)

/-- The word ahead in a quoted scalar, up to a blank or the closing quote, and the gap that
starts behind it. -/
def quotedWord (quote : Char) : Nat → Cursor → Option (List Char × Gap × Cursor)
  | 0, _ => none
  | fuel + 1, c =>
    match c.rest with
    | [] => some ([], .empty, c)
    | ch :: rest =>
      if isSpacing ch || isBreak ch then some ([], .empty, c)
      else if ch == quote then
        if quote == '\'' && rest.head? == some '\'' then
          (quotedWord quote fuel (c.forward 2)).map fun (word, r) => ('\'' :: word, r)
        else some ([], .empty, c)
      else if ch == '\\' && quote == '"' then
        if rest.head?.any isBreak then some ([], .broken none [], (c.forward 1).pastBreak)
        else do
          let (escaped, n) ← readEscape? rest
          let (word, r) ← quotedWord quote fuel (c.forward (n + 1))
          return (escaped :: word, r)
      else (quotedWord quote fuel (c.forward 1)).map fun (word, r) => (ch :: word, r)

/-- The words of a quoted scalar up to the closing quote, and what is behind it. -/
def quotedWords (quote : Char) : Nat → Cursor → Option (List Char × Cursor)
  | 0, _ => none
  | fuel + 1, c =>
    if c.atDocumentMark || c.rest.isEmpty then none
    else do
      let (word, gap, next) ← quotedWord quote (c.rest.length + 1) c
      if next.rest.head? == some quote then some (word, next.forward 1)
      else
        let (gap, next) ← readGap 0 next.rest next.mark gap
        let (more, last) ← quotedWords quote fuel next
        return (word ++ gap.text ++ more, last)

/-- A quoted scalar, the quote of which is ahead. -/
def quotedScalar (quote : Char) (c : Cursor) : Option (List Char × Cursor) :=
  quotedWords quote (c.rest.length + 1) (c.forward 1)

/-! ### Blocks -/

/-- What becomes of the line breaks at the end of a block. -/
inductive Chomping where
  | strip
  | clip
  | keep
  deriving DecidableEq, Repr

/-- The chomping that a character asks for. -/
def chomping? (c : Char) : Option Chomping :=
  if c == '+' then some .keep else if c == '-' then some .strip else none

/-- The chomping and the indentation that the header of a block asks for, and how long
they are.  No indentation is zero. -/
def blockHeader? (cs : List Char) : Option (Chomping × Nat × Nat) :=
  let first := cs.head?.bind chomping?
  let behind := if first.isSome then cs.drop 1 else cs
  match behind.head?.bind digit? with
  | none => some (first.getD .clip, 0, if first.isSome then 1 else 0)
  | some 0 => none
  | some n =>
    match first with
    | some chomping => some (chomping, n, 2)
    | none =>
      match (behind.drop 1).head?.bind chomping? with
      | some chomping => some (chomping, n, 2)
      | none => some (.clip, n, 1)

/-- The empty lines ahead in a block: the rightmost column, the line breaks, and what is
behind them.  While `indent` is zero every space is taken for indentation. -/
def blockBreaks (indent : Nat) : Nat → List Char → Mark → Option (Nat × List Char × Cursor)
  | widest, [], m => some (max widest m.column, [], ⟨[], m⟩)
  | widest, c :: rest, m =>
    let inside := indent == 0 || m.column < indent
    if inside && c == ' ' then blockBreaks indent widest rest m.next
    else if inside && c == '\t' then none
    else if isBreak c then
      (blockBreaks indent (max widest m.column) rest m.nextLine).map fun (w, breaks, next) =>
        (w, c :: breaks, next)
    else some (max widest m.column, [], ⟨c :: rest, m⟩)

/-- The line breaks behind the text of a block so far. -/
structure BlockEnd where
  /-- The line break of the last line. -/
  first : List Char := []
  /-- Those of the empty lines behind it. -/
  more : List Char
  /-- Whether the last line starts with a blank. -/
  indented : Bool := false

/-- The lines of a block behind some line breaks: their text, the line breaks behind them,
and what is behind those. -/
def blockLines (literal : Bool) (indent : Nat) :
    Nat → BlockEnd → Cursor → Option (List Char × BlockEnd × Cursor)
  | 0, _, _ => none
  | fuel + 1, before, c =>
    if c.column != indent || c.rest.isEmpty then some ([], before, c)
    else do
      let indented := c.rest.head?.any isSpacing
      let folds := !literal && before.first == ['\n'] && !before.indented && !indented
      let front :=
        if !folds then before.first ++ before.more
        else if before.more.isEmpty then [' '] else before.more
      let line := c.rest.takeWhile fun ch => !isBreak ch
      let behind := c.forward line.length
      let start := behind.pastBreak
      let (_, breaks, next) ← blockBreaks indent 0 start.rest start.mark
      let (more, last, cursor) ←
        blockLines literal indent fuel ⟨behind.rest.take 1, breaks, indented⟩ next
      return (front ++ line ++ more, last, cursor)

/-- A block of lines, the indicator of which is ahead.  Its lines stand right of the
column `outer`, if there is one. -/
def blockScalar (literal : Bool) (outer : Option Nat) (c : Cursor) :
    Option (List Char × Cursor) := do
  let (chomping, indentation, n) ← blockHeader? (c.rest.drop 1)
  let c := (c.forward (n + 1)).pastSpacing.pastComment
  if !c.atLineEnd then none
  let start := c.pastBreak
  let indent := if indentation = 0 then 0 else outer.getD 0 + indentation
  let (widest, breaks, next) ← blockBreaks indent 0 start.rest start.mark
  let indent :=
    if indent = 0 then max (max widest 1) ((outer.map (· + 1)).getD 0) else indent
  let (text, last, next) ←
    blockLines literal indent (next.rest.length + 1) { more := breaks } next
  return (text ++ (if chomping = .strip then [] else last.first) ++
    (if chomping = .keep then last.more else []), next)

end HarnessRepair.Yaml
