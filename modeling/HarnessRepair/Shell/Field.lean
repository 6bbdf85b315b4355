import HarnessRepair.Shell.Pattern

/-!
# Fields

A word that has been expanded is a row of cells.  What comes from an expansion without
quotes is split into fields at the separators; what is left of quotes that held nothing
makes a field of its own.

## Main definitions

* `Cell` — what stands in an expanded word.
* `splitCells` — the fields of some cells, no more than a number of them.
* `fieldsOf` — the fields with the paths that they stand for.
-/

namespace HarnessRepair.Shell

/-- What stands in an expanded word.  Cells of one expansion that may be split have its
number as their region. -/
inductive Cell where
  | byte (c : Char) (quoted : Bool) (region : Option Nat)
  /-- The end of an argument in front of the next one. -/
  | cut (quoted : Bool) (region : Nat)
  /-- The trace of quotes. -/
  | quotes
  deriving DecidableEq, Repr

namespace Cell

/-- The expansion that a cell comes from, if it may be split. -/
def region? : Cell → Option Nat
  | .byte _ _ region => region
  | .cut _ region => some region
  | .quotes => none

/-- The mark that a cell is in a pattern. -/
def mark? : Cell → Option Mark
  | .byte c quoted _ => some (c, quoted)
  | .cut .. => some (' ', true)
  | .quotes => none

/-- Cells of a text. -/
def ofText (s : String) (quoted : Bool) (region : Option Nat) : List Cell :=
  s.toList.map fun c => .byte c quoted region

end Cell

/-- The marks of some cells. -/
def marksOf (cells : List Cell) : List Mark := cells.filterMap Cell.mark?

/-- The text of some cells. -/
def textOf (cells : List Cell) : String := String.ofList ((marksOf cells).map (·.1))

/-- The blanks among separators. -/
def isSeparatorBlank (c : Char) : Bool := c == ' ' || c == '\t' || c == '\n'

/-- The work of splitting. -/
structure Splitting where
  /-- The fields that are complete, the last one first. -/
  fields : List (List Cell) := []
  /-- The cells of the open field, the last one first. -/
  current : List Cell := []
  /-- How many fields may still be opened; any number if there is none. -/
  left : Option Nat
  /-- How much of the last field stays, if separators at its end are cut off. -/
  kept : Option Nat := none
  region : Option Nat := none
  /-- The separator at hand was a blank. -/
  blank : Bool := false
  /-- Separators behind another one are passed over. -/
  skipping : Bool := false
  /-- The region at hand consists of quoted arguments. -/
  arguments : Bool := false

namespace Splitting

/-- Adds a cell to the open field. -/
def add (s : Splitting) (c : Cell) : Splitting := { s with current := c :: s.current }

/-- A cell behind the separator that opened the last field. -/
def addToLast (s : Splitting) (c : Cell) (separates isBlank : Bool) : Splitting :=
  let kept :=
    if isBlank then s.kept.or (some s.current.length)
    else if separates && s.blank then s.kept
    else none
  { s.add c with kept := kept, blank := isBlank && s.blank }

/-- A separator. -/
def separate (s : Splitting) (c : Cell) (isBlank : Bool) : Splitting :=
  let s := { s with blank := isBlank }
  if s.current.isEmpty && isBlank then s
  else
    match s.left with
    | some 1 => { s.add c with left := some 0, kept := some s.current.length }
    | left =>
      { s with
        fields := s.current :: s.fields
        current := []
        left := left.map (· - 1)
        skipping := !s.arguments }

/-- A cell that is not passed over. -/
def take (separators : List Char) (s : Splitting) (c : Cell) : Splitting :=
  match c with
  | .quotes => s.add c
  | .byte _ _ none => s.add c
  | .byte b quoted (some _) =>
    let separates := !quoted && separators.contains b
    let isBlank := separates && isSeparatorBlank b
    if s.left = some 0 then s.addToLast c separates isBlank
    else if separates then s.separate c isBlank
    else s.add c
  | .cut quoted _ => s.separate c !quoted

/-- The next cell. -/
def step (separators : List Char) (s : Splitting) (c : Cell) : Splitting :=
  let s :=
    if c.region? = s.region then s
    else
      let arguments := match c with
        | .cut quoted _ => quoted
        | .byte _ quoted _ => quoted
        | .quotes => false
      let s := { s with region := c.region?, blank := false, skipping := false }
      if c.region?.isSome then { s with arguments := arguments } else s
  if !s.skipping then s.take separators c
  else
    let (separates, isBlank) := match c with
      | .byte b quoted _ => (!quoted && separators.contains b, isSeparatorBlank b)
      | .cut .. => (true, true)
      | .quotes => (false, false)
    if separates && isBlank then s
    else if separates && s.blank then { s with blank := false }
    else { s with skipping := false }.take separators c

/-- All fields. -/
def finish (s : Splitting) : List (List Cell) :=
  let last := match s.kept with
    | some n => s.current.drop (s.current.length - n)
    | none => s.current
  let fields := if last.isEmpty && !s.arguments then s.fields else last :: s.fields
  (fields.map List.reverse).reverse

end Splitting

/-- The fields of some cells; at most as many as there may be, the last with all that
is left. -/
def splitCells (limit : Option Nat) (separators : List Char) (cells : List Cell) :
    List (List Cell) :=
  (cells.foldl (Splitting.step separators) { left := limit }).finish

/-- The fields of an expanded word, with the paths that patterns stand for. -/
def fieldsOf (fs : FileSystem) (directory : String) (separators : List Char) (paths : Bool)
    (cells : List Cell) : List String :=
  (splitCells none separators cells).flatMap fun field =>
    match if paths then pathsOf fs directory (marksOf field) else [] with
    | [] => [textOf field]
    | found => found.mergeSort fun a b => decide (a ≤ b)

end HarnessRepair.Shell
