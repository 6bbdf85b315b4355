import HarnessRepair.Text.Search
import HarnessRepair.Text.Width

/-!
# Tables

Tables with one blank on either side of a cell and columns as wide as their
widest line.  A cell may hold several lines.

## Main definitions

* `RuleStyle`, `TableStyle` — the characters that frame a table.
* `TableStyle.boxed`, `TableStyle.markdown` — the two styles.
* `renderTable` — a table with a header.
-/

namespace HarnessRepair.Text

/-- The characters of a horizontal rule. -/
structure RuleStyle where
  left : Char
  line : Char
  cross : Char
  right : Char
  deriving DecidableEq, Repr

/-- The characters that frame a table; a rule that is not there is not drawn. -/
structure TableStyle where
  left : Char
  between : Char
  right : Char
  top : Option RuleStyle
  header : RuleStyle
  row : Option RuleStyle
  bottom : Option RuleStyle
  deriving DecidableEq, Repr

namespace TableStyle

/-- Lines all around, a double line under the header, dashes between rows. -/
def boxed : TableStyle where
  left := '│'
  between := '┆'
  right := '│'
  top := some ⟨'┌', '─', '┬', '┐'⟩
  header := ⟨'╞', '═', '╪', '╡'⟩
  row := some ⟨'├', '╌', '┼', '┤'⟩
  bottom := some ⟨'└', '─', '┴', '┘'⟩

/-- Bars between cells, and one rule under the header. -/
def markdown : TableStyle where
  left := '|'
  between := '|'
  right := '|'
  top := none
  header := ⟨'|', '-', '|', '|'⟩
  row := none
  bottom := none

end TableStyle

/-- The larger of two lists of numbers, place by place. -/
def maxEach : List Nat → List Nat → List Nat
  | [], bs => bs
  | as, [] => as
  | a :: as, b :: bs => max a b :: maxEach as bs

/-- The lines of a cell. -/
def cellLines (cell : String) : List String := splitOnChar '\n' cell

/-- The width of a cell: that of its widest line. -/
def cellWidth (cell : String) : Nat := ((cellLines cell).map width).foldl max 0

/-- The widths of the columns of some rows. -/
def maxWidths (rows : List (List String)) : List Nat :=
  rows.foldl (fun widths row => maxEach widths (row.map cellWidth)) []

/-- A horizontal rule. -/
def rule (style : RuleStyle) (widths : List Nat) : String :=
  String.ofList
    (style.left :: List.intercalate [style.cross]
      (widths.map fun w => List.replicate (w + 2) style.line) ++ [style.right])

/-- A line of a cell, filled up to the width of its column. -/
def padCell (w : Nat) (s : String) : List Char :=
  ' ' :: s.toList ++ List.replicate (w - width s) ' ' ++ [' ']

/-- One line of a row. -/
def rowLine (style : TableStyle) (widths : List Nat) (cells : List String) : String :=
  String.ofList
    (style.left :: List.intercalate [style.between]
      ((widths.zip cells).map fun (w, s) => padCell w s) ++ [style.right])

/-- The lines of a row: as many as its highest cell has. -/
def rowLines (style : TableStyle) (widths : List Nat) (row : List String) : List String :=
  let cells := row.map cellLines
  let height := (cells.map List.length).foldl max 0
  (List.range height).map fun i => rowLine style widths (cells.map fun ls => ls.getD i "")

/-- A rule, if there is one. -/
def optionalRule (style : Option RuleStyle) (widths : List Nat) : List String :=
  match style with
  | some r => [rule r widths]
  | none => []

/-- A table with a header, without a line break at its end. -/
def renderTable (style : TableStyle) (header : List String) (rows : List (List String)) :
    String :=
  let widths := maxWidths (header :: rows)
  let body := List.intercalate (optionalRule style.row widths) (rows.map (rowLines style widths))
  "\n".intercalate
    (optionalRule style.top widths ++ rowLines style widths header ++
      [rule style.header widths] ++ body ++ optionalRule style.bottom widths)

/-- At most `max` characters of a text, with dots at the end of one that was longer. -/
def truncate (s : String) (max : Nat) : String :=
  if s.length ≤ max then s
  else String.ofList (s.toList.take (max - 3)) ++ "..."

end HarnessRepair.Text
