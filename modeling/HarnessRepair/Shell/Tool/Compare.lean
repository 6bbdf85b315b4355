import HarnessRepair.Shell.Tool.Basic

/-!
# Comparing files

Whether two files are alike, and in which lines they differ.

## Main definitions

* `Hunk`, `hunksOf` — stretches of lines that differ.
* `compareBytes`, `compareLines` — the tools.
-/

namespace HarnessRepair.Shell

open Work

/-- The first position at which two lists differ. -/
def firstDifference {α : Type} [BEq α] : Nat → List α → List α → Option Nat
  | _, [], [] => none
  | n, a :: as, b :: bs => if a == b then firstDifference (n + 1) as bs else some n
  | n, _, _ => some n

/-- Compares two files byte by byte. -/
def compareBytes : Tool := do
  let (choices, operands) ← options 2 ⟨"slb", "in", [("silent", 's'), ("quiet", 's')]⟩
  let quiet := isChosen choices 's'
  match operands with
  | [] => misused 2 "missing operand after 'cmp'"
  | a :: rest =>
    let b := rest.headD "-"
    let read (path : String) : Work (List UInt8) := do
      match ← readFile path with
      | .ok bs => return bs
      | .error e =>
        if quiet then
          fail 2
          stop
        giveUp 2 (path ++ ": " ++ reason e)
    let x ← read a
    let y ← read b
    match firstDifference 0 x y with
    | none => pure ()
    | some n =>
      fail 1
      if !quiet then
        let line := ((x.take n).filter (· == 10)).length + 1
        if n = x.length ∨ n = y.length then
          let short := if n = x.length then a else b
          if n = 0 then complain ("EOF on " ++ short ++ " which is empty")
          else
            let inLine := (if n = x.length then x else y).getLast? != some 10
            complain ("EOF on " ++ short ++ " after byte " ++ toString n ++
              (if inLine then ", in line " ++ toString line
                else ", line " ++ toString (line - 1)))
        else
          printLine (a ++ " " ++ b ++ " differ: char " ++ toString (n + 1) ++ ", line " ++
            toString line)

/-- A stretch of lines that differ: how many lines are in front of it, and the lines. -/
structure Hunk where
  before : Nat
  after : Nat
  old : List String
  new : List String
  deriving DecidableEq, Repr

/-- The lengths of the longest rows of lines in common, for a line in front of each end of
the other lines. -/
def commonRow (line : String) (below : List (String × Nat)) : List Nat :=
  (below.foldr
    (fun (other, diagonalNext) (row, right, diagonal) =>
      let here := if line == other then diagonal + 1 else max diagonalNext right
      (here :: row, here, diagonalNext))
    (([] : List Nat), 0, 0)).1

/-- The table of those lengths, a row for each line. -/
def commonTable (new : List String) : List String → List (List Nat)
  | [] => [new.map fun _ => 0]
  | line :: rest =>
    match commonTable new rest with
    | below :: more => commonRow line (new.zip below) :: below :: more
    | [] => []

/-- What stays and what changes: lines only in the old file, only in the new one, or in
both. -/
inductive Change where
  | keep
  | drop (line : String)
  | add (line : String)
  deriving DecidableEq, Repr

/-- The changes from some lines to others. -/
def changes : Nat → List String → List String → List (List Nat) → List Change
  | 0, _, _, _ => []
  | _, [], new, _ => new.map .add
  | _, old, [], _ => old.map .drop
  | fuel + 1, a :: as, b :: bs, table =>
    if a == b then .keep :: changes fuel as bs ((table.drop 1).map (·.drop 1))
    else
      let below := ((table.drop 1).head?.bind (·.head?)).getD 0
      let right := ((table.head?.map (·.drop 1)).bind (·.head?)).getD 0
      if right ≤ below then .drop a :: changes fuel as (b :: bs) (table.drop 1)
      else .add b :: changes fuel (a :: as) bs (table.map (·.drop 1))

/-- The stretches of changes. -/
def hunksFrom (current : Option Hunk) (i j : Nat) : List Change → List Hunk
  | [] => current.toList
  | .keep :: rest => current.toList ++ hunksFrom none (i + 1) (j + 1) rest
  | .drop line :: rest =>
    let h := current.getD ⟨i, j, [], []⟩
    hunksFrom (some { h with old := h.old ++ [line] }) (i + 1) j rest
  | .add line :: rest =>
    let h := current.getD ⟨i, j, [], []⟩
    hunksFrom (some { h with new := h.new ++ [line] }) i (j + 1) rest

/-- The stretches of lines in which two files differ. -/
def hunksOf (old new : List String) : List Hunk :=
  hunksFrom none 0 0 (changes (old.length + new.length + 1) old new (commonTable new old))

/-- The numbers of lines behind so many others. -/
def lineRange (before count : Nat) : String :=
  if count = 0 then toString before
  else if count = 1 then toString (before + 1)
  else toString (before + 1) ++ "," ++ toString (before + count)

/-- A stretch as it is written. -/
def Hunk.render (h : Hunk) : String :=
  let letter := if h.old.isEmpty then "a" else if h.new.isEmpty then "d" else "c"
  lineRange h.before h.old.length ++ letter ++ lineRange h.after h.new.length ++ "\n" ++
    String.join (h.old.map fun l => "< " ++ l ++ "\n") ++
    (if h.old.isEmpty || h.new.isEmpty then "" else "---\n") ++
    String.join (h.new.map fun l => "> " ++ l ++ "\n")

/-- Compares two files line by line. -/
def compareLines : Tool := do
  let (choices, operands) ← options 2
    ⟨"qsbwiBuarN", "", [("brief", 'q'), ("report-identical-files", 's')]⟩
  match operands with
  | [a, b] =>
    let read (path : String) : Work (List UInt8) := do
      match ← readFile path with
      | .ok bs => return bs
      | .error e => giveUp 2 (path ++ ": " ++ reason e)
    let x ← read a
    let y ← read b
    if x == y then
      if isChosen choices 's' then
        printLine ("Files " ++ a ++ " and " ++ b ++ " are identical")
    else
      fail 1
      if isChosen choices 'q' then printLine ("Files " ++ a ++ " and " ++ b ++ " differ")
      else
        let mark (bs : List UInt8) : List String :=
          let lines := textLines bs
          if bs.isEmpty || bs.getLast? == some 10 then lines
          else lines.dropLast ++ [lines.getLastD "" ++ "\n\\ No newline at end of file"]
        (hunksOf (mark x) (mark y)).forM fun h => printText h.render
  | [] => refuse "missing operand after 'diff'"
  | [a] => refuse ("missing operand after " ++ inQuotes a)
  | _ => refuse ("extra operand " ++ inQuotes (operands.getD 2 ""))
where
  /-- Ends the tool and shows where there is help. -/
  refuse (text : String) : Work Unit := do
    complain text
    complain "Try 'diff --help' for more information."
    fail 2

end HarnessRepair.Shell
