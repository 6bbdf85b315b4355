import HarnessRepair.Failure

/-!
# Lines before and after insertion

Which lines of the current text hold inserted statements is kept as an ascending
list.  It takes the lines of the text without patches to those of the
current text and back.

## Main definitions

* `shiftInserted` — the list after one more block has been inserted.
* `canonicalLine?` — from the current text to the text without patches.
* `currentLine` — the other way.

## Main results

* `length_shiftInserted` — a block adds as many inserted lines as it has.
-/

namespace HarnessRepair

/-- The inserted lines once `count` more lines stand from the line `line` on. -/
def shiftInserted (line count : Nat) (inserted : List Nat) : List Nat :=
  inserted.takeWhile (· < line) ++ List.range' line count ++
    (inserted.dropWhile (· < line)).map (· + count)

/-- A block adds its lines to the inserted ones. -/
theorem length_shiftInserted (line count : Nat) (inserted : List Nat) :
    (shiftInserted line count inserted).length = inserted.length + count := by
  have h : inserted.length =
      (inserted.takeWhile (· < line)).length + (inserted.dropWhile (· < line)).length := by
    rw [← List.length_append, List.takeWhile_append_dropWhile]
  rw [shiftInserted, List.length_append, List.length_append, List.length_map,
    List.length_range', h]
  omega

/-- The line that a line of the current text had before any insertion; none if it
is itself inserted. -/
def canonicalLine? (inserted : List Nat) (line : Nat) : Option Nat :=
  if inserted.contains line then none
  else some (line - (inserted.filter (· < line)).length)

/-- The line of the current text that carries a line of the text without patches. -/
def currentLine : List Nat → Nat → Except Overflow Nat
  | [], line => .ok line
  | i :: rest, line => do
    let line ← if i ≤ line then addWords line 1 else .ok line
    currentLine rest line

end HarnessRepair
