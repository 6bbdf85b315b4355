/-!
# Lines

A file is a list of lines that keep their terminators, so that joining them
gives the file back byte for byte.  For reading, a line is shown without its
terminator: the line feed and at most one carriage return before it.

## Main definitions

* `terminated` — the lines of a text, terminators kept.
* `withoutTerminator` — one line without its terminator.
* `lines` — the lines of a text as they read.
* `tail` — the last lines of a text.
* `numbered` — the lines of a text under right-aligned numbers.

## Main results

* `flatten_terminated` — **cutting into lines loses nothing.**
-/

namespace HarnessRepair.Text

/-- The lines of a text, each with the line feed that ends it.  Only the last
line may lack one, and no line is empty. -/
def terminated : List Char → List (List Char)
  | [] => []
  | c :: cs =>
    if c = '\n' then [c] :: terminated cs
    else
      match terminated cs with
      | [] => [[c]]
      | l :: ls => (c :: l) :: ls

/-- The lines of a text put together are the text. -/
@[simp] theorem flatten_terminated (cs : List Char) : (terminated cs).flatten = cs := by
  induction cs with
  | nil => rfl
  | cons c cs ih =>
    unfold terminated
    split
    · simp [ih]
    · split
      · next h => rw [h] at ih; simp at ih; simp [← ih]
      · next l ls h => rw [h] at ih; simp at ih; simp [ih]

/-- A line without its terminator: the final line feed and one carriage return
before it.  A line that no line feed ends is left as it is. -/
def withoutTerminator (line : List Char) : List Char :=
  match line.reverse with
  | '\n' :: '\r' :: rest => rest.reverse
  | '\n' :: rest => rest.reverse
  | _ => line

/-- The lines of a text as lists of characters, without terminators. -/
def lineChars (cs : List Char) : List (List Char) := (terminated cs).map withoutTerminator

/-- The lines of a text, without terminators. -/
def lines (s : String) : List String := (lineChars s.toList).map String.ofList

/-- The last `n` lines of a text, joined by line feeds. -/
def tail (s : String) (n : Nat) : String :=
  let all := lines s
  "\n".intercalate (all.drop (all.length - n))

/-- `padLeft width s` is `s` with spaces in front up to `width` characters. -/
def padLeft (width : Nat) (s : String) : String :=
  String.ofList (List.replicate (width - s.length) ' ') ++ s

/-- Each line under its number, counted from `first`, one line feed after each. -/
def numberedFrom (width : Nat) : Nat → List String → String
  | _, [] => ""
  | n, l :: ls => padLeft width (toString n) ++ ": " ++ l ++ "\n" ++ numberedFrom width (n + 1) ls

/-- The lines of a text under right-aligned numbers that start at `first`.  The
width is that of the number after the last. -/
def numbered (s : String) (first : Nat) : String :=
  let ls := lines s
  numberedFrom (toString (first + ls.length)).length first ls

end HarnessRepair.Text
