import HarnessRepair.Failure
import HarnessRepair.Patch.Basic
import HarnessRepair.Text.Lines
import HarnessRepair.Text.WordChar

/-!
# Inserting a patch into a source text

A source text is a list of lines with their terminators.  A patch looks for the
definition of its function, for its anchor line within that function, and puts
its statements there, indented like the anchor.

## Main definitions

* `definesFunction` — whether a line defines a function.
* `functionSpan?` — where a definition starts and where its body ends.
* `anchorAt?` — the anchor line, and the line before which statements go.
* `insertPatch` — the lines with a patch in them.
-/

namespace HarnessRepair

open Text

/-- A line of source text, with its terminator. -/
abbrev Line := List Char

/-! ### Statements -/

/-- The lines of a statement that are not blank, trimmed. -/
def statementLines (statement : String) : List (List Char) :=
  ((lineChars statement.toList).map trimChars).filter (!·.isEmpty)

/-- The terminator for new lines: a carriage return is added where the text has one. -/
def newlineOf (source : List Char) : List Char :=
  if occurs ['\r', '\n'] source then ['\r', '\n'] else ['\n']

/-! ### Definitions of functions -/

/-- What may stand before the name in a definition: words, blanks and asterisks. -/
def mayPrecedeName (c : Char) : Bool := c.isAlphanum || c == '_' || c == '*' || isBlank c

/-- Whether a text starts with a name, blanks, and an opening parenthesis. -/
def startsCall (name cs : List Char) : Bool :=
  match stripPrefix? name cs with
  | some rest => (trimStartChars rest).head? == some '('
  | none => false

/-- Whether a name with an opening parenthesis follows, on a word boundary, behind
nothing but words, blanks and asterisks. -/
def definesFrom (name : List Char) : Option Char → List Char → Bool
  | before, [] => isBoundary before none && startsCall name []
  | before, c :: cs =>
    (isBoundary before (some c) && startsCall name (c :: cs)) ||
      (mayPrecedeName c && definesFrom name (some c) cs)

/-- Whether a line defines the function `name`.  A line that ends in a semicolon
only declares it. -/
def definesFunction (name : List Char) (line : Line) : Bool :=
  definesFrom name none line && (trimEndChars line).getLast? != some ';'

/-- Braces seen so far: how many are open, and whether any has been. -/
structure BraceCount where
  depth : Nat := 0
  opened : Bool := false
  deriving DecidableEq, Repr

/-- One more character. -/
def BraceCount.step (b : BraceCount) (c : Char) : BraceCount :=
  if c = '\x7b' then ⟨b.depth + 1, true⟩
  else if c = '\x7d' then { b with depth := b.depth - 1 }
  else b

/-- One more line. -/
def BraceCount.stepLine (b : BraceCount) (line : Line) : BraceCount := line.foldl step b

/-- Whether a brace has been opened and all are closed. -/
def BraceCount.isClosed (b : BraceCount) : Bool := b.opened && b.depth == 0

/-- How many lines it takes until the braces are closed; all of them if they never are. -/
def spanLength (b : BraceCount) : List Line → Nat
  | [] => 0
  | l :: ls =>
    let b := b.stepLine l
    if b.isClosed then 1 else spanLength b ls + 1

/-- The line that defines a function, and the first line behind its body. -/
def functionSpan? (lines : List Line) (name : List Char) : Option (Nat × Nat) :=
  (lines.findIdx? (definesFunction name)).map fun start =>
    (start, start + spanLength {} (lines.drop start))

/-! ### Anchors -/

/-- The first line of the span, counted from `start`, that holds `needle` when
blanks do not count.  An empty needle is in no line. -/
def findInSpan? (needle : List Char) (start : Nat) (span : List Line) : Option Nat :=
  if needle.isEmpty then none
  else (span.findIdx? fun l => occurs needle (squash l)).map (start + ·)

/-- The anchor line of a patch within a span, and the line before which the
statements go: behind the previous line, or else before the next line. -/
def anchorAt? (a : Anchor) (start : Nat) (span : List Line) : Option (Nat × Nat) :=
  match findInSpan? (squash a.previousLine.toList) start span with
  | some i => some (i, i + 1)
  | none => (findInSpan? (squash a.nextLine.toList) start span).map fun i => (i, i)

/-- The first of some statements that a span already holds, when blanks do not count. -/
def duplicate? (span : List Line) (statements : List (List Char)) : Option (List Char) :=
  statements.find? fun s => span.any fun l => squash l == squash s

/-! ### Insertion -/

/-- The blanks and tabs in front of a line. -/
def indentOf (line : Line) : List Char := line.takeWhile fun c => c == ' ' || c == '\t'

/-- A line with a terminator, added if it lacks one. -/
def terminate (newline : List Char) (line : Line) : Line :=
  if line.getLast? = some '\n' then line else line ++ newline

/-- Terminates the last of some lines. -/
def terminateLast (newline : List Char) (lines : List Line) : List Line :=
  match lines.getLast? with
  | some l => lines.dropLast ++ [terminate newline l]
  | none => []

/-- Puts a block of lines before the line `line`, which must not follow an
unterminated one. -/
def insertAt (newline : List Char) (block : List Line) (line : Nat) (lines : List Line) :
    List Line :=
  terminateLast newline (lines.take line) ++ block ++ lines.drop line

/-- The lines that a statement becomes behind an indentation. -/
def blockOf (indent newline : List Char) (statements : List (List Char)) : List Line :=
  statements.map fun s => indent ++ s ++ newline

/-- The lines with a patch in them, and the 1-based number of its first line. -/
def insertPatch (newline : List Char) (lines : List Line) (p : Patch) :
    Except PatchError (List Line × Nat) :=
  let name := p.anchor.functionName
  match functionSpan? lines name.toList with
  | none => .error (.functionNotFound name)
  | some (start, stop) =>
    let span := (lines.drop start).take (stop - start)
    let statements := statementLines p.statement
    match duplicate? span statements with
    | some s => .error (.duplicate (String.ofList s))
    | none =>
      match anchorAt? p.anchor start span with
      | none => .error (.anchorNotFound name p.anchor.previousLine p.anchor.nextLine)
      | some (anchor, line) =>
        let indent := indentOf (lines.getD anchor [])
        .ok (insertAt newline (blockOf indent newline statements) line lines, line + 1)

/-! ### Small facts -/

@[simp] theorem terminate_of_getLast? {newline : List Char} {line : Line}
    (h : line.getLast? = some '\n') : terminate newline line = line := by
  simp [terminate, h]

end HarnessRepair
