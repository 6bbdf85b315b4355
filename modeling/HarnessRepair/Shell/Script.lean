/-!
# Shell scripts

The commands of a harness are given to a shell as scripts.  A script is a tree of
commands, whose words are texts mixed with expansions.  All texts have a character
for every byte.

## Main definitions

* `Expansion`, `Piece`, `Word` — the words of a command.
* `Redirect` — where a command reads and writes.
* `Script` — the tree.
-/

namespace HarnessRepair.Shell

/-- What an expansion makes of its parameter.  With `blankToo`, a parameter that is
set to the empty text counts as one that is not set. -/
inductive Expansion where
  | value
  | length
  | orDefault (blankToo : Bool)
  | assigning (blankToo : Bool)
  | orFail (blankToo : Bool)
  | ifSet (blankToo : Bool)
  | withoutStart (longest : Bool)
  | withoutEnd (longest : Bool)
  /-- Braces around something that is no expansion. -/
  | meaningless
  deriving DecidableEq, Repr

/-- What a redirection does with its descriptor. -/
inductive RedirectKind where
  | read
  | write
  /-- Writes over a file even if files are protected. -/
  | overwrite
  | append
  | readWrite
  | duplicate
  /-- Reads from the text with a number that stands in the script itself. -/
  | inline (index : Nat)
  deriving DecidableEq, Repr

mutual

/-- A piece of a word.  A quoted piece is never split. -/
inductive Piece where
  | text (s : String) (quoted : Bool)
  | parameter (name : String) (expansion : Expansion) (operand : List Piece) (quoted : Bool)
  /-- The output of a script. -/
  | output (script : Script) (quoted : Bool)
  /-- The value of an arithmetic expression. -/
  | sum (expression : List Piece) (quoted : Bool)

/-- One redirection. -/
inductive Redirect where
  | mk (descriptor : Nat) (kind : RedirectKind) (target : List Piece)

/-- A script. -/
inductive Script where
  | nothing
  /-- Assignments, words and redirections, with the number of the line they stand on. -/
  | simple (line : Nat) (assignments : List (String × List Piece)) (words : List (List Piece))
      (redirects : List Redirect)
  | sequence (a b : Script)
  | andThen (a b : Script)
  | orElse (a b : Script)
  | background (a : Script)
  | negate (a : Script)
  /-- Commands of which each reads what the one before writes. -/
  | pipeline (commands : List Script)
  | redirected (line : Nat) (a : Script) (redirects : List Redirect)
  | subshell (line : Nat) (a : Script) (redirects : List Redirect)
  /-- Repeats `body` while `condition` succeeds, or while it fails. -/
  | loop (whileFails : Bool) (condition body : Script)
  /-- Runs `body` for each of some words. -/
  | each (line : Nat) (name : String) (items : List (List Piece)) (body : Script)
  | choice (condition yes no : Script)
  | cases (line : Nat) (subject : List Piece) (branches : List (List (List Piece) × Script))
  | define (name : String) (body : Script)

end

/-- A word is made of pieces that stand side by side. -/
abbrev Word := List Piece

/-- A text that stands in a script, by its number. -/
abbrev InlineText := Nat × Word

/-- The characters that start a name. -/
def isNameStart (c : Char) : Bool := c.isAlpha || c == '_'

/-- The characters of a name. -/
def isNameChar (c : Char) : Bool := c.isAlphanum || c == '_'

/-- Whether a text can be the name of a variable. -/
def isName (s : String) : Bool :=
  match s.toList with
  | c :: cs => isNameStart c && cs.all isNameChar
  | [] => false

/-- The name and the value that a word assigns: a name, an unquoted equals sign, and the
rest. -/
def assignment? : Word → Option (String × Word)
  | .text s false :: more =>
    let name := s.toList.takeWhile isNameChar
    match s.toList.drop name.length with
    | '=' :: value =>
      if isName (String.ofList name) then
        let front := if value.isEmpty then [] else [Piece.text (String.ofList value) false]
        some (String.ofList name, front ++ more)
      else none
    | _ => none
  | _ => none

/-- The characters of a word without its quotes. -/
def plainText (w : Word) : String :=
  String.join (w.map fun p => match p with
    | .text s _ => s
    | _ => "")

/-- Whether some of a word is quoted. -/
def hasQuotes (w : Word) : Bool :=
  w.any fun p => match p with
    | .text _ quoted => quoted
    | _ => false

/-- The text of a word that is one text without quotes. -/
def bareText? : Word → Option String
  | [.text s false] => some s
  | _ => none

end HarnessRepair.Shell
