import HarnessRepair.Shell.Script

/-!
# The source of a script

A script is read character by character, from its text and from the texts of the
aliases found in it.  A backslash in front of a line end joins two lines.

## Main definitions

* `ScriptFault` — why a text is no script.
* `Token` — the units of a script, and `Token.description`.
* `Reader` — the state of reading.
* `Reading` — a computation on it.
-/

namespace HarnessRepair.Shell

/-- Why a text is no script, and the line where that shows. -/
structure ScriptFault where
  line : Nat
  reason : String
  deriving DecidableEq, Repr

/-- The words for a text that is no script. -/
def ScriptFault.message (f : ScriptFault) : String := "Syntax error: " ++ f.reason

/-- A unit of a script. -/
inductive Token where
  | endOfText
  | newline
  | operator (s : String)
  /-- An arrow; what it does is a part of the state of reading. -/
  | redirection
  /-- A word; its pieces are a part of the state of reading. -/
  | word
  | reserved (s : String)
  deriving DecidableEq, Repr

/-- How a token is called in a message. -/
def Token.description : Token → String
  | .endOfText => "end of file"
  | .newline => "newline"
  | .operator s | .reserved s => "\"" ++ s ++ "\""
  | .redirection => "redirection"
  | .word => "word"

/-- Whether a list of commands ends in front of a token. -/
def Token.endsList : Token → Bool
  | .endOfText => true
  | .operator s => s == ")" || s == ";;"
  | .reserved s => ["do", "done", "elif", "else", "esac", "fi", "then", "\x7d"].contains s
  | _ => false

/-- The words that are reserved at the start of a command. -/
def reservedWords : List String :=
  ["!", "case", "do", "done", "elif", "else", "esac", "fi", "for", "if", "in", "then", "until",
    "while", "\x7b", "\x7d"]

/-- What the reader looks for in the next token. -/
structure Expectation where
  /-- Line ends in front are passed over. -/
  skipsLines : Bool := false
  reservedWords : Bool := false
  aliases : Bool := false
  /-- The word ends a text in the script, and nothing in it is expanded. -/
  delimiter : Bool := false
  deriving DecidableEq, Repr

/-- What is expected at the start of a command. -/
def Expectation.command : Expectation := { reservedWords := true, aliases := true }

/-- What is expected at the start of a command behind line ends. -/
def Expectation.commandBehindLines : Expectation :=
  { skipsLines := true, reservedWords := true, aliases := true }

/-- A text to be read.  That of an alias comes before the text that it stands in. -/
structure SourceText where
  rest : List Char
  /-- The alias, and whether its text ends in a blank. -/
  origin : Option (String × Bool) := none

/-- A text in the script that is still to be read. -/
structure Awaited where
  index : Nat
  delimiter : List Char
  /-- Tabs in front of its lines are dropped. -/
  tabs : Bool
  /-- Nothing is expanded in it. -/
  literal : Bool

/-- The state of reading. -/
structure Reader where
  texts : List SourceText
  line : Nat := 1
  /-- The last token is to be read again. -/
  again : Bool := false
  last : Token := .newline
  word : Word := []
  /-- Some of the last word is quoted. -/
  quoted : Bool := false
  /-- The redirection that the last arrow makes, still without its target. -/
  arrow : Nat × RedirectKind := (1, .write)
  expects : Expectation := {}
  /-- Texts in the script that begin behind the line at hand. -/
  awaited : List Awaited := []
  /-- Texts in the script that have been read. -/
  inlines : List InlineText := []
  nextInline : Nat := 0
  aliases : List (String × String) := []

/-- A computation on the state of reading. -/
abbrev Reading := StateT Reader (Except ScriptFault)

namespace Reading

/-- Tells that the text is no script. -/
def fault {α : Type} (reason : String) : Reading α := fun r => .error ⟨r.line, reason⟩

/-- Leaves texts of aliases that have come to their end. -/
def leaveTexts (expects : Expectation) : List SourceText → List SourceText × Expectation
  | ⟨[], some (_, blank)⟩ :: more =>
    leaveTexts (if blank then { expects with aliases := true } else expects) more
  | texts => (texts, expects)

/-- The next character, as it stands. -/
def raw : Reading (Option Char) := fun r =>
  let (texts, expects) := leaveTexts r.expects r.texts
  match texts with
  | ⟨c :: rest, origin⟩ :: more =>
    .ok (some c, { r with
      texts := ⟨rest, origin⟩ :: more
      expects := expects
      line := if c = '\n' then r.line + 1 else r.line })
  | _ => .ok (none, { r with texts := texts, expects := expects })

/-- A text without the joints of lines in front, and their number. -/
def dropJoints : List Char → Nat × List Char
  | '\\' :: '\n' :: rest =>
    let (n, rest) := dropJoints rest
    (n + 1, rest)
  | cs => (0, cs)

/-- The next character behind the joints of lines. -/
def next : Reading (Option Char) := do
  modify fun r =>
    match r.texts with
    | t :: more =>
      let (n, rest) := dropJoints t.rest
      { r with texts := { t with rest := rest } :: more, line := r.line + n }
    | [] => r
  raw

/-- Puts a character back. -/
def unread (c : Option Char) : Reading Unit := modify fun r =>
  match c, r.texts with
  | some c, t :: more =>
    { r with
      texts := { t with rest := c :: t.rest } :: more
      line := if c = '\n' then r.line - 1 else r.line }
  | _, _ => r

/-- The characters at the front that belong to a class. -/
def takeWhile (accepts : Char → Bool) : Nat → Reading (List Char)
  | 0 => pure []
  | fuel + 1 => do
    match ← next with
    | some c =>
      if accepts c then return c :: (← takeWhile accepts fuel)
      unread (some c)
      return []
    | none => return []

/-- The number of characters that are left. -/
def size : Reading Nat := do
  return (← get).texts.foldl (fun n t => n + t.rest.length) 1

/-- Passes over the rest of a line. -/
def skipLine : Reading Unit := modify fun r =>
  match r.texts with
  | t :: more => { r with texts := { t with rest := t.rest.dropWhile (· != '\n') } :: more }
  | [] => r

/-- Reads a text of its own in the middle of another. -/
def inText {α : Type} (text : List Char) (line : Nat) (a : Reading α) : Reading α := do
  let outer ← get
  set { outer with texts := [⟨text, none⟩], line := line }
  let result ← a
  modify fun inner => { inner with texts := outer.texts, line := outer.line }
  return result

end Reading

end HarnessRepair.Shell
