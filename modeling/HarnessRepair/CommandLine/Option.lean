import HarnessRepair.Text.Search

/-!
# Options

What a level of the command line understands: options behind one dash or two, at
most one argument without a dash, and the names of commands.

## Main definitions

* `ArgumentError` — why arguments are refused, or answered on the spot.
* `ValueKind`, `OptionKind`, `OptionRule` — an option.
* `Level` — the options of a level, and the commands below it.
-/

namespace HarnessRepair.CommandLine

/-- Why arguments are refused.  A wish for help or for the version ends the reading
too. -/
inductive ArgumentError where
  | helpAsked
  | versionAsked
  /-- Not a single argument was given, and some are needed. -/
  | nothingGiven
  | commandMissing
  | commandUnknown
  | argumentUnknown
  | valueInvalid
  /-- A value was given to an option that takes none. -/
  | valueNeedless
  | optionRepeated
  | optionMissing
  deriving DecidableEq, Repr

/-- The values that an option takes. -/
inductive ValueKind where
  | text
  /-- A path: any text but the empty one. -/
  | path
  | oneOf (names : List String)
  deriving DecidableEq, Repr

/-- Whether a text is such a value. -/
def ValueKind.admits : ValueKind → String → Bool
  | .text, _ => true
  | .path, s => !s.isEmpty
  | .oneOf names, s => names.contains s

/-- What an option is for. -/
inductive OptionKind where
  | help
  | version
  /-- Given or not. -/
  | flag
  /-- One value. -/
  | single (kind : ValueKind)
  /-- Texts, several of them between commas, any number of times. -/
  | list
  deriving DecidableEq, Repr

/-- Whether an option is followed by a value. -/
def OptionKind.takesValue : OptionKind → Bool
  | .single _ | .list => true
  | .help | .version | .flag => false

/-- An option. -/
structure OptionRule where
  /-- The name behind two dashes. -/
  name : String
  /-- The letter behind one dash. -/
  letter : Option Char := none
  kind : OptionKind
  deriving DecidableEq, Repr

/-- A level of the command line. -/
structure Level where
  options : List OptionRule
  /-- What an argument without a dash is. -/
  positional : Option OptionRule := none
  commands : List String := []
  deriving DecidableEq, Repr

namespace Level

/-- The option with a name. -/
def named? (l : Level) (name : String) : Option OptionRule :=
  l.options.find? (·.name == name)

/-- The option with a letter. -/
def lettered? (l : Level) (c : Char) : Option OptionRule :=
  l.options.find? (·.letter == some c)

end Level

end HarnessRepair.CommandLine
