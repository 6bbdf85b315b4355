import HarnessRepair.Text.Numeral
import HarnessRepair.Text.Printable

/-!
# Quoted texts

Log fields show texts, lists of texts and optional values in one unambiguous
form: double quotes around a text, escapes for quotes, controls, and every
character that does not print on its own.

## Main definitions

* `quote` — a text in double quotes.
* `quoteList`, `showOption` — lists and optional values in the same form.
-/

namespace HarnessRepair.Text

/-- One character inside double quotes. -/
def quoteChar (c : Char) : List Char :=
  if c = '"' then ['\\', '"']
  else if c = '\\' then ['\\', '\\']
  else if c = '\n' then ['\\', 'n']
  else if c = '\r' then ['\\', 'r']
  else if c = '\t' then ['\\', 't']
  else if c.toNat = 0 then ['\\', '0']
  else if isUnprintable c || extendsGrapheme c then
    ['\\', 'u', '\x7b'] ++ hex c.toNat ++ ['\x7d']
  else [c]

/-- A text in double quotes. -/
def quote (s : String) : String :=
  String.ofList ('"' :: s.toList.flatMap quoteChar ++ ['"'])

/-- A list of texts, each in double quotes. -/
def quoteList (ss : List String) : String :=
  "[" ++ ", ".intercalate (ss.map quote) ++ "]"

/-- An optional value, named by its case. -/
def showOption : Option String → String
  | none => "None"
  | some s => "Some(" ++ s ++ ")"

end HarnessRepair.Text
