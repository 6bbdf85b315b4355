import HarnessRepair.Json.Value
import HarnessRepair.Text.Blank
import HarnessRepair.Text.Numeral
import HarnessRepair.Yaml.Plain

/-!
# Settings in variables

An environment variable whose name starts with `PROOFMEND_` sets one field; two
underlines in the name lead from a section to its field.  The text of the variable
may write a number, a truth value, a list or a dictionary; anything else is a text.

## Main definitions

* `Environment` — the variables of a run.
* `valueOfText` — what the text of a variable writes.
* `settingPath?` — the field that a variable sets.
* `valueAt` — a value at a path, as a nested object.
-/

namespace HarnessRepair

open Json Text

/-- The variables of a run. -/
abbrev Environment := List (String × String)

/-- The value of a variable. -/
def Environment.get? (env : Environment) (name : String) : Option String := env.lookup name

/-! ### Values -/

/-- White space of ASCII. -/
def isAsciiBlank (c : Char) : Bool :=
  c == ' ' || c == '\t' || c == '\n' || c == '\r' || c.toNat == 12

/-- The characters that end a bare value. -/
def isDelimiter (c : Char) : Bool := c == ',' || c == '[' || c == ']' || c == '\x7b' || c == '\x7d'

/-- The characters of a bare key. -/
def isKeyChar (c : Char) : Bool :=
  ('a' ≤ c && c ≤ 'z') || ('A' ≤ c && c ≤ 'Z') || ('0' ≤ c && c ≤ '9') || c == '_' || c == '-'

/-- The integer that a bare value writes. -/
def bareInteger? (s : String) : Option Number :=
  match s.toList with
  | '-' :: rest =>
    (natOfDigits? rest).filter (· ≤ 9223372036854775808) |>.map fun n => ⟨n != 0, n, 0, true⟩
  | _ => (unsigned? wordLimit s).map fun n => ⟨false, n, 0, true⟩

/-- What a bare value stands for. -/
def bareValue (s : String) : Value :=
  match (if s.toList.contains '.' then Yaml.decimal? s.toList else none).or (bareInteger? s) with
  | some n => .number n
  | none => .ofText s

/-- Whether a character may stand for itself between quotes. -/
def isQuotable (c : Char) : Bool := c == '\t' || (' ' ≤ c && c.toNat != 0x7F)

/-- The text that a text with escapes writes. -/
def unescape? : Nat → List Char → Option (List Char)
  | 0, _ => none
  | fuel + 1, cs =>
    match cs with
    | [] => some []
    | '\\' :: 'u' :: rest => code fuel 4 rest
    | '\\' :: 'U' :: rest => code fuel 8 rest
    | '\\' :: c :: rest => do
      let n ← [('b', 8), ('t', 9), ('n', 10), ('f', 12), ('r', 13), ('"', 34), ('\\', 92)].lookup c
      return Char.ofNat n :: (← unescape? fuel rest)
    | c :: rest => if isQuotable c then (unescape? fuel rest).map (c :: ·) else none
where
  code (fuel count : Nat) (cs : List Char) : Option (List Char) := do
    if cs.length < count then none
    let n ← natOfHexFrom? 0 (cs.take count)
    if n < 0xD800 || (0xDFFF < n && n < 0x110000) then
      (unescape? fuel (cs.drop count)).map (Char.ofNat n :: ·)
    else none

/-- The longest start of a text that a number of bytes holds. -/
def withinBytes : Nat → List Char → List Char
  | _, [] => []
  | n, c :: rest => if c.utf8Size ≤ n then c :: withinBytes (n - c.utf8Size) rest else []

/-- The text between quotes.  In front of the first escape it keeps no more bytes than
there are characters. -/
def textBetweenQuotes? (cs : List Char) : Option (List Char) := do
  let front := cs.takeWhile (· != '\\')
  let text ← unescape? (cs.length + 1) (cs.drop front.length)
  if !front.all isQuotable then none
  return (if front.length = cs.length then front else withinBytes front.length front) ++ text

/-- What is up to the closing quote, and what is behind it. -/
def splitAtQuote? : List Char → Option (List Char × List Char)
  | [] => none
  | '"' :: rest => some ([], rest)
  | '\\' :: c :: rest => (splitAtQuote? rest).map fun (text, behind) => ('\\' :: c :: text, behind)
  | c :: rest => (splitAtQuote? rest).map fun (text, behind) => (c :: text, behind)

/-- The text up to the closing quote, and what is behind it. -/
def quotedText? (cs : List Char) : Option (String × List Char) := do
  let (inner, behind) ← splitAtQuote? cs
  return (String.ofList (← textBetweenQuotes? inner), behind)

/-- A text without the white space in front. -/
def dropBlank (cs : List Char) : List Char := cs.dropWhile isAsciiBlank

/-- A key of a dictionary, and what is behind it. -/
def readVariableKey (cs : List Char) : Option (String × List Char) :=
  match cs with
  | '"' :: rest => quotedText? rest
  | _ =>
    let key := cs.takeWhile isKeyChar
    if key.isEmpty then none else some (String.ofList key, cs.drop key.length)

mutual

/-- A value, and what is behind it. -/
def readVariableValue : Nat → List Char → Option (Value × List Char)
  | 0, _ => none
  | fuel + 1, cs => do
    let (v, rest) ←
      match dropBlank cs with
      | 't' :: 'r' :: 'u' :: 'e' :: rest => some (Value.bool true, rest)
      | 'f' :: 'a' :: 'l' :: 's' :: 'e' :: rest => some (Value.bool false, rest)
      | '[' :: rest => (readVariableItems fuel rest).map fun (items, r) => (Value.array items, r)
      | '\x7b' :: rest =>
        (readVariableEntries fuel rest).map fun (entries, r) => (Value.ofObject entries, r)
      | '"' :: rest => (quotedText? rest).map fun (s, r) => (Value.ofText s, r)
      | '\'' :: c :: '\'' :: rest => some (Value.ofText c.toString, rest)
      | '\'' :: _ => none
      | rest =>
        let bare := rest.takeWhile fun c => !isDelimiter c
        some (bareValue (trim (String.ofList bare)), rest.drop bare.length)
    return (v, dropBlank rest)

/-- The items of a list up to its closing bracket. -/
def readVariableItems : Nat → List Char → Option (List Value × List Char)
  | 0, _ => none
  | fuel + 1, cs =>
    match cs with
    | ']' :: rest => some ([], rest)
    | _ => do
      let (v, rest) ← readVariableValue fuel cs
      match rest with
      | ',' :: rest => do
        let (items, last) ← readVariableItems fuel rest
        return (v :: items, last)
      | ']' :: rest => return ([v], rest)
      | _ => none

/-- The entries of a dictionary up to its closing brace. -/
def readVariableEntries : Nat → List Char → Option (List (String × Value) × List Char)
  | 0, _ => none
  | fuel + 1, cs =>
    match cs with
    | '\x7d' :: rest => some ([], rest)
    | _ => do
      let (key, rest) ← readVariableKey (dropBlank cs)
      match dropBlank rest with
      | '=' :: rest => do
        let (v, rest) ← readVariableValue fuel rest
        match rest with
        | ',' :: rest => do
          let (entries, last) ← readVariableEntries fuel rest
          return ((key, v) :: entries, last)
        | '\x7d' :: rest => return ([(key, v)], rest)
        | _ => none
      | _ => none

end

/-- What the text of a variable writes. -/
def valueOfText (s : String) : Value :=
  match readVariableValue (2 * s.length + 2) s.toList with
  | some (v, []) => v
  | _ => .ofText s

/-! ### Names -/

/-- How the names of variables that set fields start. -/
def variableMark : String := "PROOFMEND_"

/-- A text in which the letters of ASCII are small. -/
def lowerAscii (cs : List Char) : List Char := cs.map Char.toLower

/-- A text with each pair of underlines replaced by a point. -/
def pointSections : List Char → List Char
  | '_' :: '_' :: rest => '.' :: pointSections rest
  | c :: rest => c :: pointSections rest
  | [] => []

/-- The path to the field that a variable sets; none if it sets none. -/
def settingPath? (name : String) : Option (List String) := do
  let key ← stripPrefix? (lowerAscii variableMark.toList) (lowerAscii (trimChars name.toList))
  let path := splitOnChar '.' (trim (String.ofList (pointSections key)))
  if path.any String.isEmpty then none else some path

/-- A value at a path, as a nested object. -/
def valueAt (v : Value) : List String → Value
  | [] => v
  | key :: rest => .ofObject [(key, valueAt v rest)]

end HarnessRepair
