import HarnessRepair.Text.Numeral
import HarnessRepair.Yaml.Cursor
import HarnessRepair.Yaml.Token

/-!
# Anchors, tags and directives

An anchor names a node, an alias stands for the node of a name, and a tag says what
a node is.  A directive in front of a document tells a version or a handle of tags.

## Main definitions

* `readName` — an anchor or an alias.
* `decodeEscapes?` — the bytes of a tag.
* `readTag` — a tag.
* `readDirective` — a directive.
-/

namespace HarnessRepair.Yaml

open Text

/-- The name of an anchor or an alias, the indicator of which is ahead. -/
def readName (c : Cursor) : Option (String × Cursor) :=
  let name := (c.rest.drop 1).takeWhile isWordChar
  let next := c.forward (name.length + 1)
  if name.isEmpty then none
  else if next.atBlank || next.rest.head?.any ("?:,]\x7d%@".toList ++ ['\x60']).contains then
    some (String.ofList name, next)
  else none

/-- The characters of a tag; within angle brackets, and in directives, those that delimit
flow sequences count, too. -/
def isTagChar (verbatim : Bool) (c : Char) : Bool :=
  isWordChar c || ";/?:@&=+$.%!~*'()".toList.contains c || (verbatim && ",[]".toList.contains c)

/-- How many bytes a character takes that starts with a byte. -/
def widthOf? (byte : Nat) : Option Nat :=
  if byte < 0x80 then some 1
  else if byte < 0xC0 then none
  else if byte < 0xE0 then some 2
  else if byte < 0xF0 then some 3
  else if byte < 0xF8 then some 4
  else none

/-- How many bytes are missing behind a byte, if so many were in front of it; none if it
does not belong there. -/
def missingBehind? (missing byte : Nat) : Option Nat :=
  if missing = 0 then (widthOf? byte).map (· - 1)
  else if 0x80 ≤ byte && byte < 0xC0 then some (missing - 1)
  else none

/-- The bytes that some characters write, a character each.  Behind a percent sign two digits
write one, and the bytes of a character are all written so. -/
def decodeEscapes? : Nat → List Char → Option (List Char)
  | missing, [] => if missing = 0 then some [] else none
  | missing, '%' :: a :: b :: rest => do
    let byte := 16 * (← hexValue? a) + (← hexValue? b)
    return Char.ofNat byte :: (← decodeEscapes? (← missingBehind? missing byte) rest)
  | missing, c :: rest =>
    if missing ≠ 0 ∨ c = '%' then none else (decodeEscapes? 0 rest).map (c :: ·)

/-- Whether a zero byte is ahead, or nothing. -/
def isVoid (bytes : List Char) : Bool := bytes.head?.all (· == '\x00')

/-- The text of some bytes, which ends in front of a zero. -/
def upToZero (bytes : List Char) : String := String.ofList (bytes.takeWhile (· != '\x00'))

/-- The bytes of a tag ahead, none of which need be there, and whether they are. -/
def readTagBytes (verbatim : Bool) (c : Cursor) : Option (List Char × Bool × Cursor) :=
  let text := c.rest.takeWhile (isTagChar verbatim)
  (decodeEscapes? 0 text).map fun bytes => (bytes, !text.isEmpty, c.forward text.length)

/-- The handle ahead, which starts with an exclamation mark and may end with one. -/
def readHandle (c : Cursor) : List Char × Cursor :=
  let word := (c.rest.drop 1).takeWhile isWordChar
  let close := (c.rest.drop (word.length + 1)).head? == some '!'
  ('!' :: word ++ (if close then ['!'] else []),
    c.forward (word.length + (if close then 2 else 1)))

/-- A tag, the exclamation mark of which is ahead: its handle and what follows that. -/
def readTag (flow : Bool) (c : Cursor) : Option (Token × Cursor) := do
  let (tag, next) ←
    match c.rest with
    | '!' :: '<' :: _ => do
      let (bytes, present, next) ← readTagBytes true (c.forward 2)
      if !present || next.rest.head? != some '>' then none
      else some (Token.tag "" (upToZero bytes), next.forward 1)
    | _ => do
      let (handle, behind) := readHandle c
      let (bytes, present, next) ← readTagBytes false behind
      if 1 < handle.length && handle.getLast? == some '!' then
        if present then some (Token.tag (String.ofList handle) (upToZero bytes), next) else none
      else
        let suffix := handle.drop 1 ++ bytes
        if isVoid suffix then some (Token.tag "" "!", next)
        else some (Token.tag "!" (upToZero suffix), next)
  if next.atBlank || (flow && next.rest.head? == some ',') then some (tag, next) else none

/-- A number of at most nine digits, and what is behind it. -/
def readVersionPart (c : Cursor) : Option (Nat × Cursor) :=
  let digits := c.rest.takeWhile Char.isDigit
  if 9 < digits.length then none
  else (natOfDigits? digits).map fun n => (n, c.forward digits.length)

/-- A version behind its directive. -/
def readVersion (c : Cursor) : Option (Token × Cursor) := do
  let (major, next) ← readVersionPart c.pastSpacing
  if next.rest.head? != some '.' then none
  let (minor, next) ← readVersionPart (next.forward 1)
  return (.version major minor, next)

/-- A handle of tags and what it stands for, behind its directive. -/
def readHandleMeaning (c : Cursor) : Option (Token × Cursor) := do
  let c := c.pastSpacing
  if c.rest.head? != some '!' then none
  let (handle, next) := readHandle c
  if handle != ['!'] && (handle.length < 2 || handle.getLast? != some '!') then none
  if !next.rest.head?.any isSpacing then none
  let (expansion, present, next) ← readTagBytes true next.pastSpacing
  if !present || !next.atBlank then none
  return (.handle (String.ofList handle) (upToZero expansion), next)

/-- A directive, the percent sign of which is ahead, and the line behind it. -/
def readDirective (c : Cursor) : Option (Token × Cursor) := do
  let name := (c.rest.drop 1).takeWhile isWordChar
  let behind := c.forward (name.length + 1)
  if name.isEmpty || !behind.atBlank then none
  let (token, next) ←
    if name == "YAML".toList then readVersion behind
    else if name == "TAG".toList then readHandleMeaning behind
    else none
  let next := next.pastSpacing.pastComment
  if next.atLineEnd then some (token, next.pastBreak) else none

end HarnessRepair.Yaml
