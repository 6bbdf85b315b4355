/-!
# Places in a YAML text

A YAML text is read from front to back.  Its lines and columns matter, so the text
ahead is kept together with the place where it starts.

## Main definitions

* `isBreak`, `isSpacing`, `isFlowMark` — classes of characters.
* `unifyBreaks` — a text in which every common line break is the same character.
* `Mark`, `Cursor` — a place, and the text ahead of it.
* `Cursor.atDocumentMark` — whether a line that parts documents is ahead.
-/

namespace HarnessRepair.Yaml

/-! ### Characters -/

/-- The character that ends a line, and the separators of lines and of paragraphs. -/
def isBreak (c : Char) : Bool := c == '\n' || c.toNat == 0x2028 || c.toNat == 0x2029

/-- A space or a tab. -/
def isSpacing (c : Char) : Bool := c == ' ' || c == '\t'

/-- The characters that delimit flow nodes. -/
def isFlowMark (c : Char) : Bool := c == ',' || c == '[' || c == ']' || c == '\x7b' || c == '\x7d'

/-- A letter, a digit, a hyphen or an underline. -/
def isWordChar (c : Char) : Bool := c.isAlphanum || c == '-' || c == '_'

/-- Whether a text starts with a space, a tab or a line break, or is at its end. -/
def startsBlank : List Char → Bool
  | [] => true
  | c :: _ => isSpacing c || isBreak c

/-- The characters of a document: no control characters but tabs and line breaks. -/
def isAllowed (c : Char) : Bool :=
  c == '\t' || c == '\n' || c == '\r' || (' ' ≤ c && c ≤ '~') || c.toNat == 0x85 ||
    (0xA0 ≤ c.toNat && c.toNat ≠ 0xFFFE && c.toNat ≠ 0xFFFF)

/-- The mark of an encoding, which may stand at the start of a line. -/
def isEncodingMark (c : Char) : Bool := c.toNat == 0xFEFF

/-- A text in which a carriage return, alone or in front of a line feed, and the next-line
character are line feeds. -/
def unifyBreaks : List Char → List Char
  | [] => []
  | '\r' :: '\n' :: rest => '\n' :: unifyBreaks rest
  | c :: rest => (if c == '\r' || c.toNat == 0x85 then '\n' else c) :: unifyBreaks rest

/-! ### Places -/

/-- A place in a text: the characters before it, the lines before it, and the characters
before it on its line. -/
structure Mark where
  index : Nat := 0
  line : Nat := 0
  column : Nat := 0
  deriving DecidableEq, Repr

namespace Mark

/-- The place `n` characters further on the line. -/
def forward (m : Mark) (n : Nat) : Mark := ⟨m.index + n, m.line, m.column + n⟩

/-- The place behind the next character. -/
def next (m : Mark) : Mark := m.forward 1

/-- The place behind a line break. -/
def nextLine (m : Mark) : Mark := ⟨m.index + 1, m.line + 1, 0⟩

end Mark

/-- The text ahead of a place. -/
structure Cursor where
  rest : List Char
  mark : Mark
  deriving DecidableEq, Repr

namespace Cursor

/-- The column of the place. -/
def column (c : Cursor) : Nat := c.mark.column

/-- The cursor `n` characters further on the line. -/
def forward (c : Cursor) (n : Nat) : Cursor := ⟨c.rest.drop n, c.mark.forward n⟩

/-- The cursor behind the line break ahead, if there is one. -/
def pastBreak (c : Cursor) : Cursor :=
  match c.rest with
  | b :: rest => if isBreak b then ⟨rest, c.mark.nextLine⟩ else c
  | [] => c

/-- The cursor behind the spaces and tabs ahead. -/
def pastSpacing (c : Cursor) : Cursor := c.forward (c.rest.takeWhile isSpacing).length

/-- The cursor behind the comment ahead, if there is one. -/
def pastComment (c : Cursor) : Cursor :=
  match c.rest with
  | '#' :: _ => c.forward (c.rest.takeWhile fun ch => !isBreak ch).length
  | _ => c

/-- Whether nothing, a space, a tab or a line break is ahead. -/
def atBlank (c : Cursor) : Bool := startsBlank c.rest

/-- Whether nothing or a line break is ahead. -/
def atLineEnd (c : Cursor) : Bool := c.rest.head?.all isBreak

/-- Whether the line ahead starts with a character thrice, alone or before a blank. -/
def atLineOf (ch : Char) (c : Cursor) : Bool :=
  c.column == 0 &&
    match c.rest with
    | a :: b :: d :: rest => a == ch && b == ch && d == ch && startsBlank rest
    | _ => false

/-- Whether a line that marks the start or the end of a document is ahead. -/
def atDocumentMark (c : Cursor) : Bool := c.atLineOf '-' || c.atLineOf '.'

end Cursor

end HarnessRepair.Yaml
