import HarnessRepair.Json.Value
import HarnessRepair.Text.Numeral

/-!
# Reading JSON

The strict grammar: one value with blanks around it, no comments, no trailing
commas, no leading zeros, no control characters inside strings.

## Main definitions

* `readString`, `readNumber`, `readValue` — what stands at the front of a text.
* `parse?` — the value a whole text writes.
-/

namespace HarnessRepair.Json

open Text

/-- The blanks that may stand between two tokens. -/
def isSpace (c : Char) : Bool := c == ' ' || c == '\n' || c == '\t' || c == '\r'

/-- The text behind the blanks in front. -/
def skipSpace (cs : List Char) : List Char := cs.dropWhile isSpace

/-! ### Strings -/

/-- One piece of a string literal: a character, or one half of a surrogate pair. -/
inductive Piece where
  | char (c : Char)
  | high (bits : Nat)
  | low (bits : Nat)
  deriving DecidableEq, Repr

/-- The piece that a 16-bit unit stands for. -/
def Piece.ofUnit (n : Nat) : Piece :=
  if 0xD800 ≤ n ∧ n < 0xDC00 then .high (n - 0xD800)
  else if 0xDC00 ≤ n ∧ n < 0xE000 then .low (n - 0xDC00)
  else .char (Char.ofNat n)

/-- The value of a four-digit escape and the text behind it. -/
def readHex4 : List Char → Option (Nat × List Char)
  | a :: b :: c :: d :: cs => (natOfHexFrom? 0 [a, b, c, d]).map fun n => (n, cs)
  | _ => none

/-- The character of a one-letter escape. -/
def shortEscape? (c : Char) : Option Char :=
  if c = '"' then some '"'
  else if c = '\\' then some '\\'
  else if c = '/' then some '/'
  else if c = 'b' then some '\x08'
  else if c = 'f' then some '\x0c'
  else if c = 'n' then some '\n'
  else if c = 'r' then some '\r'
  else if c = 't' then some '\t'
  else none

/-- The pieces of a string literal behind its opening quote, and the text behind
its closing quote. -/
def readPieces : Nat → List Char → List Piece → Option (List Piece × List Char)
  | 0, _, _ => none
  | fuel + 1, cs, acc =>
    match cs with
    | [] => none
    | '"' :: cs => some (acc.reverse, cs)
    | '\\' :: 'u' :: cs =>
      match readHex4 cs with
      | some (n, cs) => readPieces fuel cs (.ofUnit n :: acc)
      | none => none
    | '\\' :: c :: cs =>
      match shortEscape? c with
      | some d => readPieces fuel cs (.char d :: acc)
      | none => none
    | c :: cs => if c.toNat < 0x20 then none else readPieces fuel cs (.char c :: acc)

/-- The text that pieces spell, if no half of a surrogate pair stands alone. -/
def spell? : List Piece → Option (List Char)
  | [] => some []
  | .char c :: ps => (spell? ps).map (c :: ·)
  | .high h :: .low l :: ps =>
    (spell? ps).map (Char.ofNat (0x10000 + h * 1024 + l) :: ·)
  | .high _ :: _ => none
  | .low _ :: _ => none

/-- A string literal behind its opening quote. -/
def readString (cs : List Char) : Option (Literal × List Char) :=
  (readPieces (cs.length + 1) cs []).map fun (ps, rest) => ((spell? ps).map String.ofList, rest)

/-! ### Numbers -/

/-- The digits in front of a text. -/
def takeDigits (cs : List Char) : List Char × List Char :=
  (cs.takeWhile fun c => (digit? c).isSome, cs.dropWhile fun c => (digit? c).isSome)

/-- The value of digits, zero for none. -/
def digitsValue (cs : List Char) : Nat := (natOfDigitsFrom? 0 cs).getD 0

/-- The fraction behind a point: its digits. -/
def readFraction (cs : List Char) : Option (List Char × List Char) :=
  match cs with
  | '.' :: cs =>
    let (ds, rest) := takeDigits cs
    if ds.isEmpty then none else some (ds, rest)
  | _ => some ([], cs)

/-- The exponent, if one is written. -/
def readExponent (cs : List Char) : Option (Option Int × List Char) :=
  match cs with
  | [] => some (none, cs)
  | e :: rest =>
    if e = 'e' ∨ e = 'E' then
      let (negative, rest) : Bool × List Char :=
        match rest with
        | '+' :: rest => (false, rest)
        | '-' :: rest => (true, rest)
        | _ => (false, rest)
      let (ds, rest) := takeDigits rest
      if ds.isEmpty then none
      else
        let n : Int := digitsValue ds
        some (some (if negative then -n else n), rest)
    else some (none, cs)

/-- A number without its sign. -/
def readMagnitude (negative : Bool) (cs : List Char) : Option (Number × List Char) :=
  let (whole, rest) := takeDigits cs
  let leadingZero := match whole with
    | '0' :: _ :: _ => true
    | _ => false
  if whole.isEmpty || leadingZero then none
  else
    match readFraction rest with
    | none => none
    | some (part, rest') =>
      match readExponent rest' with
      | none => none
      | some (e, rest'') =>
        some (⟨negative, digitsValue (whole ++ part), e.getD 0 - part.length,
          part.isEmpty && e.isNone⟩, rest'')

/-- A number. -/
def readNumber : List Char → Option (Number × List Char)
  | '-' :: cs => readMagnitude true cs
  | cs => readMagnitude false cs

/-! ### Values -/

mutual

/-- The value at the front of a text, blanks skipped. -/
def readValue : Nat → List Char → Option (Value × List Char)
  | 0, _ => none
  | fuel + 1, cs =>
    match skipSpace cs with
    | 'n' :: 'u' :: 'l' :: 'l' :: rest => some (.null, rest)
    | 't' :: 'r' :: 'u' :: 'e' :: rest => some (.bool true, rest)
    | 'f' :: 'a' :: 'l' :: 's' :: 'e' :: rest => some (.bool false, rest)
    | '"' :: rest => (readString rest).map fun (s, rest) => (.string s, rest)
    | '[' :: rest =>
      match skipSpace rest with
      | ']' :: rest => some (.array [], rest)
      | rest => (readItems fuel rest).map fun (vs, rest) => (.array vs, rest)
    | '\x7b' :: rest =>
      match skipSpace rest with
      | '\x7d' :: rest => some (.object [], rest)
      | rest => (readMembers fuel rest).map fun (ms, rest) => (.object ms, rest)
    | rest => (readNumber rest).map fun (n, rest) => (.number n, rest)

/-- The items of an array up to its closing bracket. -/
def readItems : Nat → List Char → Option (List Value × List Char)
  | 0, _ => none
  | fuel + 1, cs =>
    match readValue fuel cs with
    | none => none
    | some (v, rest) =>
      match skipSpace rest with
      | ',' :: rest => (readItems fuel rest).map fun (vs, rest) => (v :: vs, rest)
      | ']' :: rest => some ([v], rest)
      | _ => none

/-- The members of an object up to its closing brace. -/
def readMembers : Nat → List Char → Option (List (Literal × Value) × List Char)
  | 0, _ => none
  | fuel + 1, cs =>
    match skipSpace cs with
    | '"' :: rest =>
      match readString rest with
      | none => none
      | some (k, rest) =>
        match skipSpace rest with
        | ':' :: rest =>
          match readValue fuel rest with
          | none => none
          | some (v, rest) =>
            match skipSpace rest with
            | ',' :: rest => (readMembers fuel rest).map fun (ms, rest) => ((k, v) :: ms, rest)
            | '\x7d' :: rest => some ([(k, v)], rest)
            | _ => none
        | _ => none
    | _ => none

end

/-- The value that a text writes, with nothing but blanks around it. -/
def parse? (s : String) : Option Value :=
  let cs := s.toList
  match readValue (2 * cs.length + 2) cs with
  | some (v, rest) => if (skipSpace rest).isEmpty then some v else none
  | none => none

end HarnessRepair.Json
