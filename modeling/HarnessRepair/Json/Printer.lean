import HarnessRepair.Json.Value
import HarnessRepair.Number.Binary64
import HarnessRepair.Text.Numeral

/-!
# Writing JSON

Values are written on one line, or indented by two blanks a level.  Strings keep
their characters, or have every character beyond ASCII escaped as UTF-16 units.

## Main definitions

* `Value.render` — on one line.
* `Value.renderAscii` — on one line, in ASCII.
* `Value.renderPretty` — indented.
-/

namespace HarnessRepair.Json

open Text

/-- The escape of one 16-bit unit. -/
def escapeUnit (n : Nat) : List Char := '\\' :: 'u' :: hexPadded 4 n

/-- A character as UTF-16 units, each escaped. -/
def escapeChar (c : Char) : List Char :=
  if c.toNat < 0x10000 then escapeUnit c.toNat
  else
    let n := c.toNat - 0x10000
    escapeUnit (0xD800 + n / 1024) ++ escapeUnit (0xDC00 + n % 1024)

/-- One character inside a string literal. -/
def literalChar (ascii : Bool) (c : Char) : List Char :=
  if c = '"' then ['\\', '"']
  else if c = '\\' then ['\\', '\\']
  else if c = '\n' then ['\\', 'n']
  else if c = '\r' then ['\\', 'r']
  else if c = '\t' then ['\\', 't']
  else if c = '\x08' then ['\\', 'b']
  else if c = '\x0c' then ['\\', 'f']
  else if c.toNat < 0x20 then escapeUnit c.toNat
  else if ascii && 0x7E < c.toNat then escapeChar c
  else [c]

/-- A string literal. -/
def renderText (ascii : Bool) (s : String) : String :=
  String.ofList ('"' :: s.toList.flatMap (literalChar ascii) ++ ['"'])

/-- The text of a literal; one that denotes no text is written as empty. -/
def renderLiteral (ascii : Bool) (s : Literal) : String := renderText ascii (s.getD "")

/-- A number in positional notation. -/
def Number.render (n : Number) : String :=
  let magnitude :=
    if 0 ≤ n.exponent then
      toString (n.digits * Binary64.powerOfTen n.exponent.toNat) ++
        (if n.integral then "" else ".0")
    else Binary64.placePoint (-n.exponent).toNat n.digits
  if n.negative then "-" ++ magnitude else magnitude

/-- The line break and the indentation of a level; nothing when written on one line. -/
def lineBreak (indent : Option Nat) : String :=
  match indent with
  | none => ""
  | some n => String.ofList ('\n' :: List.replicate (2 * n) ' ')

mutual

/-- A value at a level of indentation, or on one line. -/
def renderAt (ascii : Bool) (indent : Option Nat) : Value → String
  | .null => "null"
  | .bool true => "true"
  | .bool false => "false"
  | .number n => n.render
  | .string s => renderLiteral ascii s
  | .array [] => "[]"
  | .array items =>
    let inner := indent.map (· + 1)
    "[" ++ renderItems ascii inner items ++ lineBreak indent ++ "]"
  | .object [] => "\x7b\x7d"
  | .object members =>
    let inner := indent.map (· + 1)
    "\x7b" ++ renderMembers ascii inner members ++ lineBreak indent ++ "\x7d"

/-- The items of an array. -/
def renderItems (ascii : Bool) (indent : Option Nat) : List Value → String
  | [] => ""
  | [v] => lineBreak indent ++ renderAt ascii indent v
  | v :: vs => lineBreak indent ++ renderAt ascii indent v ++ "," ++ renderItems ascii indent vs

/-- The members of an object. -/
def renderMembers (ascii : Bool) (indent : Option Nat) : List (Literal × Value) → String
  | [] => ""
  | [(k, v)] => lineBreak indent ++ renderMember ascii indent k v
  | (k, v) :: ms =>
    lineBreak indent ++ renderMember ascii indent k v ++ "," ++ renderMembers ascii indent ms

/-- One member of an object. -/
def renderMember (ascii : Bool) (indent : Option Nat) (k : Literal) (v : Value) : String :=
  renderLiteral ascii k ++ (if indent.isSome then ": " else ":") ++ renderAt ascii indent v

end

namespace Value

/-- The value on one line. -/
def render (v : Value) : String := renderAt false none v

/-- The value on one line, every character beyond ASCII escaped. -/
def renderAscii (v : Value) : String := renderAt true none v

/-- The value indented by two blanks a level. -/
def renderPretty (v : Value) : String := renderAt false (some 0) v

end Value

end HarnessRepair.Json
