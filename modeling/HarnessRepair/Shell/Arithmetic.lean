import HarnessRepair.Shell.Script
import HarnessRepair.Text.Numeral

/-!
# Arithmetic of the shell

Expressions on signed 64-bit integers.  A comparison gives one or zero, a name stands
for the number that its variable holds, and an assignment changes the variable.

## Main definitions

* `wrap` — the integer of 64 bits that a result becomes.
* `leadingInteger` — the integer at the front of a text.
* `SumFault` — why an expression has no value, and `SumFault.message`.
* `sumOf` — the value of an expression and the variables that it sets.
-/

namespace HarnessRepair.Shell

open Text

/-! ### Integers -/

/-- The signed 64-bit integer that agrees with `n` modulo 2 to the 64th. -/
def wrap (n : Int) : Int := Int.bmod n wordLimit

/-- The largest integer. -/
def largest : Int := 9223372036854775807

/-- An integer, or the limit that it is beyond. -/
def clamp (n : Int) : Int := max (-largest - 1) (min largest n)

/-- Blanks in front of numbers. -/
def isNumberBlank (c : Char) : Bool := c == ' ' || (9 ≤ c.toNat && c.toNat ≤ 13)

/-- The value of a digit in a base. -/
def digitIn? (base : Nat) (c : Char) : Option Nat := (hexValue? c).filter (· < base)

/-- The value of the digits at the front of a text, and what is behind. -/
def leadingDigits (base : Nat) (cs : List Char) : Nat × List Char :=
  let ds := cs.takeWhile fun c => (digitIn? base c).isSome
  (ds.foldl (fun n c => n * base + (digitIn? base c).getD 0) 0, cs.drop ds.length)

/-- The base that the front of a number asks for, and the digits; octal behind a zero,
hexadecimal behind `0x`. -/
def baseOf (cs : List Char) : Nat × List Char :=
  match cs with
  | '0' :: x :: d :: rest =>
    if (x == 'x' || x == 'X') && (digitIn? 16 d).isSome then (16, d :: rest) else (8, cs)
  | '0' :: _ => (8, cs)
  | _ => (10, cs)

/-- The integer at the front of a text, behind blanks and a sign, and what is behind it;
none if there are no digits. -/
def leadingInteger (based : Bool) (cs : List Char) : Option (Int × List Char) :=
  let cs := cs.dropWhile isNumberBlank
  let (negative, cs) :=
    match cs with
    | '-' :: rest => (true, rest)
    | '+' :: rest => (false, rest)
    | rest => (false, rest)
  let (base, digits) := if based then baseOf cs else (10, cs)
  let (n, rest) := leadingDigits base digits
  if rest.length = digits.length then none
  else some (if negative then -(n : Int) else (n : Int), rest)

/-- The integer that a whole text writes; nothing at all writes zero. -/
def variableNumber? (s : String) : Option Int :=
  match leadingInteger true s.toList with
  | some (n, rest) => if rest.all isNumberBlank && clamp n == n then some n else none
  | none => if s.toList.all isNumberBlank then some 0 else none

/-! ### Tokens -/

/-- A unit of an expression. -/
inductive SumToken where
  | number (n : Int)
  | name (s : String)
  | operator (s : String)
  /-- A character that no expression holds. -/
  | foreign
  deriving DecidableEq, Repr

/-- The operators, longer ones first. -/
def sumOperators : List String :=
  ["<<=", ">>=", "<<", ">>", "<=", ">=", "==", "!=", "&&", "||", "+=", "-=", "*=", "/=", "%=",
    "&=", "|=", "^=", "=", "<", ">", "!", "&", "|", "^", "~", "+", "-", "*", "/", "%", "(", ")",
    "?", ":"]

/-- The operator at the front of a text. -/
def sumOperator? (cs : List Char) : Option String :=
  sumOperators.find? fun op => op.toList.isPrefixOf cs

/-- The units of an expression. -/
def sumTokens : Nat → List Char → List SumToken
  | 0, _ => []
  | _, [] => []
  | fuel + 1, c :: rest =>
    if c == ' ' || c == '\t' || c == '\n' then sumTokens fuel rest
    else if c.isDigit then
      match leadingInteger true (c :: rest) with
      | some (n, behind) => .number (clamp n) :: sumTokens fuel behind
      | none => [.foreign]
    else if isNameStart c then
      let name := (c :: rest).takeWhile isNameChar
      .name (String.ofList name) :: sumTokens fuel ((c :: rest).drop name.length)
    else
      match sumOperator? (c :: rest) with
      | some op => .operator op :: sumTokens fuel ((c :: rest).drop op.length)
      | none => [.foreign]

/-! ### Values -/

/-- Why an expression has no value. -/
inductive SumFault where
  | expecting (what : String)
  | divisionByZero
  | illegalNumber (text : String)
  deriving DecidableEq, Repr

/-- The words for an expression without a value. -/
def SumFault.message (expression : String) : SumFault → String
  | .expecting what => "arithmetic expression: expecting " ++ what ++ ": \"" ++ expression ++ "\""
  | .divisionByZero => "arithmetic expression: division by zero: \"" ++ expression ++ "\""
  | .illegalNumber text => "Illegal number: " ++ text

/-- What is left of an expression, and the variables that it has set. -/
structure SumState where
  tokens : List SumToken
  assigned : List (String × String) := []

/-- A computation on an expression. -/
abbrev Summing := StateT SumState (Except SumFault)

/-- One or zero. -/
def truth (b : Bool) : Int := if b then 1 else 0

/-- The bits of an integer. -/
def bitsOf (n : Int) : Nat := (n % wordLimit).toNat

/-- What a binary operator makes of its operands. -/
def applyOperator (op : String) (a b : Int) : Except SumFault Int :=
  let bits (f : Nat → Nat → Nat) : Except SumFault Int := .ok (wrap (f (bitsOf a) (bitsOf b)))
  if op = "+" then .ok (wrap (a + b))
  else if op = "-" then .ok (wrap (a - b))
  else if op = "*" then .ok (wrap (a * b))
  else if op = "/" then if b = 0 then .error .divisionByZero else .ok (wrap (a.tdiv b))
  else if op = "%" then if b = 0 then .error .divisionByZero else .ok (wrap (a.tmod b))
  else if op = "<<" then .ok (wrap (Nat.shiftLeft (bitsOf a) (bitsOf b % 64)))
  else if op = ">>" then .ok (a >>> (bitsOf b % 64))
  else if op = "<" then .ok (truth (a < b))
  else if op = "<=" then .ok (truth (a ≤ b))
  else if op = ">" then .ok (truth (b < a))
  else if op = ">=" then .ok (truth (b ≤ a))
  else if op = "==" then .ok (truth (a == b))
  else if op = "!=" then .ok (truth (a != b))
  else if op = "&" then bits Nat.land
  else if op = "^" then bits Nat.xor
  else bits Nat.lor

/-- How loosely a binary operator binds; none if it is none. -/
def looseness? : SumToken → Option (String × Nat)
  | .operator op =>
    ([("*", 0), ("/", 0), ("%", 0), ("+", 1), ("-", 1), ("<<", 2), (">>", 2), ("<", 3), ("<=", 3),
      (">", 3), (">=", 3), ("==", 4), ("!=", 4), ("&", 5), ("^", 6), ("|", 7)].lookup op).map
      (op, ·)
  | _ => none

/-- The operator in an assignment that also computes. -/
def assigningOperator? : SumToken → Option String
  | .operator op =>
    if op == "=" then some ""
    else if ["==", "!=", "<=", ">="].contains op then none
    else
      match op.toList.reverse with
      | '=' :: front => some (String.ofList front.reverse)
      | _ => none
  | _ => none

namespace Summing

/-- The unit at the front. -/
def peek : Summing (Option SumToken) := do
  return (← get).tokens.head?

/-- Passes over the unit at the front. -/
def advance : Summing Unit := modify fun s => { s with tokens := s.tokens.drop 1 }

/-- The number that a variable holds. -/
def variableValue (value? : String → Option String) (name : String) : Summing Int := do
  let text := (((← get).assigned.lookup name).or (value? name)).getD ""
  match variableNumber? text with
  | some n => return n
  | none => throw (.illegalNumber text)

mutual

/-- The value of an operand.  What is `idle` is read, but neither fails nor changes
anything. -/
def operand (value? : String → Option String) : Nat → Bool → Summing Int
  | 0, _ => throw (.expecting "primary")
  | fuel + 1, idle => do
    let t ← peek
    match t with
    | some (.number n) =>
      advance
      return n
    | some (.name name) =>
      advance
      if idle then return 0 else variableValue value? name
    | some (.operator "(") =>
      advance
      let n ← assignment value? fuel idle
      if (← peek) ≠ some (.operator ")") then throw (.expecting "')'")
      advance
      return n
    | some (.operator "+") =>
      advance
      operand value? fuel idle
    | some (.operator "-") =>
      advance
      return wrap (-(← operand value? fuel idle))
    | some (.operator "!") =>
      advance
      return truth ((← operand value? fuel idle) == 0)
    | some (.operator "~") =>
      advance
      return wrap (-(← operand value? fuel idle) - 1)
    | _ => throw (.expecting "primary")

/-- The value of an operand in front of an operator with all that follows and binds
tighter than `loosest`. -/
def further (value? : String → Option String) : Nat → Bool → Int → Nat → Summing Int
  | 0, _, _, _ => throw (.expecting "primary")
  | fuel + 1, idle, a, loosest => do
    match (← peek).bind looseness? with
    | none => return a
    | some (op, loose) =>
      if loosest ≤ loose then return a
      advance
      let first ← operand value? fuel idle
      let b ← further value? fuel idle first loose
      if idle then further value? fuel idle b loosest
      else
        match applyOperator op a b with
        | .ok n => further value? fuel idle n loosest
        | .error e => throw e

/-- The value of operands joined by `&&`. -/
def conjunction (value? : String → Option String) : Nat → Bool → Summing Int
  | 0, _ => throw (.expecting "primary")
  | fuel + 1, idle => do
    let first ← operand value? fuel idle
    let a ← further value? fuel idle first 8
    if (← peek) ≠ some (.operator "&&") then return a
    advance
    let b ← conjunction value? fuel (idle || a == 0)
    return truth (a != 0 && b != 0)

/-- The value of operands joined by `||`. -/
def disjunction (value? : String → Option String) : Nat → Bool → Summing Int
  | 0, _ => throw (.expecting "primary")
  | fuel + 1, idle => do
    let a ← conjunction value? fuel idle
    if (← peek) ≠ some (.operator "||") then return a
    advance
    let b ← disjunction value? fuel (idle || a != 0)
    return truth (a != 0 || b != 0)

/-- The value of a choice. -/
def choice (value? : String → Option String) : Nat → Bool → Summing Int
  | 0, _ => throw (.expecting "primary")
  | fuel + 1, idle => do
    let a ← disjunction value? fuel idle
    if (← peek) ≠ some (.operator "?") then return a
    advance
    let b ← assignment value? fuel (idle || a == 0)
    if (← peek) ≠ some (.operator ":") then throw (.expecting "':'")
    advance
    let c ← choice value? fuel (idle || a != 0)
    return if a != 0 then b else c

/-- The value of an assignment, or of a choice. -/
def assignment (value? : String → Option String) : Nat → Bool → Summing Int
  | 0, _ => throw (.expecting "primary")
  | fuel + 1, idle => do
    match (← get).tokens with
    | .name name :: sign :: rest =>
      match assigningOperator? sign with
      | none => choice value? fuel idle
      | some op =>
        modify fun s => { s with tokens := rest }
        let n ← assignment value? fuel idle
        if idle then return n
        let n ←
          if op.isEmpty then pure n
          else
            match applyOperator op (← variableValue value? name) n with
            | .ok n => pure n
            | .error e => throw e
        modify fun s => { s with assigned := (name, toString n) :: s.assigned }
        return n
    | _ => choice value? fuel idle

end

end Summing

/-- The value of an expression, and the variables that it sets, the last one first. -/
def sumOf (value? : String → Option String) (expression : String) :
    Except SumFault (Int × List (String × String)) := do
  let tokens := sumTokens (expression.length + 1) expression.toList
  let (n, s) ← (Summing.assignment value? (8 * tokens.length + 16) false).run { tokens := tokens }
  if s.tokens.isEmpty then return (n, s.assigned) else throw (.expecting "EOF")

end HarnessRepair.Shell
