import HarnessRepair.Shell.Tool.Basic
import HarnessRepair.Shell.Tool.Expression

/-!
# Calculating with arguments

`expr` takes each of its arguments as an operand or an operator.

## Main definitions

* `CalculationFault` — why arguments have no value, and `CalculationFault.message`.
* `calculate` — the value of some arguments.
* `calculator` — the tool.
-/

namespace HarnessRepair.Shell

open Work

/-- Why arguments have no value. -/
inductive CalculationFault where
  | missingBehind (word : String)
  | unexpected (word : String)
  | unclosed (word : String)
  | closedBy (word : String)
  | noInteger
  | divisionByZero
  | badExpression (text : String)
  deriving DecidableEq, Repr

/-- The words for arguments without a value. -/
def CalculationFault.message : CalculationFault → String
  | .missingBehind word => "syntax error: missing argument after " ++ inQuotes word
  | .unexpected word => "syntax error: unexpected argument " ++ inQuotes word
  | .unclosed word => "syntax error: expecting ')' after " ++ inQuotes word
  | .closedBy word => "syntax error: expecting ')' instead of " ++ inQuotes word
  | .noInteger => "non-integer argument"
  | .divisionByZero => "division by zero"
  | .badExpression text => text

/-- The words in front, the last one first, and those that are left. -/
structure Words where
  before : List String := []
  left : List String

/-- A computation on arguments. -/
abbrev Calculation := StateT Words (Except CalculationFault)

/-- The integer that a text writes. -/
def plainInteger? (s : String) : Option Int :=
  match s.toList with
  | '-' :: ds => (Text.natOfDigits? ds).map fun n => -(n : Int)
  | ds => (Text.natOfDigits? ds).map Int.ofNat

/-- Whether a value counts as none: nothing, or a zero. -/
def isNull (s : String) : Bool :=
  match s.toList with
  | [] => true
  | '-' :: ds => !ds.isEmpty && ds.all (· == '0')
  | ds => ds.all (· == '0')

namespace Calculation

/-- Passes over a word if it is the one at the front. -/
def accept (word : String) : Calculation Bool := do
  let w ← get
  match w.left with
  | s :: rest =>
    if s = word then
      set ({ before := s :: w.before, left := rest } : Words)
      return true
    else return false
  | [] => return false

/-- The word at the front, if it is one of some. -/
def acceptOne (words : List String) : Calculation (Option String) := do
  match (← get).left with
  | s :: _ =>
    if words.contains s then
      discard (accept s)
      return some s
    else return none
  | [] => return none

/-- The next word. -/
def take : Calculation String := do
  let w ← get
  match w.left with
  | s :: rest =>
    set ({ before := s :: w.before, left := rest } : Words)
    return s
  | [] => throw (.missingBehind (w.before.headD ""))

/-- The integer of a value. -/
def integer (s : String) : Calculation Int :=
  match plainInteger? s with
  | some n => pure n
  | none => throw .noInteger

/-- What an expression finds at the start of a text: its first group, or else the length
of the match. -/
def matchStart (text pattern : String) : Calculation String := do
  match readRegex .basicLenient pattern with
  | .error e => throw (.badExpression e.message)
  | .ok r =>
    let cs := text.toList.toArray
    let grouped := (pattern.toList.zip (pattern.toList.drop 1)).contains ('\\', '(')
    match r.find? false cs 0 with
    | some m =>
      if m.start ≠ 0 then return if grouped then "" else "0"
      else if grouped then return String.ofList (m.textOf cs 1)
      else return toString m.stop
    | none => return if grouped then "" else "0"

/-- What an operator makes of two integers. -/
def compute (op : String) (a b : Int) : Calculation Int :=
  if op = "+" then pure (a + b)
  else if op = "-" then pure (a - b)
  else if op = "*" then pure (a * b)
  else if b = 0 then throw .divisionByZero
  else if op = "/" then pure (a.tdiv b)
  else pure (a.tmod b)

/-- Whether a relation holds between two values. -/
def relates (op a b : String) : Bool :=
  let o := match plainInteger? a, plainInteger? b with
    | some x, some y => compare x y
    | _, _ => compare a b
  if op = "<" then o == .lt
  else if op = "<=" then o != .gt
  else if op = "=" ∨ op = "==" then o == .eq
  else if op = "!=" then o != .eq
  else if op = ">=" then o != .lt
  else o == .gt

/-- The operators that bind alike, from the loosest on. -/
def levels : List (List String) :=
  [["|"], ["&"], ["<", "<=", "=", "==", "!=", ">=", ">"], ["+", "-"], ["*", "/", "%"], [":"]]

mutual

/-- A value with operators of a level or tighter ones.  What is `idle` is read and not
computed. -/
def level : Nat → Nat → Bool → Calculation String
  | 0, _, _ => throw (.missingBehind "")
  | fuel + 1, n, idle => do
    match levels[n]? with
    | none => single fuel idle
    | some ops =>
      let a ← level fuel (n + 1) idle
      further fuel n ops idle a

/-- A value with the operators of a level behind it. -/
def further : Nat → Nat → List String → Bool → String → Calculation String
  | 0, _, _, _, a => return a
  | fuel + 1, n, ops, idle, a => do
    match ← acceptOne ops with
    | none => return a
    | some op =>
      if op = "|" then
        let b ← level fuel (n + 1) (idle || !isNull a)
        let value := if !isNull a then a else if isNull b then "0" else b
        further fuel n ops idle value
      else if op = "&" then
        let b ← level fuel (n + 1) (idle || isNull a)
        further fuel n ops idle (if isNull a || isNull b then "0" else a)
      else
        let b ← level fuel (n + 1) idle
        if idle then further fuel n ops idle a
        else if op = ":" then further fuel n ops idle (← matchStart a b)
        else if n = 2 then further fuel n ops idle (if relates op a b then "1" else "0")
        else
          let x ← integer a
          let y ← integer b
          further fuel n ops idle (toString (← compute op x y))

/-- One value: a word, a call of a function, or what stands in parentheses. -/
def single : Nat → Bool → Calculation String
  | 0, _ => throw (.missingBehind "")
  | fuel + 1, idle => do
    if ← accept "+" then take
    else if ← accept "length" then
      let s ← single fuel idle
      return toString s.length
    else if ← accept "match" then
      let a ← single fuel idle
      let b ← single fuel idle
      if idle then return "" else matchStart a b
    else if ← accept "index" then
      let s ← single fuel idle
      let set ← single fuel idle
      let front := s.toList.takeWhile fun c => !set.toList.contains c
      return toString (if front.length = s.length then 0 else front.length + 1)
    else if ← accept "substr" then
      let s ← single fuel idle
      let first ← single fuel idle
      let count ← single fuel idle
      match plainInteger? first, plainInteger? count with
      | some i, some n =>
        if i ≤ 0 ∨ n ≤ 0 then return ""
        else return String.ofList ((s.toList.drop (i.toNat - 1)).take n.toNat)
      | _, _ => return ""
    else if ← accept "(" then
      let v ← level fuel 0 idle
      match (← get).left with
      | [] => throw (.unclosed ((← get).before.headD ""))
      | word :: _ =>
        if ← accept ")" then return v
        throw (.closedBy word)
    else
      let s ← take
      if s = ")" then throw (.unexpected ")")
      return s

end

end Calculation

/-- The value of some arguments. -/
def calculate (args : List String) : Except CalculationFault String := do
  let (v, w) ← (Calculation.level (16 * args.length + 16) 0 false).run { left := args }
  match w.left with
  | [] => return v
  | word :: _ => throw (.unexpected word)

/-- Writes the value of the arguments. -/
def calculator : Tool := do
  let args := match (← read).args with
    | "--" :: rest => rest
    | args => args
  if args.isEmpty then misused 2 "missing operand"
  match calculate args with
  | .ok v =>
    printLine v
    if isNull v then fail 1
  | .error e => giveUp 2 e.message

end HarnessRepair.Shell
