import HarnessRepair.Shell.Arithmetic

/-!
# Conditions

What `test` decides.  With up to four operands their number decides how they are read;
more of them are read as an expression, in which a word that could be an operator and an
operand is an operand.

## Main definitions

* `ConditionFault` — why operands are no condition, and `ConditionFault.message`.
* `FileQuestion` — what can be asked of files.
* `holds` — whether a condition holds.
-/

namespace HarnessRepair.Shell

/-- Why operands are no condition. -/
inductive ConditionFault where
  | unexpected (word : String)
  | missing (operator : String)
  | openParenthesis
  | illegalNumber (text : String)
  deriving DecidableEq, Repr

/-- The words for operands that are no condition. -/
def ConditionFault.message : ConditionFault → String
  | .unexpected word => word ++ ": unexpected operator"
  | .missing operator => operator ++ ": argument expected"
  | .openParenthesis => "closing paren expected"
  | .illegalNumber text => "Illegal number: " ++ text

/-- How operators are used. -/
inductive OperatorKind where
  | unary
  | binary
  | negation
  | conjunction
  | disjunction
  | opening
  | closing
  deriving DecidableEq, Repr

/-- How a word is used if it is an operator. -/
def operatorKind? (s : String) : Option OperatorKind :=
  if ["-r", "-w", "-x", "-e", "-f", "-d", "-c", "-b", "-p", "-u", "-g", "-k", "-s", "-t", "-z",
      "-n", "-h", "-L", "-O", "-G", "-S"].contains s then some .unary
  else if ["=", "!=", "<", ">", "-eq", "-ne", "-gt", "-ge", "-lt", "-le", "-nt", "-ot",
      "-ef"].contains s then some .binary
  else if s = "!" then some .negation
  else if s = "-a" then some .conjunction
  else if s = "-o" then some .disjunction
  else if s = "(" then some .opening
  else if s = ")" then some .closing
  else none

/-- What can be asked of files: a property of one, or a relation of two. -/
structure FileQuestion where
  one : String → String → Bool
  two : String → String → String → Bool

/-- The integer that a text writes, blanks around it aside. -/
def wholeInteger? (s : String) : Option Int :=
  match leadingInteger false s.toList with
  | some (n, rest) => if rest.all isNumberBlank && clamp n == n then some n else none
  | none => none

/-- A computation on the operands that are left. -/
abbrev Judging := StateT (List String) (Except ConditionFault)

namespace Judging

/-- How the word at the front of some operands is used; none if it is an operand. -/
def kindOf (words : List String) : Option OperatorKind :=
  match words with
  | [] => none
  | s :: rest =>
    match operatorKind? s with
    | some .unary =>
      match rest with
      | [] => none
      | [_] => some .unary
      | next :: _ => if operatorKind? next = some .binary then none else some .unary
    | some .opening => if rest.isEmpty then none else some .opening
    | kind => kind

/-- How the word is used that comes after the first. -/
def kindBehind : Judging (Option OperatorKind) := do
  return kindOf ((← get).drop 1)

/-- Passes over some operands. -/
def advance (n : Nat) : Judging Unit := modify fun words => words.drop n

/-- The operand at the front. -/
def current : Judging String := do
  return (← get).headD ""

/-- The integer that an operand writes. -/
def integer (s : String) : Judging Int :=
  match wholeInteger? s with
  | some n => pure n
  | none => throw (.illegalNumber s)

/-- The truth of a unary condition. -/
def unary (files : FileQuestion) (op arg : String) : Judging Bool := do
  if op = "-z" then return arg.isEmpty
  else if op = "-n" then return !arg.isEmpty
  else if op = "-t" then
    discard (integer arg)
    return false
  else return files.one op arg

/-- The truth of a binary condition. -/
def binary (files : FileQuestion) (op a b : String) : Judging Bool := do
  if op = "=" then return a == b
  else if op = "!=" then return a != b
  else if op = "<" then return decide (a < b)
  else if op = ">" then return decide (b < a)
  else if op = "-nt" ∨ op = "-ot" ∨ op = "-ef" then return files.two op a b
  else
    let x ← integer a
    let y ← integer b
    if op = "-eq" then return x == y
    else if op = "-ne" then return x != y
    else if op = "-gt" then return decide (y < x)
    else if op = "-ge" then return decide (y ≤ x)
    else if op = "-lt" then return decide (x < y)
    else return decide (x ≤ y)

mutual

/-- Conditions of which one must hold; the first word has the kind that is given. -/
def anyOf (files : FileQuestion) : Nat → Option OperatorKind → Judging Bool
  | 0, _ => return false
  | fuel + 1, kind => do
    let a ← allOf files fuel kind
    if (← kindBehind) ≠ some .disjunction then return a
    advance 2
    let b ← anyOf files fuel (kindOf (← get))
    return a || b

/-- Conditions that must all hold. -/
def allOf (files : FileQuestion) : Nat → Option OperatorKind → Judging Bool
  | 0, _ => return false
  | fuel + 1, kind => do
    let a ← negated files fuel kind
    if (← kindBehind) ≠ some .conjunction then return a
    advance 2
    let b ← allOf files fuel (kindOf (← get))
    return a && b

/-- A condition behind exclamation marks. -/
def negated (files : FileQuestion) : Nat → Option OperatorKind → Judging Bool
  | 0, _ => return false
  | fuel + 1, kind => do
    if kind ≠ some .negation then primary files fuel kind
    else
      let next ← kindBehind
      if 1 < (← get).length then
        advance 1
        return !(← negated files fuel next)
      else return true

/-- A condition of its own. -/
def primary (files : FileQuestion) : Nat → Option OperatorKind → Judging Bool
  | 0, _ => return false
  | fuel + 1, kind => do
    if (← get).isEmpty then return false
    match kind with
    | some .opening =>
      advance 1
      let inner := kindOf (← get)
      if inner = some .closing then return false
      let b ← anyOf files fuel inner
      advance 1
      if kindOf (← get) ≠ some .closing then throw .openParenthesis
      return b
    | some .unary =>
      let op ← current
      advance 1
      if (← get).isEmpty then throw (.missing op)
      unary files op (← current)
    | _ =>
      if (← kindBehind) = some .binary then
        let a ← current
        advance 1
        let op ← current
        advance 1
        if (← get).isEmpty then throw (.missing op)
        binary files op a (← current)
      else return !(← current).isEmpty

end

/-- A whole expression. -/
def whole (files : FileQuestion) (kind : Option OperatorKind) : Judging Bool := do
  let b ← anyOf files (4 * (← get).length + 8) kind
  match (← get) with
  | word :: _ :: _ => throw (.unexpected word)
  | _ => return b

end Judging

/-- Whether a condition holds, read by the number of its operands. -/
def holds (files : FileQuestion) : List String → Except ConditionFault Bool
  | [] => .ok false
  | words =>
    let plain (words : List String) : Except ConditionFault Bool :=
      (Judging.whole files (Judging.kindOf words)).run' words
    match words with
    | [a, op, b] =>
      if operatorKind? op = some .binary then (Judging.whole files none).run' [a, op, b]
      else if a = "(" ∧ b = ")" then plain [op]
      else if a = "!" then (holds files [op, b]).map not
      else plain words
    | [a, b, c, d] =>
      if a = "(" ∧ d = ")" then plain [b, c]
      else if a = "!" then (holds files [b, c, d]).map not
      else plain words
    | words => plain words

end HarnessRepair.Shell
