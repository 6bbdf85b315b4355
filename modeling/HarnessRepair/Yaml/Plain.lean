import HarnessRepair.Json.Value
import HarnessRepair.Number.Binary64
import HarnessRepair.Text.Numeral
import HarnessRepair.Text.Search

/-!
# What unquoted scalars stand for

A scalar is a text.  Only where no text is asked for does an unquoted one stand for a
number, a truth value or nothing.

## Main definitions

* `integer?`, `decimal?` — the numbers that a scalar writes.
* `resolveScalar` — what an unquoted scalar stands for.
-/

namespace HarnessRepair.Yaml

open Json Text

/-- The ways to write nothing. -/
def nullWords : List String := ["", "~", "null", "Null", "NULL"]

/-- The ways to write a truth value. -/
def boolWords : List (String × Bool) :=
  [("true", true), ("True", true), ("TRUE", true), ("false", false), ("False", false),
    ("FALSE", false)]

/-- The value of a list of digits of a base up to ten, if there is at least one. -/
def natOfBase? (base : Nat) (cs : List Char) : Option Nat :=
  if cs.isEmpty then none
  else cs.foldlM (fun acc c => (digit? c).bind fun d =>
    if d < base then some (acc * base + d) else none) 0

/-- The magnitude of an integer: decimal without a leading zero, or hexadecimal, octal
or binary behind a mark. -/
def magnitude? : List Char → Option Nat
  | '0' :: 'x' :: cs => if cs.isEmpty then none else natOfHexFrom? 0 cs
  | '0' :: 'o' :: cs => natOfBase? 8 cs
  | '0' :: 'b' :: cs => natOfBase? 2 cs
  | ['0'] => some 0
  | '0' :: _ => none
  | cs => natOfDigits? cs

/-- A text without one sign in front, and whether that sign is a minus. -/
def splitSign : List Char → Bool × List Char
  | '-' :: cs => (true, cs)
  | '+' :: cs => (false, cs)
  | cs => (false, cs)

/-- One more than the largest integer, the 128th power of two. -/
def integerLimit : Nat := 340282366920938463463374607431768211456

/-- The integer that an unquoted scalar writes: 128 bits hold it, and its sign if it is
negative. -/
def integer? (cs : List Char) : Option Number :=
  let (negative, rest) := splitSign cs
  let limit := if negative then integerLimit / 2 + 1 else integerLimit
  ((magnitude? rest).filter (· < limit)).map fun n => ⟨negative && n != 0, n, 0, true⟩

/-- The digits before and behind the point of a decimal, of which there must be one. -/
def decimalParts? (cs : List Char) : Option (List Char × List Char) :=
  let whole := cs.takeWhile fun c => (digit? c).isSome
  let parts :=
    match cs.drop whole.length with
    | [] => some (whole, [])
    | '.' :: fraction =>
      if fraction.all fun c => (digit? c).isSome then some (whole, fraction) else none
    | _ => none
  parts.filter fun (a, b) => !(a.isEmpty && b.isEmpty)

/-- The exponent behind a decimal. -/
def exponent? (cs : List Char) : Option Int :=
  let (negative, rest) := splitSign cs
  (natOfDigits? rest).map fun n => if negative then -n else n

/-- A text up to the mark of an exponent, and what stands behind the mark. -/
def splitExponent (cs : List Char) : List Char × Option (List Char) :=
  let front := cs.takeWhile fun c => c != 'e' && c != 'E'
  match cs.drop front.length with
  | _ :: rest => (front, some rest)
  | [] => (front, none)

/-- The decimal that an unquoted scalar writes. -/
def decimal? (cs : List Char) : Option Number := do
  let (negative, rest) := splitSign cs
  let (front, mark) := splitExponent rest
  let (whole, fraction) ← decimalParts? front
  let exponent ← match mark with
    | none => some 0
    | some e => exponent? e
  let digits ← natOfDigitsFrom? 0 (whole ++ fraction)
  return ⟨negative, digits, exponent - fraction.length, false⟩

/-- Whether a scalar is made of digits only, the first of them an idle zero. -/
def hasIdleZero (cs : List Char) : Bool :=
  match (splitSign cs).2 with
  | '0' :: c :: rest => (c :: rest).all fun c => (digit? c).isSome
  | _ => false

/-- The ways to write an infinite or an undefined number. -/
def unboundedWords : List String :=
  [".inf", ".Inf", ".INF", "+.inf", "+.Inf", "+.INF", "-.inf", "-.Inf", "-.INF", ".nan", ".NaN",
    ".NAN"]

/-- A number too large for any field.  It stands for whatever is infinite or undefined:
no field takes any of these. -/
def unbounded : Number := ⟨false, 1, 400, false⟩

/-- The decimal that an unquoted scalar writes, unless it is too large for a number. -/
def finiteDecimal? (cs : List Char) : Option Number :=
  (decimal? cs).filter fun n => (Binary64.nearest? n.negative n.digits n.exponent).isSome

/-- The number that an unquoted scalar writes.  Whatever is too large for one is a text. -/
def number? (s : String) : Option Number :=
  if hasIdleZero s.toList then none
  else if unboundedWords.contains s then some unbounded
  else (integer? s.toList).or (finiteDecimal? s.toList)

/-- What an unquoted scalar stands for. -/
def resolveScalar (s : String) : Value :=
  if nullWords.contains s then .null
  else
    match boolWords.lookup s with
    | some b => .bool b
    | none =>
      match number? s with
      | some n => .number n
      | none => .ofText s

end HarnessRepair.Yaml
