/-!
# Numerals in texts

Line numbers and timeouts are read from text as plain decimals: digits only,
with at most one plus sign in front, and no larger than the word that has to
hold them.

## Main definitions

* `natOfDigits?` — the value of a list of digits.
* `unsigned?` — the value of a text, below a bound.
* `hex`, `hexPadded` — hexadecimal digits in lower case.
-/

namespace HarnessRepair.Text

/-- One more than the largest 64-bit number. -/
def wordLimit : Nat := 18446744073709551616

/-- The value of an ASCII decimal digit. -/
def digit? (c : Char) : Option Nat :=
  if '0' ≤ c ∧ c ≤ '9' then some (c.toNat - 48) else none

/-- The value of a list of digits read behind the value `acc`. -/
def natOfDigitsFrom? : Nat → List Char → Option Nat
  | acc, [] => some acc
  | acc, c :: cs => (digit? c).bind fun d => natOfDigitsFrom? (acc * 10 + d) cs

/-- The value of a list of digits that is not empty. -/
def natOfDigits? : List Char → Option Nat
  | [] => none
  | cs => natOfDigitsFrom? 0 cs

/-- The number below `limit` that a text writes, with or without a plus sign. -/
def unsigned? (limit : Nat) (s : String) : Option Nat :=
  let digits :=
    match s.toList with
    | '+' :: cs => cs
    | cs => cs
  (natOfDigits? digits).filter (· < limit)

/-- The hexadecimal digit of a value below sixteen. -/
def hexDigit (n : Nat) : Char :=
  if n < 10 then Char.ofNat (48 + n) else Char.ofNat (87 + n)

/-- The lowest `count` hexadecimal digits of `n`, most significant first. -/
def hexPadded : Nat → Nat → List Char
  | 0, _ => []
  | count + 1, n => hexPadded count (n / 16) ++ [hexDigit (n % 16)]

/-- The hexadecimal digits of `n`, without leading zeros. -/
def hex (n : Nat) : List Char :=
  if n < 0x10 then hexPadded 1 n
  else if n < 0x100 then hexPadded 2 n
  else if n < 0x1000 then hexPadded 3 n
  else if n < 0x10000 then hexPadded 4 n
  else if n < 0x100000 then hexPadded 5 n
  else hexPadded 6 n

/-- The value of a hexadecimal digit of either case. -/
def hexValue? (c : Char) : Option Nat :=
  if '0' ≤ c ∧ c ≤ '9' then some (c.toNat - 48)
  else if 'a' ≤ c ∧ c ≤ 'f' then some (c.toNat - 87)
  else if 'A' ≤ c ∧ c ≤ 'F' then some (c.toNat - 55)
  else none

/-- The value of a list of hexadecimal digits read behind the value `acc`. -/
def natOfHexFrom? : Nat → List Char → Option Nat
  | acc, [] => some acc
  | acc, c :: cs => (hexValue? c).bind fun d => natOfHexFrom? (acc * 16 + d) cs

end HarnessRepair.Text
