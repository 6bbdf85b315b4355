/-!
# Floating-point numbers

Seconds and budgets reach the program as decimals and are held as binary
floating-point numbers of 64 bits.  All arithmetic here is exact arithmetic on
natural numbers that rounds once at the end, to the nearest number and to the
even one of two.

## Main definitions

* `Binary64` — a finite number: a sign and `mantissa * 2 ^ exponent`.
* `Binary64.ofRatio?` — the number nearest to a quotient.
* `Binary64.ofDecimal?`, `Binary64.nearest?` — the number that a decimal literal stands for,
  and the one nearest to it.
* `Binary64.fixed` — the number with a fixed count of places.
* `Binary64.shortest` — the fewest digits that read back, and `Binary64.display`.
-/

namespace HarnessRepair

/-- A finite number `± mantissa * 2 ^ exponent`, with a mantissa below `2 ^ 53`. -/
structure Binary64 where
  negative : Bool
  mantissa : Nat
  exponent : Int
  deriving DecidableEq, Repr, Inhabited

namespace Binary64

/-- The zero without a sign. -/
def zero : Binary64 := ⟨false, 0, 0⟩

/-- The smallest exponent. -/
def minExponent : Int := -1074

/-- The largest exponent. -/
def maxExponent : Int := 971

/-- A power of two. -/
def powerOfTwo (n : Nat) : Nat := Nat.pow 2 n

/-- A power of ten. -/
def powerOfTen (n : Nat) : Nat := Nat.pow 10 n

/-- The bound on mantissas, the 53rd power of two. -/
def mantissaLimit : Nat := 9007199254740992

/-- The bound on significands of decimals, the 64th power of two. -/
def significandLimit : Nat := 18446744073709551616

example : powerOfTwo 53 = mantissaLimit := by decide
example : powerOfTwo 64 = significandLimit := by decide

/-- `num / den` rounded to an integer, to the even one in the middle. -/
def roundQuotient (num den : Nat) : Nat :=
  let q := num / den
  let r := num % den
  if 2 * r < den then q
  else if den < 2 * r then q + 1
  else if q % 2 = 0 then q else q + 1

/-- `num / den` as a multiple of `2 ^ e`, rounded. -/
def roundAt (num den : Nat) (e : Int) : Nat :=
  if 0 ≤ e then roundQuotient num (den * powerOfTwo e.toNat)
  else roundQuotient (num * powerOfTwo (-e).toNat) den

/-- The number nearest to `num / den`, or `none` if it is too large. -/
def ofRatio? (negative : Bool) (num den : Nat) : Option Binary64 :=
  if num = 0 then some ⟨negative, 0, 0⟩
  else
    -- the quotient lies between `2 ^ (guess - 1)` and `2 ^ (guess + 1)`
    let guess : Int := (Nat.log2 num : Int) - (Nat.log2 den : Int)
    let e := max (guess - 53) minExponent
    let m := roundAt num den e
    let (m, e) := if m < mantissaLimit then (m, e) else (roundAt num den (e + 1), e + 1)
    let (m, e) := if m < mantissaLimit then (m, e) else (m / 2, e + 1)
    if maxExponent < e then none else some ⟨negative, m, e⟩

/-- The magnitude as a quotient of natural numbers. -/
def ratio (x : Binary64) : Nat × Nat :=
  if 0 ≤ x.exponent then (x.mantissa * powerOfTwo x.exponent.toNat, 1)
  else (x.mantissa, powerOfTwo (-x.exponent).toNat)

/-- Whether two numbers have the same magnitude. -/
def sameMagnitude (x y : Binary64) : Bool :=
  let (a, b) := x.ratio
  let (c, d) := y.ratio
  a * d == c * b

/-- `x` times `10 ^ k`, the power and the product each rounded. -/
def scaleUp? (x : Binary64) (k : Nat) : Option Binary64 :=
  (ofRatio? false (powerOfTen k) 1).bind fun p =>
    let (a, b) := x.ratio
    let (c, d) := p.ratio
    ofRatio? x.negative (a * c) (b * d)

/-- `x` divided by `10 ^ k`, the power and the quotient each rounded. -/
def scaleDown? (x : Binary64) (k : Nat) : Option Binary64 :=
  (ofRatio? false (powerOfTen k) 1).bind fun p =>
    let (a, b) := x.ratio
    let (c, d) := p.ratio
    ofRatio? x.negative (a * d) (b * c)

/-- The leading digits of a significand that fit in 64 bits, and how many are dropped. -/
def dropDigits : Nat → Nat → Nat × Nat
  | 0, n => (n, 0)
  | fuel + 1, n =>
    if n < significandLimit then (n, 0)
    else
      let (m, k) := dropDigits fuel (n / 10)
      (m, k + 1)

/-- The number a decimal literal `± digits * 10 ^ exponent` stands for, or `none`
if it is too large.  The digits count as far as 64 bits hold them; the
significand and its scaling by a power of ten are rounded one after the other. -/
def ofDecimal? (negative : Bool) (digits : Nat) (exponent : Int) : Option Binary64 :=
  let (significand, dropped) := dropDigits (Nat.log2 digits) digits
  let exponent := exponent + dropped
  (ofRatio? negative significand 1).bind fun x =>
    if 0 ≤ exponent then
      if exponent ≤ 308 then x.scaleUp? exponent.toNat
      else if significand = 0 then some x else none
    else if -308 ≤ exponent then x.scaleDown? (-exponent).toNat
    else (x.scaleDown? 308).bind fun y =>
      if -616 ≤ exponent then y.scaleDown? (-exponent - 308).toNat
      else some ⟨negative, 0, 0⟩

/-- The number nearest to the decimal `± digits * 10 ^ exponent`, or `none` if it is too
large.  All digits count, and there is one rounding. -/
def nearest? (negative : Bool) (digits : Nat) (exponent : Int) : Option Binary64 :=
  -- the decimal lies between a third of this power of ten and the power above it
  let order : Int := (Nat.log2 digits : Int) * 1233 / 4096 + exponent
  if digits = 0 ∨ order < -400 then some ⟨negative, 0, 0⟩
  else if 400 < order then none
  else if 0 ≤ exponent then ofRatio? negative (digits * powerOfTen exponent.toNat) 1
  else ofRatio? negative digits (powerOfTen (-exponent).toNat)

/-- The digits of `n`, at least `places + 1` of them, with a point before the last `places`. -/
def placePoint (places n : Nat) : String :=
  let digits := (Nat.toDigits 10 n)
  let padded := List.replicate (places + 1 - digits.length) '0' ++ digits
  let whole := padded.take (padded.length - places)
  let part := padded.drop (padded.length - places)
  if places = 0 then String.ofList whole else String.ofList (whole ++ '.' :: part)

/-- The sign in front of a text. -/
def signed (x : Binary64) (s : String) : String := if x.negative then "-" ++ s else s

/-- The number with `places` digits behind the point, a tie going to the even digit. -/
def fixed (x : Binary64) (places : Nat) : String :=
  let (num, den) := x.ratio
  x.signed (placePoint places (roundQuotient (num * powerOfTen places) den))

/-- Whether the decimal `digits * 10 ^ k` reads back as `x`. -/
def readsBack (x : Binary64) (digits : Nat) (k : Int) : Bool :=
  let candidate :=
    if 0 ≤ k then ofRatio? false (digits * powerOfTen k.toNat) 1
    else ofRatio? false digits (powerOfTen (-k).toNat)
  match candidate with
  | some y => y.sameMagnitude x
  | none => false

/-- `x` as a multiple of `10 ^ k`, rounded. -/
def onGrid (x : Binary64) (k : Int) : Nat :=
  let (num, den) := x.ratio
  if 0 ≤ k then roundQuotient num (den * powerOfTen k.toNat)
  else roundQuotient (num * powerOfTen (-k).toNat) den

/-- The coarsest grid, from `10 ^ k` downward, on which `x` has a point that reads back. -/
def coarsest (x : Binary64) : Nat → Int → Nat × Int
  | 0, k => (x.onGrid k, k)
  | fuel + 1, k =>
    let digits := x.onGrid k
    if 0 < digits && x.readsBack digits k then (digits, k) else coarsest x fuel (k - 1)

/-- The fewest digits that read back as `x`, and the power of ten they count. -/
def shortest (x : Binary64) : Nat × Int :=
  if x.mantissa = 0 then (0, 0)
  else
    let (num, den) := x.ratio
    -- a power of ten above the number
    let top : Int := ((Nat.log2 num : Int) - (Nat.log2 den : Int)) * 1233 / 4096 + 2
    x.coarsest 40 top

/-- The number in positional notation with the fewest digits that read back. -/
def display (x : Binary64) : String :=
  let (digits, k) := x.shortest
  if 0 ≤ k then x.signed (toString (digits * powerOfTen k.toNat))
  else x.signed (placePoint (-k).toNat digits)

/-- Twice the number, if that is a natural number. -/
def halves? (x : Binary64) : Option Nat :=
  let (num, den) := x.ratio
  if x.negative && x.mantissa != 0 then none
  else if (2 * num) % den = 0 then some (2 * num / den) else none

end Binary64

end HarnessRepair
