import HarnessRepair.Json.Record
import HarnessRepair.Number.Binary64

/-!
# Attempts

Attempts are counted in halves, so that a round-trip that never reached a
verdict can cost half of one that did.  The count is a word of 32 bits.

## Main definitions

* `Attempts` — a number of halves.
* `Attempts.whole` — whole attempts, up to the largest count.
* `Attempts.minus`, `Attempts.min`, `Attempts.sum` — arithmetic.
* `Attempts.text`, `Attempts.toJson`, `Attempts.ofJson` — decimals with one place.

## Main results

* `Attempts.halves_minus`, `Attempts.halves_min` — the operations on the halves.
-/

namespace HarnessRepair

open Json

/-- A non-negative multiple of half an attempt. -/
structure Attempts where
  halves : UInt32
  deriving DecidableEq, Repr, Inhabited

namespace Attempts

/-- No attempt. -/
def zero : Attempts := ⟨0⟩

/-- The cost of a round-trip that never reached a verdict. -/
def half : Attempts := ⟨1⟩

/-- The cost of a round-trip that reached one. -/
def full : Attempts := ⟨2⟩

/-- `n` whole attempts, or the largest count if there is no such count. -/
def whole (n : Nat) : Attempts := ⟨UInt32.ofNat (Nat.min (2 * n) 4294967295)⟩

/-- The sum; it wraps around at 32 bits. -/
def plus (a b : Attempts) : Attempts := ⟨a.halves + b.halves⟩

instance : Add Attempts := ⟨plus⟩

/-- The difference, or nothing if it would be negative. -/
def minus (a b : Attempts) : Attempts := if a.halves ≤ b.halves then zero else ⟨a.halves - b.halves⟩

/-- The smaller of two. -/
def min (a b : Attempts) : Attempts := if a.halves ≤ b.halves then a else b

/-- The sum of a list. -/
def sum (as : List Attempts) : Attempts := as.foldl plus zero

/-- Whether `a` is less than `b`. -/
def isLess (a b : Attempts) : Bool := a.halves < b.halves

@[simp] theorem halves_zero : zero.halves = 0 := rfl

@[simp] theorem halves_plus (a b : Attempts) : (a + b).halves = a.halves + b.halves := rfl

theorem halves_minus (a b : Attempts) :
    (a.minus b).halves.toNat = a.halves.toNat - b.halves.toNat := by
  unfold minus
  split
  · next h =>
    rw [UInt32.le_iff_toNat_le] at h
    simp [zero]; omega
  · next h =>
    have h' : b.halves ≤ a.halves := by
      rw [UInt32.le_iff_toNat_le] at h ⊢; omega
    simp [UInt32.toNat_sub_of_le _ _ h']

theorem halves_min (a b : Attempts) :
    (a.min b).halves.toNat = Nat.min a.halves.toNat b.halves.toNat := by
  unfold min
  split
  · next h => rw [UInt32.le_iff_toNat_le] at h; exact (Nat.min_eq_left h).symm
  · next h =>
    rw [UInt32.le_iff_toNat_le] at h
    exact (Nat.min_eq_right (by omega)).symm

/-! ### Written forms -/

/-- The decimal with one place. -/
def text (a : Attempts) : String :=
  let n := a.halves.toNat
  toString (n / 2) ++ (if n % 2 = 0 then ".0" else ".5")

/-- The decimal as a number. -/
def toJson (a : Attempts) : Value := .number ⟨false, a.halves.toNat * 5, -1, false⟩

/-- Why a value is no number of attempts. -/
inductive Malformed where
  /-- Not a number at all. -/
  | notNumber
  /-- A number that is negative, no multiple of one half, or too large. -/
  | notHalves (x : Binary64)
  deriving DecidableEq, Repr

/-- The words for a malformed number of attempts, if it is a number. -/
def Malformed.message? : Malformed → Option String
  | .notNumber => none
  | .notHalves x => some ("attempts must be a non-negative multiple of 0.5, got " ++ x.display)

/-- The attempts that a number stands for. -/
def ofBinary64 (x : Binary64) : Except Malformed Attempts :=
  match x.halves? with
  | some n => if n < 4294967296 then .ok ⟨UInt32.ofNat n⟩ else .error (.notHalves x)
  | none => .error (.notHalves x)

/-- The attempts that a JSON value stands for. -/
def ofJson (v : Value) : Except Malformed Attempts :=
  match v.binary64? with
  | some x => ofBinary64 x
  | none => .error .notNumber

/-- The attempts that a JSON value stands for, without a reason if there are none. -/
def ofJson? (v : Value) : Option Attempts := (ofJson v).toOption

end Attempts

end HarnessRepair
