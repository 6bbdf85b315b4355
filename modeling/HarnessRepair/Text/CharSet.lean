/-!
# Sets of characters

A property of characters is given by the ascending list of the code points where
it changes: from an even place of the list to the next place the property holds.

## Main definitions

* `CharSet`, `CharSet.mem` — such a list and the membership it stands for.
-/

namespace HarnessRepair.Text

/-- A set of code points, as the ascending list of the places where membership changes. -/
abbrev CharSet := List Nat

namespace CharSet

/-- Whether the code point `n` lies in the set. -/
def mem : CharSet → Nat → Bool
  | [], _ => false
  | f :: fs, n => if n < f then false else !mem fs n

@[simp] theorem mem_nil (n : Nat) : mem [] n = false := rfl

end CharSet

end HarnessRepair.Text
