import HarnessRepair.Text.Utf8

/-!
# Texts of bytes

Some programs look at bytes and not at characters.  A text for them has a character
for every byte, so that it can hold any bytes and its length is their number.

## Main definitions

* `ofBytes`, `toBytes` — bytes as such a text and back.
* `spread`, `gather` — a text as such a text and back.

## Main results

* `toBytes_ofBytes` — no byte is lost.
-/

namespace HarnessRepair.Text

/-- A character for every byte. -/
def ofBytes (bs : List UInt8) : String := String.ofList (bs.map fun b => Char.ofNat b.toNat)

/-- The byte for every character. -/
def toBytes (s : String) : List UInt8 := s.toList.map fun c => UInt8.ofNat c.toNat

/-- A text with a character for every byte of it. -/
def spread (s : String) : String := ofBytes (bytes s)

/-- The text whose bytes the characters stand for, ill-formed stretches replaced. -/
def gather (s : String) : String := lossyText (toBytes s)

theorem ofNat_toNat_byte (b : UInt8) : (Char.ofNat b.toNat).toNat = b.toNat := by
  have h := b.toNat_lt
  have valid : b.toNat.isValidChar := Or.inl (by omega)
  rw [Char.ofNat, dif_pos valid]
  rfl

theorem toBytes_ofBytes (bs : List UInt8) : toBytes (ofBytes bs) = bs := by
  induction bs with
  | nil => rfl
  | cons b rest ih =>
    simp only [toBytes, ofBytes, String.toList_ofList, List.map_cons, List.map_map] at ih ⊢
    rw [ofNat_toNat_byte, UInt8.ofNat_toNat]
    simpa using ih

end HarnessRepair.Text
