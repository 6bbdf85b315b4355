import HarnessRepair.Identity.Sha1
import HarnessRepair.Text.Numeral
import HarnessRepair.Text.Search
import HarnessRepair.Text.Utf8

/-!
# Identifiers

Identifiers of 128 bits.  A name-based identifier is the digest of a namespace
and a name, so the same name has the same identifier in every process.

## Main definitions

* `Uuid` — a number of 128 bits.
* `Uuid.ofName` — version 5: SHA-1 of the namespace and the name.
* `Uuid.text` — lower-case hexadecimal digits in five groups.
* `Uuid.parse?` — the written forms of an identifier.
-/

namespace HarnessRepair

open Text

/-- An identifier of 128 bits. -/
structure Uuid where
  value : BitVec 128
  deriving DecidableEq, Repr

namespace Uuid

/-- The number that bytes write, most significant first. -/
def natOfBytes (bytes : List UInt8) : Nat := bytes.foldl (fun n b => n * 256 + b.toNat) 0

/-- The sixteen bytes of an identifier. -/
def bytes (id : Uuid) : List UInt8 := Sha1.bigEndian 16 id.value.toNat

/-- Sets the version and the variant of an identifier made from a digest. -/
def stamp (n : Nat) : Uuid :=
  let v := BitVec.ofNat 128 n
  let cleared := v &&& ~~~((0xF000#128 <<< 64) ||| (0xC000#128 <<< 48))
  ⟨cleared ||| (0x5000#128 <<< 64) ||| (0x8000#128 <<< 48)⟩

/-- The identifier of a name within a namespace. -/
def ofName (space : Uuid) (name : String) : Uuid :=
  stamp (natOfBytes ((Sha1.digest (space.bytes ++ Text.bytes name)).take 16))

/-- The 32 hexadecimal digits. -/
def digits (id : Uuid) : List Char := hexPadded 32 id.value.toNat

/-- The digits in groups of 8, 4, 4, 4 and 12. -/
def text (id : Uuid) : String :=
  let ds := id.digits
  String.ofList (ds.take 8 ++ '-' :: (ds.drop 8).take 4 ++ '-' :: (ds.drop 12).take 4 ++
    '-' :: (ds.drop 16).take 4 ++ '-' :: ds.drop 20)

/-- An identifier from exactly 32 hexadecimal digits. -/
def ofDigits? (ds : List Char) : Option Uuid :=
  if ds.length = 32 then (natOfHexFrom? 0 ds).map fun n => ⟨BitVec.ofNat 128 n⟩ else none

/-- An identifier from its five groups. -/
def ofGroups? (cs : List Char) : Option Uuid :=
  match splitChars (· == '-') cs with
  | [a, b, c, d, e] =>
    if a.length = 8 ∧ b.length = 4 ∧ c.length = 4 ∧ d.length = 4 then
      ofDigits? (a ++ b ++ c ++ d ++ e)
    else none
  | _ => none

/-- The identifier that a text writes: plain digits, groups, groups in braces, or
groups behind `urn:uuid:`. -/
def parse? (s : String) : Option Uuid :=
  let cs := s.toList
  match cs with
  | '\x7b' :: rest =>
    match rest.reverse with
    | '\x7d' :: inner => ofGroups? inner.reverse
    | _ => none
  | _ =>
    match stripPrefix? "urn:uuid:".toList cs with
    | some rest => ofGroups? rest
    | none => if cs.length = 32 then ofDigits? cs else ofGroups? cs

end Uuid

end HarnessRepair
