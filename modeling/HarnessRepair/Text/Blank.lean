/-!
# Blank characters

Statements of a harness are compared and shown without the blanks around them.
Which characters are blank is the White_Space property of Unicode, so a
non-breaking or an ideographic space counts as one and a zero-width space does
not.

## Main definitions

* `isBlank` — the 25 characters of the property.
* `trimStart`, `trimEnd`, `trim` — drop the blanks at either end.
* `words` — the maximal runs of other characters.
* `squash` — all blanks dropped, the form in which two lines are compared.

## Main results

* `squash_append` — a text is squashed part by part.
-/

namespace HarnessRepair.Text

/-- The characters with the Unicode property White_Space. -/
def isBlank (c : Char) : Bool :=
  let n := c.toNat
  (9 ≤ n && n ≤ 13) || n == 0x20 || n == 0x85 || n == 0xA0 || n == 0x1680 ||
    (0x2000 ≤ n && n ≤ 0x200A) || n == 0x2028 || n == 0x2029 || n == 0x202F ||
    n == 0x205F || n == 0x3000

/-! ### Trimming -/

/-- The characters from the first that is not blank. -/
def trimStartChars (cs : List Char) : List Char := cs.dropWhile isBlank

/-- The characters up to the last that is not blank. -/
def trimEndChars : List Char → List Char
  | [] => []
  | c :: cs =>
    match trimEndChars cs with
    | [] => if isBlank c then [] else [c]
    | kept => c :: kept

/-- The characters between the first and the last that is not blank. -/
def trimChars (cs : List Char) : List Char := trimEndChars (trimStartChars cs)

/-- `trimStart s` is `s` without the blanks in front. -/
def trimStart (s : String) : String := String.ofList (trimStartChars s.toList)

/-- `trimEnd s` is `s` without the blanks at its end. -/
def trimEnd (s : String) : String := String.ofList (trimEndChars s.toList)

/-- `trim s` is `s` without the blanks at either end. -/
def trim (s : String) : String := String.ofList (trimChars s.toList)

/-- A text that holds nothing but blanks. -/
def isBlankText (s : String) : Bool := s.toList.all isBlank

/-! ### Words -/

/-- The maximal runs of characters that are not blank, in order. -/
def wordsOfChars : List Char → List (List Char)
  | [] => []
  | c :: cs =>
    if isBlank c then wordsOfChars cs
    else
      match cs with
      | [] => [[c]]
      | d :: _ =>
        if isBlank d then [c] :: wordsOfChars cs
        else
          match wordsOfChars cs with
          | [] => [[c]]
          | w :: ws => (c :: w) :: ws

/-- The words of a text. -/
def words (s : String) : List String := (wordsOfChars s.toList).map String.ofList

/-- The words of a text with one space between two of them. -/
def normalizeBlanks (s : String) : String := " ".intercalate (words s)

/-! ### Comparing without blanks -/

/-- A text without its blanks; two lines say the same when these agree. -/
def squash (cs : List Char) : List Char := cs.filter fun c => !isBlank c

@[simp] theorem squash_nil : squash [] = [] := rfl

@[simp] theorem squash_append (a b : List Char) : squash (a ++ b) = squash a ++ squash b := by
  simp [squash]

end HarnessRepair.Text
