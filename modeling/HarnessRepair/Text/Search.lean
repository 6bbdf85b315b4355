/-!
# Searching in texts

Looking for one text inside another, on lists of characters.

## Main definitions

* `splitAtFirst?` — what stands before and after the first occurrence.
* `occurs` — whether there is one.
* `stripPrefix?`, `stripSuffix?` — what is left of a text after its start or end.

## Main results

* `splitAtFirst?_eq_some` — the parts and the needle make up the text.
-/

namespace HarnessRepair.Text

/-- What is left of `cs` behind `start`, if it starts so. -/
def stripPrefix? : List Char → List Char → Option (List Char)
  | [], cs => some cs
  | _ :: _, [] => none
  | s :: start, c :: cs => if s = c then stripPrefix? start cs else none

theorem stripPrefix?_eq_some_iff {start cs rest : List Char} :
    stripPrefix? start cs = some rest ↔ cs = start ++ rest := by
  induction start generalizing cs with
  | nil => simp [stripPrefix?]
  | cons s start ih =>
    cases cs with
    | nil => simp [stripPrefix?]
    | cons c cs =>
      by_cases h : s = c
      · subst h; simp [stripPrefix?, ih]
      · simp [stripPrefix?, h, Ne.symm h]

/-- What is left of `cs` before `ending`, if it ends so. -/
def stripSuffix? (ending cs : List Char) : Option (List Char) :=
  (stripPrefix? ending.reverse cs.reverse).map List.reverse

/-- The text before and the text after the first occurrence of `needle`. -/
def splitAtFirst? (needle : List Char) : List Char → Option (List Char × List Char)
  | [] => if needle.isEmpty then some ([], []) else none
  | c :: cs =>
    match stripPrefix? needle (c :: cs) with
    | some rest => some ([], rest)
    | none => (splitAtFirst? needle cs).map fun (before, rest) => (c :: before, rest)

theorem splitAtFirst?_eq_some {needle cs before rest : List Char}
    (h : splitAtFirst? needle cs = some (before, rest)) : cs = before ++ needle ++ rest := by
  induction cs generalizing before with
  | nil =>
    by_cases hn : needle = []
    · simp_all [splitAtFirst?]
    · simp [splitAtFirst?, hn] at h
  | cons c cs ih =>
    unfold splitAtFirst? at h
    split at h
    · next hp =>
      obtain ⟨rfl, rfl⟩ : [] = before ∧ _ = rest := by simpa using h
      simpa using stripPrefix?_eq_some_iff.1 hp
    · rw [Option.map_eq_some_iff] at h
      obtain ⟨⟨b, r⟩, hs, hb⟩ := h
      obtain ⟨rfl, rfl⟩ : c :: b = before ∧ r = rest := by simpa using hb
      simp [ih hs]

/-- Whether `needle` occurs in `cs`. -/
def occurs (needle cs : List Char) : Bool := (splitAtFirst? needle cs).isSome

/-- Whether the text `s` holds `needle`. -/
def contains (s needle : String) : Bool := occurs needle.toList s.toList

/-- Whether the text `s` starts with `start`. -/
def startsWith (s start : String) : Bool := (stripPrefix? start.toList s.toList).isSome

/-- Whether the text `s` ends with `ending`. -/
def endsWith (s ending : String) : Bool := (stripSuffix? ending.toList s.toList).isSome

/-- The text with every occurrence of the character `c` written as `text`. -/
def replaceChar (c : Char) (text : String) (s : String) : String :=
  String.ofList (s.toList.flatMap fun d => if d = c then text.toList else [d])

/-- The pieces of a text between the characters that `sep` accepts. -/
def splitChars (sep : Char → Bool) : List Char → List (List Char)
  | [] => [[]]
  | c :: cs =>
    if sep c then [] :: splitChars sep cs
    else
      match splitChars sep cs with
      | [] => [[c]]
      | p :: ps => (c :: p) :: ps

/-- The pieces of a text between the occurrences of the character `sep`. -/
def splitOnChar (sep : Char) (s : String) : List String :=
  (splitChars (· == sep) s.toList).map String.ofList

end HarnessRepair.Text
