import HarnessRepair.Oracle.Answer
import HarnessRepair.Proofs.Json.Record
import HarnessRepair.Proofs.Text.Newline
import HarnessRepair.Proofs.Text.Trim
import HarnessRepair.Text.Search
import Mathlib.Data.List.Infix

/-!
# Answers whatever surrounds them

The object of an answer may stand in a block that is marked as JSON, with any prose around
it, or bare between texts without braces.  What is taken from the answer is what the object
says, however it is written.  The block is found where it first occurs: put behind a text
that does not hold it, a text is found just there, unless some of it can stand at the end of
that text and be completed by its own beginning.

## Main definitions

* `Text.Crosses` — a text can be found across the place where another ends.
* `Suggestion` — a precondition as an answer gives it.
* `Suggestion.IsSaidBy`, `Suggests` — what an object says.
* `IsRendering` — a text that writes an object, from its first brace to its last.
* `patchesOf` — the patches of a list of suggestions.

## Main results

* `Text.splitAtFirst?_append` — where a text is found first.
* `fencedJson?_block` — the first block is found.
* `outerObject?_between` — so is an object between texts without braces.
* `readPreconditions?_rendering` — the list that an object gives.
* `extractPatches_surrounded` — **an answer is read as what its object says, whatever
  surrounds it.**
-/

namespace HarnessRepair

namespace Text

/-! ### The first occurrence of a text -/

variable {needle before : List Char}

/-- What is looked for stands partly at the end of `before`, and goes on as it starts. -/
def Crosses (needle before : List Char) : Prop :=
  ∃ front back, front ++ back = needle ∧ front ≠ [] ∧ back ≠ [] ∧ front <:+ before ∧
    back <+: needle

/-- An occurrence behind a text that has none, and across whose end there is none, starts no
sooner than where that text ends. -/
theorem length_le_of_occurrence (hnot : ¬ needle <:+: before) (hcross : ¬ Crosses needle before)
    {rest x y : List Char} (h : before ++ needle ++ rest = x ++ needle ++ y) :
    before.length ≤ x.length := by
  by_contra hlt
  rw [List.append_assoc, List.append_assoc] at h
  obtain ⟨late, rfl⟩ : x <+: before := by
    refine List.prefix_of_prefix_length_le (List.prefix_append x (needle ++ y)) ?_ (by omega)
    rw [← h]
    exact List.prefix_append before _
  have hlate : late ≠ [] := by
    rintro rfl
    simp at hlt
  rw [List.append_assoc, List.append_cancel_left_eq] at h
  -- the occurrence ends inside the text, or goes on behind it
  rcases Nat.le_total needle.length late.length with hlen | hlen
  · obtain ⟨tail, rfl⟩ : needle <+: late := by
      refine List.prefix_of_prefix_length_le (List.prefix_append needle y) ?_ hlen
      rw [← h]
      exact List.prefix_append late _
    exact hnot ⟨x, tail, by rw [List.append_assoc]⟩
  · obtain ⟨back, hback⟩ : late <+: needle := by
      refine List.prefix_of_prefix_length_le (List.prefix_append late (needle ++ rest)) ?_ hlen
      rw [h]
      exact List.prefix_append needle _
    have hrest : needle ++ rest = back ++ y := by
      rw [← List.append_cancel_left_eq late, h, ← List.append_assoc, hback]
    have hstart : back <+: needle := by
      have hbegins : back <+: needle ++ rest := by
        rw [hrest]
        exact List.prefix_append back y
      refine List.prefix_of_prefix_length_le hbegins (List.prefix_append needle rest) ?_
      rw [← hback, List.length_append]
      omega
    by_cases hnil : back = []
    · subst hnil
      rw [List.append_nil] at hback
      exact hnot ⟨x, [], by rw [hback, List.append_nil]⟩
    · exact hcross ⟨late, back, hback, hlate, hnil, List.suffix_append x late, hstart⟩

/-- **The first occurrence is the one behind a text that has none and across whose end there
is none.** -/
theorem splitAtFirst?_append (hne : needle ≠ []) (hnot : ¬ needle <:+: before)
    (hcross : ¬ Crosses needle before) (rest : List Char) :
    splitAtFirst? needle (before ++ needle ++ rest) = some (before, rest) := by
  have hfirst : ∀ x y, before ++ needle ++ rest = x ++ needle ++ y → before.length ≤ x.length :=
    fun x y => length_le_of_occurrence hnot hcross
  clear hnot hcross
  induction before with
  | nil =>
    obtain ⟨c, cs, rfl⟩ := List.exists_cons_of_ne_nil hne
    have hfound : stripPrefix? (c :: cs) (c :: (cs ++ rest)) = some rest :=
      stripPrefix?_eq_some_iff.2 rfl
    rw [List.nil_append, List.cons_append, splitAtFirst?, hfound]
  | cons c before ih =>
    have hnone : stripPrefix? needle (c :: (before ++ needle ++ rest)) = none := by
      rw [Option.eq_none_iff_forall_ne_some]
      intro y hy
      have h := hfirst [] y (stripPrefix?_eq_some_iff.1 hy)
      simp at h
    rw [List.cons_append, List.cons_append, splitAtFirst?, hnone]
    simp only
    rw [ih fun x y hxy => ?_]
    · rfl
    · have h := hfirst (c :: x) y (congrArg (c :: ·) hxy)
      rw [List.length_cons, List.length_cons] at h
      omega

/-! ### Texts around that have no part in it -/

/-- A text is not found sooner for what stands in front and has none of its characters. -/
theorem infix_of_infix_append_left (hne : needle ≠ []) {xs ys : List Char}
    (hxs : ∀ c ∈ xs, c ∉ needle) (h : needle <:+: xs ++ ys) : needle <:+: ys := by
  induction xs with
  | nil => exact h
  | cons x xs ih =>
    rw [List.forall_mem_cons] at hxs
    rcases List.infix_cons_iff.1 h with hfront | htail
    · obtain ⟨c, cs, rfl⟩ := List.exists_cons_of_ne_nil hne
      obtain rfl := (List.cons_prefix_cons.1 hfront).1
      exact absurd List.mem_cons_self hxs.1
    · exact ih hxs.2 htail

/-- Nor for what stands behind. -/
theorem infix_of_infix_append_right (hne : needle ≠ []) {xs ys : List Char}
    (hys : ∀ c ∈ ys, c ∉ needle) (h : needle <:+: xs ++ ys) : needle <:+: xs := by
  rw [← List.reverse_infix, List.reverse_append] at h
  refine List.reverse_infix.1 (infix_of_infix_append_left (mt List.reverse_eq_nil_iff.1 hne) ?_ h)
  exact fun c hc hmem => hys c (List.mem_reverse.1 hc) (List.mem_reverse.1 hmem)

end Text

open Json Text

/-! ### What an answer says -/

/-- A precondition as an answer gives it. -/
structure Suggestion where
  function : String
  statement : String
  /-- `none` when the answer leaves it out. -/
  previousLine? : Option String := none
  nextLine? : Option String := none

namespace Suggestion

/-- The suggestion has something to insert. -/
def isUsable (s : Suggestion) : Bool := !isBlankText s.statement

/-- The patch of a suggestion: the statement trimmed, lines that are left out empty. -/
def patch (s : Suggestion) : Patch :=
  ⟨trim s.statement, ⟨s.function, s.previousLine?.getD "", s.nextLine?.getD ""⟩⟩

/-- The members of an object give this suggestion.  Other members are allowed. -/
structure IsSaidBy (s : Suggestion) (members : List (Literal × Value)) : Prop where
  named : ∀ m ∈ members, m.1.isSome
  function : valuesOf "function" members = [.ofText s.function]
  statement : valuesOf "precondition" members = [.ofText s.statement]
  previousLine : valuesOf "previous_line" members = (s.previousLine?.map Value.ofText).toList
  nextLine : valuesOf "next_line" members = (s.nextLine?.map Value.ofText).toList

end Suggestion

/-- The value is an object with this list of suggestions. -/
def Suggests (suggestions : List Suggestion) (v : Value) : Prop :=
  ∃ members items, v = .object members ∧ (∀ m ∈ members, m.1.isSome) ∧
    valuesOf "preconditions" members = [.array items] ∧
    List.Forall₂ (fun s item => ∃ said, item = .object said ∧ s.IsSaidBy said) suggestions items

/-- The text writes the value, from an opening to a closing brace. -/
structure IsRendering (b : List Char) (v : Value) : Prop where
  decoded : parse? (String.ofList b) = some v
  opened : b.head? = some '\x7b'
  closed : b.getLast? = some '\x7d'

/-- The patches of the suggestions that have something to insert, if there are any. -/
def patchesOf (suggestions : List Suggestion) : Except OracleFailure (List Patch) :=
  match (suggestions.filter Suggestion.isUsable).map Suggestion.patch with
  | [] => .error .empty
  | patches => .ok patches

/-! ### Reading the object -/

section

variable {s : Suggestion} {suggestions : List Suggestion} {v : Value}

/-- A suggestion as it is read, before its statement is trimmed. -/
def Suggestion.raw (s : Suggestion) : Patch :=
  ⟨s.statement, ⟨s.function, s.previousLine?.getD "", s.nextLine?.getD ""⟩⟩

/-- A field that may be left out is what stands there, or empty. -/
theorem orDefault_text_of_find? {r : Record} {name : String} {line? : Option String}
    (h : r.find? name = (line?.map Value.ofText).toList.head?) :
    r.orDefault name "" Value.text? = some (line?.getD "") := by
  rw [Record.orDefault, h]
  cases line? <;> rfl

theorem Suggestion.IsSaidBy.wellNamed {members : List (Literal × Value)}
    (h : s.IsSaidBy members) :
    WellNamed ["function", "precondition", "previous_line", "next_line"] members := by
  refine ⟨h.named, ?_⟩
  have hone : ∀ line? : Option String, (line?.map Value.ofText).toList.length ≤ 1 := by
    intro line?
    cases line? <;> simp
  intro name hname
  simp only [List.mem_cons, List.not_mem_nil, or_false] at hname
  rcases hname with rfl | rfl | rfl | rfl
  · rw [h.function]
    exact Nat.le_refl 1
  · rw [h.statement]
    exact Nat.le_refl 1
  · rw [h.previousLine]
    exact hone _
  · rw [h.nextLine]
    exact hone _

/-- An object that says a suggestion is read as that. -/
theorem Suggestion.IsSaidBy.readPrecondition? {members : List (Literal × Value)}
    (h : s.IsSaidBy members) : readPrecondition? (.object members) = some s.raw := by
  obtain ⟨r, hread, -, hfind⟩ := h.wellNamed.exists_record?
  have hfunction : r.required "function" Value.text? = some s.function := by
    rw [Record.required, hfind _ (by simp), h.function]
    rfl
  have hstatement : r.required "precondition" Value.text? = some s.statement := by
    rw [Record.required, hfind _ (by simp), h.statement]
    rfl
  have hprevious : r.orDefault "previous_line" "" Value.text? = some (s.previousLine?.getD "") :=
    orDefault_text_of_find? (by rw [hfind _ (by simp), h.previousLine])
  have hnext : r.orDefault "next_line" "" Value.text? = some (s.nextLine?.getD "") :=
    orDefault_text_of_find? (by rw [hfind _ (by simp), h.nextLine])
  rw [HarnessRepair.readPrecondition?, hread]
  simp only [Option.bind_eq_bind, Option.bind_some, hfunction, hstatement, hprevious, hnext]
  rfl

/-- **The text of an object is read as the suggestions that it makes.** -/
theorem readPreconditions?_rendering {b : List Char} (hb : IsRendering b v)
    (hv : Suggests suggestions v) :
    readPreconditions? (String.ofList b) = some (suggestions.map Suggestion.raw) := by
  obtain ⟨members, items, rfl, hnamed, hlist, hitems⟩ := hv
  have hwell : WellNamed ["preconditions"] members := by
    refine ⟨hnamed, fun name hname => ?_⟩
    rw [List.mem_singleton.1 hname, hlist]
    exact Nat.le_refl 1
  obtain ⟨r, hread, -, hfind⟩ := hwell.exists_record?
  have hmap : items.mapM readPrecondition? = some (suggestions.map Suggestion.raw) := by
    rw [mapM_eq_some_iff, List.forall₂_map_right_iff]
    refine hitems.flip.imp ?_
    rintro _ s ⟨said, rfl, hsaid⟩
    exact hsaid.readPrecondition?
  rw [readPreconditions?, hb.decoded]
  simp only [Option.bind_eq_bind, Option.bind_some, hread]
  rw [Record.orDefault, hfind _ (by simp), hlist]
  exact hmap

/-- The patches that are kept are those of the usable suggestions. -/
theorem filterMap_usable?_raw (suggestions : List Suggestion) :
    (suggestions.map Suggestion.raw).filterMap usable? =
      (suggestions.filter Suggestion.isUsable).map Suggestion.patch := by
  rw [List.filterMap_map, ← List.filterMap_eq_filter, List.map_filterMap]
  refine List.filterMap_congr fun s _ => ?_
  change (if isBlankText s.statement then none else some s.patch) = _
  rw [Option.guard, Suggestion.isUsable]
  by_cases hblank : isBlankText s.statement = true
  · rw [if_pos hblank, hblank]
    rfl
  · rw [if_neg hblank, Bool.eq_false_iff.2 hblank]
    rfl

/-- An answer whose object is found is read as what that object says. -/
theorem extractPatches_of_found {answer : String} {b : List Char}
    (hfound : (fencedJson? answer.toList).or (outerObject? answer.toList) = some b)
    (hb : IsRendering b v) (hv : Suggests suggestions v) :
    extractPatches answer = patchesOf suggestions := by
  rw [extractPatches]
  simp only [hfound, readPreconditions?_rendering hb hv, filterMap_usable?_raw]
  unfold patchesOf
  cases (suggestions.filter Suggestion.isUsable).map Suggestion.patch <;> rfl

end

/-! ### Finding the object -/

/-- The mark that opens a block of JSON. -/
def openingFence : List Char := fence ++ "json".toList

/-- The text holds a block that is marked as JSON and closed. -/
def HoldsBlock (cs : List Char) : Prop :=
  ∃ before inside after, cs = before ++ openingFence ++ inside ++ fence ++ after

section

variable {before inside after b : List Char}

/-- The mark that opens a block does not overlap itself. -/
theorem not_crosses_openingFence (before : List Char) : ¬ Crosses openingFence before := by
  rintro ⟨front, back, happend, hfront, hback, -, hstart⟩
  have hsplits : ∀ i ∈ List.range 7, i ≠ 0 → ¬ openingFence.drop i <+: openingFence := by decide
  obtain rfl : openingFence.drop front.length = back := by
    rw [← happend, List.drop_left]
  have hlength : front.length < 7 := by
    have hall : openingFence.length = 7 := rfl
    rw [← happend, List.length_append] at hall
    have := List.length_pos_of_ne_nil hback
    omega
  exact hsplits front.length (List.mem_range.2 hlength)
    (fun h => hfront (List.length_eq_zero_iff.1 h)) hstart

/-- The mark that closes a block cannot begin in a text that ends in another character. -/
theorem not_crosses_fence {c : Char} (hlast : inside.getLast? = some c) (hc : c ∉ fence) :
    ¬ Crosses fence inside := by
  rintro ⟨front, back, happend, hfront, -, hend, -⟩
  obtain ⟨d, hd⟩ := Option.ne_none_iff_exists'.1 (mt List.getLast?_eq_none_iff.1 hfront)
  obtain ⟨start, rfl⟩ := hend
  rw [List.getLast?_append, hd] at hlast
  obtain rfl : d = c := Option.some.inj hlast
  refine hc ?_
  rw [← happend]
  exact List.mem_append_left back (List.mem_of_getLast? hd)

/-- The block is what stands between the first mark and the first closing one behind it. -/
theorem fencedJson?_eq (cs : List Char) :
    fencedJson? cs = (splitAtFirst? openingFence cs).bind fun opened =>
      (splitAtFirst? fence opened.2).map fun closed => trimChars closed.1 := by
  rw [fencedJson?, ← openingFence, Option.bind_eq_bind]
  refine Option.bind_congr fun ⟨_, behind⟩ _ => ?_
  cases hclose : splitAtFirst? fence behind <;> simp only [hclose] <;> rfl

/-- **The first block is found behind any text without the mark that opens one.** -/
theorem fencedJson?_block (hbefore : ¬ openingFence <:+: before) (hinside : ¬ fence <:+: inside)
    {c : Char} (hlast : inside.getLast? = some c) (hc : c ∉ fence) :
    fencedJson? (before ++ openingFence ++ inside ++ fence ++ after) = some (trimChars inside) := by
  have hopen : splitAtFirst? openingFence (before ++ openingFence ++ (inside ++ fence ++ after)) =
      some (before, inside ++ fence ++ after) :=
    splitAtFirst?_append (by decide) hbefore (not_crosses_openingFence before) _
  have hclose : splitAtFirst? fence (inside ++ fence ++ after) = some (inside, after) :=
    splitAtFirst?_append (by decide) hinside (not_crosses_fence hlast hc) _
  rw [List.append_assoc _ fence after, List.append_assoc _ inside,
    ← List.append_assoc inside fence after, fencedJson?_eq, hopen, Option.bind_some, hclose,
    Option.map_some]

/-- Where no block is closed, none is found. -/
theorem fencedJson?_eq_none {cs : List Char} (h : ¬ HoldsBlock cs) : fencedJson? cs = none := by
  rw [Option.eq_none_iff_forall_ne_some]
  intro found hfound
  rw [fencedJson?_eq, Option.bind_eq_some_iff] at hfound
  obtain ⟨⟨before, behind⟩, hopen, hfound⟩ := hfound
  obtain ⟨⟨inside, after⟩, hclose, -⟩ := Option.map_eq_some_iff.1 hfound
  have hbehind : behind = inside ++ fence ++ after := splitAtFirst?_eq_some hclose
  refine h ⟨before, inside, after, ?_⟩
  rw [splitAtFirst?_eq_some hopen, hbehind]
  simp only [List.append_assoc]

/-- **An object is found between texts that have no brace to offer.** -/
theorem outerObject?_between (hbefore : '\x7b' ∉ before) (hafter : '\x7d' ∉ after)
    (hopened : b.head? = some '\x7b') (hclosed : b.getLast? = some '\x7d') :
    outerObject? (before ++ b ++ after) = some b := by
  have hstart : (before ++ b ++ after).dropWhile (· != '\x7b') = b ++ after := by
    obtain ⟨cs, rfl⟩ := List.head?_eq_some_iff.1 hopened
    rw [List.append_assoc, List.dropWhile_append_of_pos, List.cons_append,
      List.dropWhile_cons_of_neg (by simp)]
    exact fun c hc => bne_iff_ne.2 fun h => hbefore (h ▸ hc)
  have hend : uptoLastBrace (b ++ after) = b := by
    obtain ⟨cs, rfl⟩ := List.getLast?_eq_some_iff.1 hclosed
    rw [uptoLastBrace, List.reverse_append, List.dropWhile_append_of_pos, List.reverse_append,
      List.reverse_singleton, List.singleton_append, List.dropWhile_cons_of_neg (by simp),
      List.reverse_cons, List.reverse_reverse]
    exact fun c hc => bne_iff_ne.2 fun h => hafter (h ▸ List.mem_reverse.1 hc)
  have hne : b.isEmpty = false := by
    obtain ⟨cs, rfl⟩ := List.head?_eq_some_iff.1 hopened
    rfl
  rw [outerObject?, hstart, hend]
  simp only [hne, Bool.false_eq_true, if_false]

/-- Braces are not blank. -/
theorem IsRendering.isTrimmed {v : Value} (h : IsRendering b v) : IsTrimmed b := by
  refine ⟨fun c hc => ?_, fun c hc => ?_⟩
  · obtain rfl := Option.some.inj (h.opened.symm.trans hc)
    decide
  · obtain rfl := Option.some.inj (h.closed.symm.trans hc)
    decide

/-- Blanks have no part in the mark that closes a block. -/
theorem not_fence_infix_blanks {start ending : List Char} (hfence : ¬ fence <:+: b)
    (hstart : ∀ c ∈ start, isBlank c = true) (hending : ∀ c ∈ ending, isBlank c = true) :
    ¬ fence <:+: start ++ b ++ ending := by
  have hblank : ∀ c, isBlank c = true → c ∉ fence := by
    intro c hc hmem
    obtain rfl : c = '`' := by simpa [fence] using hmem
    exact absurd hc (by decide)
  intro h
  refine hfence (infix_of_infix_append_left (by decide) (fun c hc => hblank c (hstart c hc)) ?_)
  exact infix_of_infix_append_right (by decide) (fun c hc => hblank c (hending c hc)) h

/-- A block ends in a brace or a blank. -/
theorem IsRendering.exists_getLast? {v : Value} (hb : IsRendering b v) (start : List Char)
    {ending : List Char} (hending : ∀ c ∈ ending, isBlank c = true) :
    ∃ c, (start ++ b ++ ending).getLast? = some c ∧ c ∉ fence := by
  rw [List.getLast?_append]
  cases hlast : ending.getLast? with
  | none =>
    refine ⟨'\x7d', ?_, by decide⟩
    rw [List.getLast?_append, hb.closed]
    rfl
  | some c =>
    refine ⟨c, rfl, fun hmem => ?_⟩
    obtain rfl : c = '`' := by simpa [fence] using hmem
    exact absurd (hending _ (List.mem_of_getLast? hlast)) (by decide)

end

/-! ### Answers -/

/-- **An answer is read as what its object says, whatever surrounds it**: in the first block
that is marked as JSON, with any prose around the block and blanks inside, or between texts
that have no brace to offer, when there is no such block. -/
theorem extractPatches_surrounded {suggestions : List Suggestion} {v : Value} {b : List Char}
    (hv : Suggests suggestions v) (hb : IsRendering b v) :
    (∀ before start ending after : List Char,
      ¬ fence <:+: b → ¬ openingFence <:+: before →
      (∀ c ∈ start, isBlank c = true) → (∀ c ∈ ending, isBlank c = true) →
      extractPatches (String.ofList
        (before ++ openingFence ++ (start ++ b ++ ending) ++ fence ++ after)) =
          patchesOf suggestions) ∧
    ∀ before after : List Char,
      '\x7b' ∉ before → '\x7d' ∉ after → ¬ HoldsBlock (before ++ b ++ after) →
      extractPatches (String.ofList (before ++ b ++ after)) = patchesOf suggestions := by
  constructor
  · intro before start ending after hfence hbefore hstart hending
    obtain ⟨c, hlast, hc⟩ := hb.exists_getLast? start hending
    have hne : b ≠ [] := by
      rintro rfl
      cases hb.opened
    refine extractPatches_of_found ?_ hb hv
    rw [String.toList_ofList, fencedJson?_block hbefore
      (not_fence_infix_blanks hfence hstart hending) hlast hc,
      trimChars_blanks hne hb.isTrimmed hstart hending, Option.some_or]
  · intro before after hbefore hafter hblock
    refine extractPatches_of_found ?_ hb hv
    rw [String.toList_ofList, fencedJson?_eq_none hblock, Option.none_or,
      outerObject?_between hbefore hafter hb.opened hb.closed]

/-- A block that is closed has been opened. -/
theorem not_holdsBlock {cs : List Char} (h : ¬ openingFence <:+: cs) : ¬ HoldsBlock cs := by
  rintro ⟨before, inside, after, rfl⟩
  exact h ⟨before, inside ++ fence ++ after, by simp only [List.append_assoc]⟩

/-- An object with one suggestion, and one that is blank. -/
def smallObject : List Char :=
  ("\x7b\"preconditions\":[" ++
    "\x7b\"function\":\"f\",\"precondition\":\" x; \",\"next_line\":\"y;\"\x7d," ++
    "\x7b\"function\":\"g\",\"precondition\":\" \"\x7d]\x7d").toList

/-- What the object says. -/
def smallSuggestions : List Suggestion :=
  [{ function := "f", statement := " x; ", nextLine? := some "y;" },
    { function := "g", statement := " " }]

theorem extractPatches_surrounded_smallObject :
    (∃ v, Suggests smallSuggestions v ∧ IsRendering smallObject v) ∧
      extractPatches (String.ofList ("Use \x7b\x7d:\n".toList ++ openingFence ++
        ("\n".toList ++ smallObject ++ " \n".toList) ++ fence ++ " or not".toList)) =
          .ok [⟨"x;", ⟨"f", "", "y;"⟩⟩] ∧
      extractPatches (String.ofList ("It is ".toList ++ smallObject ++ ", I think.".toList)) =
        .ok [⟨"x;", ⟨"f", "", "y;"⟩⟩] := by
  have hsays : Suggests smallSuggestions (.object [(some "preconditions", .array
      [.object [(some "function", .ofText "f"), (some "precondition", .ofText " x; "),
        (some "next_line", .ofText "y;")],
      .object [(some "function", .ofText "g"), (some "precondition", .ofText " ")]])]) := by
    refine ⟨_, _, rfl, by decide, rfl, .cons ⟨_, rfl, ?_⟩ (.cons ⟨_, rfl, ?_⟩ .nil)⟩
    · exact ⟨by decide, rfl, rfl, rfl, rfl⟩
    · exact ⟨by decide, rfl, rfl, rfl, rfl⟩
  have hwrites : IsRendering smallObject _ := ⟨by cbv, by decide, by decide⟩
  have hpatches : patchesOf smallSuggestions = .ok [⟨"x;", ⟨"f", "", "y;"⟩⟩] := by decide
  have hline : ∀ c ∈ "\n".toList, isBlank c = true := List.forall_mem_singleton.2 (by decide)
  have hending : ∀ c ∈ " \n".toList, isBlank c = true := List.forall_mem_cons.2 ⟨by decide, hline⟩
  rw [← hpatches]
  refine ⟨⟨_, hsays, hwrites⟩,
    (extractPatches_surrounded hsays hwrites).1 _ _ _ _ ?_ ?_ hline hending,
    (extractPatches_surrounded hsays hwrites).2 _ _ ?_ ?_ (not_holdsBlock ?_)⟩
  all_goals decide +kernel

end HarnessRepair
