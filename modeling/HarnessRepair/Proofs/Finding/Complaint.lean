import HarnessRepair.Finding.Basic
import HarnessRepair.Proofs.Text.Numeral

/-!
# What a finding says, apart from its place

The verifier says something of a place.  What it says is a complaint, and a finding
is a complaint at a location.  The same complaint can be made at another line, and
moving a finding there gives exactly the finding that would have been built there.

## Main definitions

* `Complaint` — what is said, and `Complaint.madeAt` — the finding that says it of a place.
* `Complaint.Countable` — the uncovered lines are counted by a word.

## Main results

* `relocated_madeAt` — **moving a finding is building it anew at the other line.**
* `eq_coverageGap` — which findings tell the length of a gap.
-/

namespace HarnessRepair

open Text

/-- What can be said of a place. -/
inductive Complaint where
  /-- A property of the program is violated there. -/
  | violated (message : String) (property : Option String) (trace : List TraceEntry)
  /-- Some lines from there on are not covered. -/
  | uncovered (count : Nat)
  deriving DecidableEq

namespace Complaint

/-- The finding that says it of a place. -/
def madeAt (c : Complaint) (l : Location) : Finding :=
  match c with
  | violated message property trace => .modelingError l message property trace
  | uncovered count => .coverageGap l count

/-- The uncovered lines, if that is what it is about, are counted by a word. -/
def Countable : Complaint → Prop
  | violated .. => True
  | uncovered count => count < wordLimit

theorem location_madeAt (c : Complaint) (l : Location) : (c.madeAt l).location = l := by
  cases c <;> rfl

/-! ### Moving findings -/

/-- What a gap says starts with its length. -/
theorem head?_words_gapMessage (count line : Nat) :
    (words (Finding.gapMessage count line)).head? = some (toString count) := by
  have hmessage : (Finding.gapMessage count line).toList = (toString count).toList ++
      ' ' :: ("uncovered line(s) starting at line ".toList ++ (toString line).toList) := by
    rw [Finding.gapMessage, String.toList_append, String.toList_append, List.append_assoc]
    rfl
  exact head?_words_append (toList_toString_ne_nil count)
    (fun c hc => isBlank_of_isDigit (isDigit_of_mem_toString hc)) hmessage (by decide)

/-- A gap can be told its length from its message, if that is a word. -/
theorem uncoveredLines?_eq (l : Location) (count : Nat) :
    (Finding.coverageGap l count).uncoveredLines? = unsigned? wordLimit (toString count) := by
  rw [Finding.uncoveredLines?]
  dsimp only [Finding.coverageGap]
  rw [head?_words_gapMessage, Option.bind_some]

theorem uncoveredLines?_coverageGap (l : Location) {count : Nat} (h : count < wordLimit) :
    (Finding.coverageGap l count).uncoveredLines? = some count := by
  rw [uncoveredLines?_eq, unsigned?_toString h]

/-- It ends with the line at which the gap starts. -/
theorem gapMessage_inj {count m n : Nat} :
    Finding.gapMessage count m = Finding.gapMessage count n ↔ m = n := by
  refine ⟨fun h => toString_inj ?_, fun h => h ▸ rfl⟩
  have hlist := congrArg String.toList h
  rw [Finding.gapMessage, Finding.gapMessage, String.toList_append, String.toList_append,
    String.toList_append, String.toList_append] at hlist
  exact List.append_cancel_left hlist

/-- **Moving a finding to another line gives the finding that is built there.** -/
theorem relocated_madeAt {c : Complaint} (h : c.Countable) (l : Location) (line : Nat) :
    (c.madeAt l).relocated line = c.madeAt { l with line := line } := by
  cases c with
  | violated message property trace => rfl
  | uncovered count =>
    have hcount := uncoveredLines?_coverageGap l h
    rw [Complaint.madeAt, Complaint.madeAt, Finding.relocated, hcount]
    rfl

/-- A finding built or moved that tells the length of a gap is a gap of that length. -/
theorem eq_coverageGap {c : Complaint} {l : Location} {f : Finding} {count : Nat}
    (hf : f = c.madeAt l ∨ ∃ line, f = (c.madeAt l).relocated line)
    (hcount : f.uncoveredLines? = some count) : f = .coverageGap f.location count := by
  cases c with
  | violated message property trace => rcases hf with rfl | ⟨line, rfl⟩ <;> cases hcount
  | uncovered k =>
    rcases Nat.lt_or_ge k wordLimit with hk | hk
    · obtain ⟨place, rfl⟩ : ∃ place, f = .coverageGap place k := by
        rcases hf with rfl | ⟨line, rfl⟩
        · exact ⟨l, rfl⟩
        · exact ⟨_, relocated_madeAt (c := .uncovered k) hk l line⟩
      rw [uncoveredLines?_coverageGap place hk] at hcount
      obtain rfl := Option.some.inj hcount
      rfl
    · -- such a gap does not tell its length, wherever it is moved
      have hnone : ((Complaint.uncovered k).madeAt l).uncoveredLines? = none := by
        rw [madeAt, uncoveredLines?_eq, unsigned?_toString_of_le hk]
      rcases hf with rfl | ⟨line, rfl⟩
      · cases hnone.symm.trans hcount
      · have hmessage : (((Complaint.uncovered k).madeAt l).relocated line).message =
            ((Complaint.uncovered k).madeAt l).message := by
          rw [Finding.relocated, hnone]
        rw [Finding.uncoveredLines?] at hnone hcount
        rw [hmessage] at hcount
        cases hnone.symm.trans hcount

end Complaint

end HarnessRepair
