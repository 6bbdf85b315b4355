import HarnessRepair.Json.Record
import HarnessRepair.Text.Blank
import HarnessRepair.Text.Search

/-!
# Patches

A patch is a precondition and the place in the harness where it goes: inside a
function, after one line or before another.

## Main definitions

* `Anchor`, `Patch` — where and what.
* `Anchor.functionName` — the name of the function, without annotations.
* `TokenUsage`, `Proposal` — what an oracle answers with.
-/

namespace HarnessRepair

open Json Text

/-- Inside `function`, after the first line that holds `previousLine`, or failing
that before the first that holds `nextLine`. -/
structure Anchor where
  function : String
  previousLine : String := ""
  nextLine : String := ""
  deriving DecidableEq, Repr

namespace Anchor

/-- The mark behind the name of a function that stands for another. -/
def modelMark : List Char := "(function model)".toList

/-- A reversed text without any number of copies of a reversed ending; `fuel`
bounds the number of copies. -/
def stripCopies (ending : List Char) : Nat → List Char → List Char
  | 0, cs => cs
  | fuel + 1, cs =>
    match stripPrefix? ending cs with
    | some rest => stripCopies ending fuel rest
    | none => cs

/-- The name of the function: trimmed, and without the marks of a function model. -/
def functionName (a : Anchor) : String :=
  let cs := trimChars a.function.toList
  let kept := (stripCopies modelMark.reverse cs.length cs.reverse).reverse
  String.ofList (trimChars kept)

/-- The anchor as a JSON value. -/
def toJson (a : Anchor) : Value :=
  .ofObject [("function", .ofText a.function), ("previous_line", .ofText a.previousLine),
    ("next_line", .ofText a.nextLine)]

end Anchor

/-- A precondition to insert. -/
structure Patch where
  statement : String
  anchor : Anchor
  deriving DecidableEq, Repr

/-- The patch as a JSON value. -/
def Patch.toJson (p : Patch) : Value :=
  .ofObject [("precondition_text", .ofText p.statement), ("anchor", p.anchor.toJson)]

/-- Tokens that an oracle has used, counted in words of 64 bits. -/
structure TokenUsage where
  input : UInt64 := 0
  output : UInt64 := 0
  deriving DecidableEq, Repr

namespace TokenUsage

/-- The sum; it wraps around at 64 bits. -/
def plus (a b : TokenUsage) : TokenUsage := ⟨a.input + b.input, a.output + b.output⟩

instance : Add TokenUsage := ⟨plus⟩

/-- The usage as a JSON value. -/
def toJson (t : TokenUsage) : Value :=
  .ofObject [("input_tokens", .ofNat t.input.toNat), ("output_tokens", .ofNat t.output.toNat)]

/-- The usage that a JSON value describes. -/
def ofJson? (v : Value) : Option TokenUsage := do
  let r ← v.record? ["input_tokens", "output_tokens"]
  let input ← r.required "input_tokens" Value.word?
  let output ← r.required "output_tokens" Value.word?
  return ⟨.ofNat input, .ofNat output⟩

end TokenUsage

/-- Candidates that are applied together as one change. -/
structure Proposal where
  patches : List Patch
  usage : TokenUsage := {}
  deriving DecidableEq, Repr

/-- The statements of a proposal. -/
def Proposal.statements (p : Proposal) : List String := p.patches.map (·.statement)

end HarnessRepair
