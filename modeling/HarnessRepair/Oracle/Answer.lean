import HarnessRepair.Failure
import HarnessRepair.Json.Reader
import HarnessRepair.Json.Record
import HarnessRepair.Patch.Basic

/-!
# Answers in prose

An oracle that writes prose answers with one JSON object somewhere in it: in a
fenced block, or else between the first opening and the last closing brace.

## Main definitions

* `fencedJson?`, `outerObject?` — where the object is.
* `readPreconditions?` — what it says.
* `extractPatches` — the patches of an answer.
-/

namespace HarnessRepair

open Json Text

/-- The mark that closes a block, and opens one when `json` follows. -/
def fence : List Char := "```".toList

/-- The text of the first block marked as JSON, if it is closed. -/
def fencedJson? (cs : List Char) : Option (List Char) := do
  let (_, behind) ← splitAtFirst? (fence ++ "json".toList) cs
  let (inside, _) ← splitAtFirst? fence behind
  return trimChars inside

/-- The text up to the last closing brace, that brace included. -/
def uptoLastBrace (cs : List Char) : List Char :=
  (cs.reverse.dropWhile (· != '\x7d')).reverse

/-- The text from the first opening to the last closing brace, if they stand in
this order. -/
def outerObject? (cs : List Char) : Option (List Char) :=
  let inside := uptoLastBrace (cs.dropWhile (· != '\x7b'))
  if inside.isEmpty then none else some inside

/-- One precondition of an answer. -/
def readPrecondition? (v : Value) : Option Patch := do
  let r ← v.record? ["function", "precondition", "previous_line", "next_line"]
  let function ← r.required "function" Value.text?
  let statement ← r.required "precondition" Value.text?
  let previousLine ← r.orDefault "previous_line" "" Value.text?
  let nextLine ← r.orDefault "next_line" "" Value.text?
  return ⟨statement, ⟨function, previousLine, nextLine⟩⟩

/-- The preconditions that an object lists. -/
def readPreconditions? (text : String) : Option (List Patch) := do
  (← (← parse? text).record? ["preconditions"]).orDefault "preconditions" []
    (Value.list? readPrecondition?)

/-- The patch with its statement trimmed, unless that is blank. -/
def usable? (p : Patch) : Option Patch :=
  if isBlankText p.statement then none else some { p with statement := trim p.statement }

/-- What is said of an answer whose object cannot be decoded. -/
def undecodableAnswer : String := "<json error>"

/-- The patches of an answer. -/
def extractPatches (answer : String) : Except OracleFailure (List Patch) :=
  let cs := answer.toList
  match (fencedJson? cs).or (outerObject? cs) with
  | none => .error (.malformed "no JSON object in response")
  | some object =>
    match readPreconditions? (String.ofList object) with
    | none => .error (.malformed undecodableAnswer)
    | some preconditions =>
      match preconditions.filterMap usable? with
      | [] => .error .empty
      | patches => .ok patches

end HarnessRepair
