import HarnessRepair.Oracle.Answer
import HarnessRepair.Oracle.Script
import HarnessRepair.Rehearsal.Described

/-!
# Described oracles

The script of an oracle as a rehearsal describes it: a list of answers, or one
answer that never changes.

## Main definitions

* `OracleFailure.ofDescription?`, `ScriptAnswer.ofDescription?`,
  `Script.ofDescription?` — what is described.
-/

namespace HarnessRepair

open Json

/-- The described failure of an oracle. -/
def OracleFailure.ofDescription? (v : Value) : Option OracleFailure := do
  match ← v.field? "kind" Value.text? with
  | "Transport" => return .transport (← v.field? "text" Value.text?)
  | "Status" =>
    return .status (← v.field? "status" (Value.nat? 65536)) (← v.field? "body" Value.text?)
  | "Malformed" => return .malformed (← v.field? "text" Value.text?)
  | "Timeout" => return .timeout (← v.field? "secs" Value.word?)
  | "Empty" => return .empty
  | _ => none

/-- What comes of an answer in prose. -/
def ScriptAnswer.ofProse (text : String) (usage : TokenUsage) : ScriptAnswer :=
  match extractPatches text with
  | .ok patches => .proposal ⟨patches, usage⟩
  | .error e => .failure e

/-- The described answer. -/
def ScriptAnswer.ofDescription? (v : Value) : Option ScriptAnswer := do
  let usage ← v.fieldOr? "usage" {} TokenUsage.ofDescription?
  match v.given? "fail", v.given? "stall", v.given? "text" with
  | some e, _, _ => return .failure (← OracleFailure.ofDescription? e)
  | none, some (.bool true), _ => return .silence
  | none, _, some text => return .ofProse (← text.text?) usage
  | none, _, none =>
    return .proposal ⟨← v.field? "patches" (Value.list? Patch.ofDescription?), usage⟩

/-- The described script. -/
def Script.ofDescription? (v : Value) : Option Script := do
  match v with
  | .array items => return .ofAnswers (← items.mapM ScriptAnswer.ofDescription?)
  | v =>
    match v.given? "always", v.given? "failing" with
    | some a, _ =>
      return .always (← a.field? "function" Value.text?) (← a.field? "text" Value.text?)
        (← a.field? "previous_line" Value.text?)
    | none, some e => return .failing (← OracleFailure.ofDescription? e)
    | none, none => none

end HarnessRepair
