import HarnessRepair.Oracle.Request

/-!
# Prompts

The request as a text for an oracle that reads prose.

## Main definitions

* `systemPrompt` — what the oracle is told once.
* `describeCause` — a failed attempt in words.
* `renderPrompt` — one request.
-/

namespace HarnessRepair

/-- What the oracle is told once. -/
def systemPrompt : String :=
  "You repair CBMC proof harnesses. A harness drives a bounded model checker " ++
  "against one C function. You are shown a modeling error or a coverage gap " ++
  "reported for the harness, and you answer with __CPROVER_assume preconditions " ++
  "to insert into the harness (or its function models) so that the report goes " ++
  "away without hiding real bugs in the function under test.\n\n" ++
  "Answer with a single JSON object and nothing else:\n" ++
  "\x7b\"preconditions\": [\x7b\"function\": \"<function to insert into>\", " ++
  "\"precondition\": \"<one C statement>\", " ++
  "\"previous_line\": \"<existing line right before the insertion point>\", " ++
  "\"next_line\": \"<existing line right after the insertion point>\"\x7d]\x7d"

/-- Why an attempt failed, in words. -/
def describeCause : FailureCause → String
  | .oracleFailed reason => "no usable answer (" ++ reason ++ ")"
  | .patchRejected reason => "it could not be inserted (" ++ reason ++ ")"
  | .verifierFailed reason => "the harness no longer builds (" ++ reason ++ ")"
  | .preconditionIntroducedFindings statements =>
    "these statements caused new errors: " ++ "; ".intercalate statements
  | .targetUnreachable => "the error went away only because its line is no longer reached"
  | .notResolved => "the finding is still reported"

/-- The heading for a kind of finding. -/
def kindHeading : FindingKind → String
  | .modelingError => "Modeling error"
  | .coverageGap => "Coverage gap"

/-- Questions under running numbers from `n`. -/
def numberedQuestions : Nat → List String → String
  | _, [] => ""
  | n, q :: qs => "  " ++ toString n ++ ". " ++ q ++ "\n" ++ numberedQuestions (n + 1) qs

/-- The values at the point of failure. -/
def traceSection : List TraceEntry → String
  | [] => ""
  | entries =>
    "Variable values at the point of failure:\n" ++
      String.join (entries.map fun e =>
        "  [" ++ e.scope ++ "] " ++ e.variableName ++ " = " ++ e.value ++ "\n") ++ "\n"

/-- The questions to work through. -/
def adviceSection : List String → String
  | [] => ""
  | questions => "Work through these questions:\n" ++ numberedQuestions 1 questions ++ "\n"

/-- What became of the attempt before. -/
def failureSection (cause : Option FailureCause) (statements : List String) : String :=
  match cause with
  | none => ""
  | some c =>
    "Your previous proposal failed: " ++ describeCause c ++ "\n" ++
      String.join (statements.map fun s => "  tried: " ++ s ++ "\n") ++
      "Propose something different.\n\n"

/-- The surroundings of a finding outside the harness. -/
def excerptSection : Option String → String
  | none => ""
  | some excerpt => "Source around the finding:\n```c\n" ++ excerpt ++ "```\n\n"

/-- The request in prose. -/
def renderPrompt (r : RepairRequest) : String :=
  "Target function: " ++ r.targetFunction ++ "\n" ++
  "Harness file: " ++ r.harnessFile ++ "\n" ++
  "Attempt: " ++ toString r.attempt ++ "\n\n" ++
  kindHeading r.finding.kind ++ " at " ++ r.finding.location.text ++ ":\n  " ++
    r.finding.message ++ "\n\n" ++
  traceSection r.trace ++ adviceSection r.advice ++
  failureSection r.previousFailure r.previousStatements ++
  "Harness source:\n```c\n" ++ r.sourceContext ++ "```\n\n" ++
  excerptSection r.locationContext

end HarnessRepair
