import HarnessRepair.Json.Printer
import HarnessRepair.Rehearsal.Described
import HarnessRepair.Text.Lines
import HarnessRepair.Verifier.Report

/-!
# Described verifiers

The verifier of a rehearsal looks at the text of the harness.  Cases answer for
texts that hold or lack some words; without a matching case, the documents are
made from rules, each of which is a property that fails until some words appear,
and from lines that are covered or missed.

## Main definitions

* `VerifierCase`, `FailureRule`, `CoverageRule`, `VerifierScript` — the description.
* `VerifierScript.reportOn` — the documents made from the rules.
* `VerifierScript.answer` — what the verifier has to say to a text.
-/

namespace HarnessRepair

open Json

/-! ### Descriptions -/

/-- The described failure of a run. -/
def InfrastructureFailure.ofDescription? (v : Value) : Option InfrastructureFailure := do
  match ← v.field? "kind" Value.text? with
  | "BuildFailed" =>
    return .buildFailed (← v.optionalField? "exit_code" Value.int32?)
      (← v.fieldOr? "stderr_tail" "" Value.text?)
  | "Timeout" => return .timeout (← v.field? "secs" Value.word?)
  | "Spawn" => return .spawn (← v.field? "text" Value.text?)
  | "Io" => return .io (← v.field? "text" Value.text?)
  | _ => none

/-- The described documents of a run, each read by `artifact?`. -/
def RawReport.ofDescription? (artifact? : Value → Option String) (v : Value) :
    Option RawReport := do
  return {
    exitCode := some 0
    result := ← v.optionalField? "result" artifact?
    property := ← v.optionalField? "property" artifact?
    trace := ← v.optionalField? "trace" artifact?
    coverage := ← v.optionalField? "coverage" artifact? }

/-- The text of a document: as it is, or a JSON value written out. -/
def artifactText? : Value → Option String
  | .string s => s
  | v => some v.render

/-- An answer for some texts and runs. -/
structure VerifierCase where
  /-- Words that the text must hold. -/
  present : List String
  /-- Words that the text must not hold. -/
  absent : List String
  /-- The runs it is for, counted from one; all if not given. -/
  runs : Option (List Nat)
  result : Except InfrastructureFailure RawReport

namespace VerifierCase

/-- The described case. -/
def ofDescription? (v : Value) : Option VerifierCase := do
  let result ← match v.given? "failure" with
    | some f => (InfrastructureFailure.ofDescription? f).map Except.error
    | none => (v.field? "report" (RawReport.ofDescription? artifactText?)).map Except.ok
  return ⟨← v.fieldOr? "contains" [] Value.texts?, ← v.fieldOr? "lacks" [] Value.texts?,
    ← v.optionalField? "runs" (Value.list? Value.word?), result⟩

/-- Whether the case is for a run and the text it sees. -/
def applies (c : VerifierCase) (run : Nat) (text : String) : Bool :=
  c.present.all (Text.contains text ·) && c.absent.all (fun s => !Text.contains text s) &&
    (c.runs.map fun ns => ns.contains run).getD true

end VerifierCase

/-- A line, by its number or by what stands in it. -/
inductive LineMark where
  | number (n : Nat)
  | holding (words : String)
  deriving DecidableEq, Repr

namespace LineMark

/-- The described line. -/
def ofDescription? (v : Value) : Option LineMark :=
  match v.given? "at" with
  | some words => words.text?.map .holding
  | none => (v.field? "line" Value.word?).map .number

/-- The number of the line in a text; none if no line holds the words. -/
def find? (text : String) : LineMark → Option Nat
  | .number n => some n
  | .holding words => ((Text.lines text).findIdx? (Text.contains · words)).map (· + 1)

end LineMark

/-- A property that fails until some words appear, or once some appear. -/
structure FailureRule where
  property : String
  file : Option String
  function : String
  line : LineMark
  description : String
  fixedBy : Option String
  triggeredBy : Option String
  /-- The entry of a failing property in the trace document. -/
  trace : Option Value

namespace FailureRule

/-- The described rule. -/
def ofDescription? (v : Value) : Option FailureRule := do
  return {
    property := ← v.field? "property" Value.text?
    file := ← v.optionalField? "file" Value.text?
    function := ← v.field? "function" Value.text?
    line := ← LineMark.ofDescription? v
    description := ← v.field? "description" Value.text?
    fixedBy := ← v.optionalField? "fixed_by" Value.text?
    triggeredBy := ← v.optionalField? "triggered_by" Value.text?
    trace := v.given? "trace" }

/-- Whether the property fails for a text. -/
def fails (r : FailureRule) (text : String) : Bool :=
  !(r.fixedBy.any (Text.contains text ·)) &&
    (r.triggeredBy.map (Text.contains text ·)).getD true

end FailureRule

/-- A line that is reached or not, depending on the words in the text. -/
structure CoverageRule where
  file : Option String
  function : String
  line : LineMark
  missed : Bool
  missedUntil : Option String
  missedAfter : Option String

namespace CoverageRule

/-- The described rule. -/
def ofDescription? (v : Value) : Option CoverageRule := do
  return {
    file := ← v.optionalField? "file" Value.text?
    function := ← v.fieldOr? "function" "f" Value.text?
    line := ← LineMark.ofDescription? v
    missed := ← v.fieldOr? "missed" false Value.bool?
    missedUntil := ← v.optionalField? "missed_until" Value.text?
    missedAfter := ← v.optionalField? "missed_after" Value.text? }

/-- Whether the line is missed for a text. -/
def isMissed (r : CoverageRule) (text : String) : Bool :=
  r.missed || (r.missedUntil.any fun s => !Text.contains text s) ||
    (r.missedAfter.any (Text.contains text ·))

end CoverageRule

/-- All that is described of a verifier. -/
structure VerifierScript where
  cases : List VerifierCase
  rules : List FailureRule
  coverage : List CoverageRule

/-- The described verifier. -/
def VerifierScript.ofDescription? (v : Value) : Option VerifierScript := do
  return ⟨← v.fieldOr? "cases" [] (Value.list? VerifierCase.ofDescription?),
    ← v.fieldOr? "rules" [] (Value.list? FailureRule.ofDescription?),
    ← v.fieldOr? "coverage" [] (Value.list? CoverageRule.ofDescription?)⟩

/-! ### Documents -/

/-- A coverage rule at the place it speaks of. -/
structure CoveredLine where
  file : String
  function : String
  line : Nat
  missed : Bool
  deriving DecidableEq, Repr

/-- A document with one part, in the two layers in which the verifier wraps it. -/
def wrappedDocument (outer : String) (parts : List (String × Value)) : String :=
  (Value.ofObject [(outer, .ofObject parts)]).render

/-- An entry for each pair of a file and a function. -/
def byFunction (lines : List CoveredLine) (entry : List CoveredLine → Value) : Value :=
  let files := (lines.map (·.file)).eraseDups
  .ofObject (files.map fun file =>
    let mine := lines.filter (·.file == file)
    (file, .ofObject ((mine.map (·.function)).eraseDups.map fun function =>
      (function, entry (mine.filter (·.function == function))))))

/-- The statuses of the lines of a function; the last of a line counts. -/
def statusEntries (lines : List CoveredLine) : Value :=
  .ofObject (lines.map fun l => (toString l.line, .ofText (if l.missed then "missed" else "hit")))

/-- How many lines of a function were reached. -/
def countEntries (lines : List CoveredLine) : Value :=
  .ofObject [("hit", .ofNat (lines.filter fun l => !l.missed).length),
    ("total", .ofNat lines.length)]

namespace VerifierScript

/-- The property document of some rules with their lines. -/
def propertyDocument (harnessFile : String) (rules : List (FailureRule × Nat)) : String :=
  wrappedDocument "viewer-property"
    [("properties", .ofObject (rules.map fun (r, n) =>
      (r.property, .ofObject [("description", .ofText r.description),
        ("location", .ofObject [("file", .ofText (r.file.getD harnessFile)),
          ("function", .ofText r.function), ("line", .ofNat n)])])))]

/-- The trace document of some failing rules, if one of them has a trace. -/
def traceDocument? (failing : List FailureRule) : Option String :=
  match failing.filterMap fun r => r.trace.map fun t => (r.property, t) with
  | [] => none
  | traces => some (wrappedDocument "viewer-trace" [("traces", .ofObject traces)])

/-- The coverage document of some lines, if there are any. -/
def coverageDocument? (lines : List CoveredLine) : Option String :=
  if lines.isEmpty then none
  else some (wrappedDocument "viewer-coverage"
    [("coverage", byFunction lines statusEntries),
      ("function_coverage", byFunction lines countEntries)])

/-- The documents that the rules make of a text. -/
def reportOn (s : VerifierScript) (harnessFile text : String) : RawReport :=
  let rules := s.rules.filterMap fun r => (r.line.find? text).map fun n => (r, n)
  let failing := (rules.map (·.1)).filter (·.fails text)
  let lines := s.coverage.filterMap fun r =>
    (r.line.find? text).map fun n =>
      CoveredLine.mk (r.file.getD harnessFile) r.function n (r.isMissed text)
  { exitCode := some 0
    result := some (wrappedDocument "viewer-result"
      [("results", .ofObject [("false", .ofTexts (failing.map (·.property)))])])
    property := some (propertyDocument harnessFile rules)
    trace := traceDocument? failing
    coverage := coverageDocument? lines }

/-- What the verifier has to say to a text that a run sees. -/
def answer (s : VerifierScript) (run : Nat) (harnessFile text : String) :
    Except InfrastructureFailure RawReport :=
  match s.cases.find? (·.applies run text) with
  | some c => c.result
  | none => .ok (s.reportOn harnessFile text)

end VerifierScript

end HarnessRepair
