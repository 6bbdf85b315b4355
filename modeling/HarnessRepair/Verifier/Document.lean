import HarnessRepair.Json.Reader
import HarnessRepair.Json.Record
import HarnessRepair.Verifier.Report

/-!
# The documents of a run

The shapes of the four JSON documents.  Members that are not named here are
skipped, so that minor changes of a document do no harm.

## Main definitions

* `FailedProperties`, `PropertyTable`, `TraceTable`, `CoverageTable` — the contents.
* `readFailed?`, `readProperties?`, `readTraces?`, `readCoverage?` — from texts.
-/

namespace HarnessRepair

open Json Text

/-- A value behind one member of a record with a single field. -/
def wrapped? {α : Type} (name : String) (decode : Value → Option α) (v : Value) : Option α := do
  (← v.record? [name]).required name decode

/-! ### Source positions -/

/-- A line number as it may be written: a number, or a text that should be one. -/
inductive LineText where
  | number (n : Nat)
  | text (s : String)
  deriving DecidableEq, Repr

namespace LineText

/-- The line that is meant. -/
def value? : LineText → Option Nat
  | .number n => some n
  | .text s => unsigned? wordLimit (trim s)

/-- The line that a JSON value writes. -/
def ofJson? (v : Value) : Option LineText :=
  match v.word? with
  | some n => some (.number n)
  | none => v.text?.map .text

end LineText

/-- A position that may be incomplete. -/
structure SourcePosition where
  file : Option String := none
  function : Option String := none
  line : Option LineText := none
  deriving DecidableEq, Repr

namespace SourcePosition

/-- The position that a JSON value describes. -/
def ofJson? (v : Value) : Option SourcePosition := do
  let r ← v.record? ["file", "function", "line"]
  return ⟨← r.optionalOrAbsent "file" Value.text?, ← r.optionalOrAbsent "function" Value.text?,
    ← r.optionalOrAbsent "line" LineText.ofJson?⟩

/-- The location of a position with a file and a readable line. -/
def location? (p : SourcePosition) : Option Location := do
  let file ← p.file
  let line ← (← p.line).value?
  return ⟨file, p.function.getD "", line⟩

end SourcePosition

/-! ### Results -/

/-- The names of the failed properties. -/
abbrev FailedProperties := List String

/-- The failed properties of a result document. -/
def readFailed? (text : String) : Option FailedProperties := do
  let sets (v : Value) : Option FailedProperties := do
    (← v.record? ["false"]).orDefault "false" [] (Value.list? Value.text?)
  wrapped? "viewer-result" (wrapped? "results" sets) (← parse? text)

/-! ### Properties -/

/-- What is known of a property. -/
structure PropertyEntry where
  description : String
  position : Option SourcePosition
  deriving DecidableEq, Repr

/-- Properties by name. -/
abbrev PropertyTable := List (String × PropertyEntry)

/-- The property that a JSON value describes. -/
def PropertyEntry.ofJson? (v : Value) : Option PropertyEntry := do
  let r ← v.record? ["description", "location"]
  return ⟨← r.required "description" Value.text?, ← r.optional "location" SourcePosition.ofJson?⟩

/-- The properties of a property document. -/
def readProperties? (text : String) : Option PropertyTable := do
  let table (v : Value) : Option PropertyTable := do
    (← v.record? ["properties"]).orDefault "properties" []
      (Value.dictionary? PropertyEntry.ofJson?)
  wrapped? "viewer-property" table (← parse? text)

/-! ### Traces -/

/-- The assignment of a trace step. -/
structure Assignment where
  lhs : String
  scope : String
  value : String
  deriving DecidableEq, Repr

/-- One step of a counterexample. -/
structure TraceStep where
  kind : String
  position : SourcePosition
  detail : Option Assignment
  deriving DecidableEq, Repr

/-- Counterexamples by property name. -/
abbrev TraceTable := List (String × List TraceStep)

/-- The assignment that a JSON value describes. -/
def Assignment.ofJson? (v : Value) : Option Assignment := do
  let r ← v.record? ["lhs", "lhs-lexical-scope", "rhs-value"]
  return ⟨← r.orDefault "lhs" "" Value.text?, ← r.orDefault "lhs-lexical-scope" "" Value.text?,
    ← r.orDefault "rhs-value" "" Value.text?⟩

/-- The step that a JSON value describes. -/
def TraceStep.ofJson? (v : Value) : Option TraceStep := do
  let r ← v.record? ["kind", "location", "detail"]
  return ⟨← r.orDefault "kind" "" Value.text?, ← r.orDefault "location" {} SourcePosition.ofJson?,
    ← r.optionalOrAbsent "detail" Assignment.ofJson?⟩

/-- The counterexamples of a trace document. -/
def readTraces? (text : String) : Option TraceTable := do
  let table (v : Value) : Option TraceTable := do
    (← v.record? ["traces"]).orDefault "traces" []
      (Value.dictionary? (Value.list? TraceStep.ofJson?))
  wrapped? "viewer-trace" table (← parse? text)

/-! ### Coverage -/

/-- How many lines of a function were reached, of how many. -/
structure FunctionCounts where
  hit : Nat
  total : Nat
  deriving DecidableEq, Repr

/-- The status of the lines of a function, by line as it is written. -/
abbrev LineStatus := List (String × String)

/-- Statuses and counts by file and function, in ascending order of names. -/
structure CoverageTable where
  lines : List (String × List (String × LineStatus))
  counts : List (String × List (String × FunctionCounts))
  deriving DecidableEq, Repr

/-- The counts that a JSON value describes. -/
def FunctionCounts.ofJson? (v : Value) : Option FunctionCounts := do
  let r ← v.record? ["hit", "total"]
  return ⟨← r.orDefault "hit" 0 Value.word?, ← r.orDefault "total" 0 Value.word?⟩

/-- The table of a coverage document. -/
def readCoverage? (text : String) : Option CoverageTable := do
  let table (v : Value) : Option CoverageTable := do
    let r ← v.record? ["coverage", "function_coverage"]
    let lines ← r.orDefault "coverage" []
      (Value.dictionary? (Value.dictionary? (Value.dictionary? Value.text?)))
    let counts ← r.orDefault "function_coverage" []
      (Value.dictionary? (Value.dictionary? FunctionCounts.ofJson?))
    return ⟨lines, counts⟩
  wrapped? "viewer-coverage" table (← parse? text)

end HarnessRepair
