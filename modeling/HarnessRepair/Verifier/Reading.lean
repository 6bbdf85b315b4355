import HarnessRepair.Verifier.Document

/-!
# Reading a report

From the documents of a run to its findings.  Whatever cannot be vouched for is
a failure, so that an empty list of findings only ever means verified clean.

## Main definitions

* `modelingErrors` — one finding for each failed property worth repairing.
* `harnessTrace` — the assignments of a counterexample that are shown.
* `missedRuns`, `coverageGaps`, `coverageIndex` — what the coverage says.
* `readReport` — the findings in the order of their places, none twice.
-/

namespace HarnessRepair

open Text

/-! ### Counterexamples -/

/-- A text up to its first double colon. -/
def beforeColons : List Char → List Char
  | [] => []
  | [c] => [c]
  | c :: d :: rest => if c = ':' ∧ d = ':' then [] else c :: beforeColons (d :: rest)

/-- What stands behind the last double colon. -/
def lastScope (cs : List Char) : List Char := (beforeColons cs.reverse).reverse

/-- An object made by the allocator stands for its address. -/
def addressOf (name : String) : String :=
  if startsWith name "dynamic_object" then "&" ++ name else name

/-- Whether a step assigns a variable that is worth showing: at global scope or in
the harness, outside the allocator, and not a helper of the checker. -/
def isShown (harnessFile : String) (step : TraceStep) (detail : Assignment) : Bool :=
  let inHarness := (step.position.file.map fun file => sameFileName file harnessFile).getD false
  step.kind == "variable-assignment" &&
    (step.position.function.isNone || inHarness) &&
    !(step.position.function == some "malloc" || step.position.function == some "memcpy") &&
    !(stripPrefix? "tmp_if_expr".toList (lastScope detail.scope.toList)).isSome &&
    !contains detail.lhs "return_value"

/-- The entry that a step makes, if it is worth showing. -/
def traceStep? (harnessFile : String) (step : TraceStep) : Option TraceEntry :=
  step.detail.bind fun detail =>
    if isShown harnessFile step detail then
      some ⟨step.position.function.getD "global", addressOf detail.lhs,
        addressOf (trim detail.value)⟩
    else none

/-- Adds an entry unless its variable is there already. -/
def addEntry (entries : List TraceEntry) (e : TraceEntry) : List TraceEntry :=
  if entries.any fun f => f.scope == e.scope && f.variableName == e.variableName then entries
  else entries ++ [e]

/-- The assignments of a counterexample that are shown; the first to a variable counts. -/
def harnessTrace (harnessFile : String) (steps : List TraceStep) : List TraceEntry :=
  (steps.filterMap (traceStep? harnessFile)).foldl addEntry []

/-! ### Failed properties -/

/-- How a message about a null pointer starts. -/
def nullDereference : String := "dereference failure: pointer NULL"

/-- A failed property with its place and its trimmed description. -/
structure LocatedProperty where
  name : String
  location : Location
  message : String
  deriving DecidableEq, Repr

/-- The failed properties with their places.  Pointer relations are left out; they
say nothing that a precondition could mend. -/
def locate (properties : PropertyTable) :
    FailedProperties → Except ParseFailure (List LocatedProperty)
  | [] => .ok []
  | name :: rest =>
    match properties.lookup name with
    | none => .error (.danglingProperty name)
    | some entry =>
      if contains entry.description "pointer relation" then locate properties rest
      else
        match entry.position.bind SourcePosition.location? with
        | none => .error (.unlocated Artifact.property.fileName name)
        | some location =>
          match locate properties rest with
          | .error e => .error e
          | .ok located => .ok (⟨name, location, trim entry.description⟩ :: located)

/-- Whether a property adds nothing to a null pointer found at the same place. -/
def isRedundant (located : List LocatedProperty) (p : LocatedProperty) : Bool :=
  startsWith p.message "dereference failure" && !startsWith p.message nullDereference &&
    located.any fun q => q.location == p.location && startsWith q.message nullDereference

/-- The findings of the failed properties. -/
def findingsOf (harnessFile : String) (traces : TraceTable) (located : List LocatedProperty) :
    List Finding :=
  (located.filter fun p => !isRedundant located p).map fun p =>
    .modelingError p.location p.message (some p.name)
      (harnessTrace harnessFile ((traces.lookup p.name).getD []))

/-- The traces of a report; none if it has no such document. -/
def tracesOf (raw : RawReport) : Except ParseFailure TraceTable :=
  match raw.trace with
  | none => .ok []
  | some text =>
    match readTraces? text with
    | some traces => .ok traces
    | none => .error (.undecodable Artifact.trace.fileName)

/-- The modeling errors of a report, given its failed properties. -/
def modelingErrors (harnessFile : String) (failed : FailedProperties) (raw : RawReport) :
    Except ParseFailure (List Finding) :=
  if failed.isEmpty then .ok []
  else
    match raw.property with
    | none => .error (.missingArtifact Artifact.property.fileName)
    | some text =>
      match readProperties? text with
      | none => .error (.undecodable Artifact.property.fileName)
      | some properties => do
        let traces ← tracesOf raw
        let located ← locate properties failed
        return findingsOf harnessFile traces located

/-! ### Coverage -/

/-- Whether a status says that a line was not reached. -/
def isMissed (status : String) : Bool := status == "missed" || status == "miss"

/-- The lines whose number can be read, in ascending order. -/
def sortedLines (lines : LineStatus) : List (Nat × String) :=
  (lines.filterMap fun (line, status) =>
    (unsigned? wordLimit (trim line)).map fun n => (n, status)).mergeSort
      fun a b => a.1 ≤ b.1

/-- The maximal runs of missed lines: the first line and the length of each.  A run
that is under way is given by `run`. -/
def missedRuns : Option (Nat × Nat) → List (Nat × String) → List (Nat × Nat)
  | none, [] => []
  | some run, [] => [run]
  | none, (line, status) :: rest =>
    if isMissed status then missedRuns (some (line, 1)) rest else missedRuns none rest
  | some (start, length), (_, status) :: rest =>
    if isMissed status then missedRuns (some (start, length + 1)) rest
    else (start, length) :: missedRuns none rest

/-- The gaps of one function.  A function that was never entered has none, for
there is nothing to anchor a precondition on. -/
def functionGaps (file function : String) (counts : FunctionCounts) (lines : LineStatus) :
    List Finding :=
  if counts.hit = 0 ∨ counts.total ≤ counts.hit then []
  else
    (missedRuns none (sortedLines lines)).map fun (start, length) =>
      .coverageGap ⟨file, function, start⟩ length

/-- The status of the lines of a function. -/
def linesOf? (t : CoverageTable) (file function : String) : Option LineStatus :=
  (t.lines.lookup file).bind fun functions => functions.lookup function

/-- One gap for each maximal run of missed lines in a partly covered function. -/
def coverageGaps (t : CoverageTable) : List Finding :=
  t.counts.flatMap fun (file, functions) =>
    functions.flatMap fun (function, counts) =>
      match linesOf? t file function with
      | some lines => functionGaps file function counts lines
      | none => []

/-- Which lines were reached. -/
def coverageIndex (t : CoverageTable) : CoverageIndex :=
  t.lines.foldl
    (fun index (file, functions) =>
      functions.foldl
        (fun index (function, lines) =>
          (sortedLines lines).foldl
            (fun index (line, status) => index.insert ⟨file, function, line⟩ (!isMissed status))
            index)
        index)
    {}

/-! ### The report -/

/-- The order of findings: file, line, function, message. -/
def Finding.precedes (a b : Finding) : Bool :=
  if a.location.file ≠ b.location.file then a.location.file < b.location.file
  else if a.location.line ≠ b.location.line then a.location.line < b.location.line
  else if a.location.function ≠ b.location.function then a.location.function < b.location.function
  else a.message ≤ b.message

/-- The findings without later ones of the same identity. -/
def distinctFindings : List Finding → List Finding
  | [] => []
  | f :: rest => f :: (distinctFindings rest).filter fun g => g.id ≠ f.id

/-- The findings in order, none twice. -/
def orderFindings (findings : List Finding) : List Finding :=
  distinctFindings (findings.mergeSort Finding.precedes)

/-- The findings and the coverage of a report. -/
def readReport (harnessFile : String) (raw : RawReport) :
    Except ParseFailure VerifierReport :=
  match raw.result with
  | none => .error (.missingArtifact Artifact.result.fileName)
  | some text =>
    match readFailed? text with
    | none => .error (.undecodable Artifact.result.fileName)
    | some failed => do
      let errors ← modelingErrors harnessFile failed raw
      match raw.coverage with
      | none => return ⟨orderFindings errors, none⟩
      | some text =>
        match readCoverage? text with
        | none => throw (.undecodable Artifact.coverage.fileName)
        | some table =>
          return ⟨orderFindings (errors ++ coverageGaps table), some (coverageIndex table)⟩

variable {ε : Type}

/-- Reads a report and logs how many findings it has. -/
def parseReport (harnessFile : String) (raw : RawReport) :
    Run ε (Except ParseFailure VerifierReport) := do
  let result := readReport harnessFile raw
  if let .ok report := result then
    tell .debug .reportReader "Parsed verifier report"
      [("harness", .shown harnessFile), ("findings", .number report.findings.length)]
  return result

end HarnessRepair
