import HarnessRepair.Oracle.Advice
import HarnessRepair.Oracle.Request
import HarnessRepair.Patch.Store
import HarnessRepair.Target

/-!
# Building a request

A request shows the harness as it is now, the finding at the line where it now
stands, what the last attempt came to, and the surroundings of a finding that
lies outside the harness.

## Main definitions

* `excerptBounds`, `excerpt` — the surroundings of a line, if there is any.
* `sourceOf?` — the file that a finding lies in.
* `buildRequest` — the request.
-/

namespace HarnessRepair

open Text

/-- How many lines are shown on either side of a line. -/
def excerptRadius : Nat := 12

/-- The first and the last line shown around a line of a file with `count` lines. -/
def excerptBounds (line count : Nat) : Except Overflow (Nat × Nat) := do
  let line := max line 1
  let last ← addWords line excerptRadius
  return (max (line - excerptRadius) 1, min last count)

/-- The lines around a line, under their numbers, if there is any. -/
def excerpt (text : String) (line : Nat) : Except Overflow (Option String) := do
  let all := lines text
  let (first, last) ← excerptBounds line all.length
  if last < first then return none
  return some (numbered ("\n".intercalate ((all.take last).drop (first - 1))) first)

/-- The path under which a reported file exists: as it is, from the root directory
of the project, or from the directory of the harness. -/
def sourceOf? (fs : FileSystem) (target : HarnessTarget) (file : String) : Option String :=
  [file, Path.join target.rootDir file, Path.join target.harnessDir file].find? fs.isFile

/-- The surroundings of a finding outside the harness, if they can be shown. -/
def locationContext (fs : FileSystem) (target : HarnessTarget) (l : Location) :
    Except Overflow (Option String) :=
  if l.isIn target.harnessFile then .ok none
  else
    match sourceOf? fs target l.file with
    | none => .ok none
    | some path =>
      match fs.readText path with
      | .ok text => excerpt text l.line
      | .error _ => .ok none

/-- The location as it reads in the current text of the harness. -/
def shownLocation (target : HarnessTarget) (store : PatchStore) (l : Location) :
    Except Overflow Location :=
  if l.isIn target.harnessFile then
    (store.currentLine l.line).map fun line => { l with line := line }
  else .ok l

/-- The request for the next attempt at a finding. -/
def buildRequest (fs : FileSystem) (target : HarnessTarget) (finding : Finding)
    (store : PatchStore) (record : AttemptRecord) : Except Overflow RepairRequest := do
  let previous := record.history.getLast?
  let shown ← shownLocation target store finding.location
  let context ← locationContext fs target finding.location
  return {
    finding := { finding with location := shown }
    sourceContext := store.numberedSource
    locationContext := context
    trace := finding.trace
    advice := advice finding target.targetFunction
    previousFailure := previous.bind (·.cause)
    previousStatements := (previous.map (·.statements)).getD []
    targetFunction := target.targetFunction
    harnessFile := target.harnessFile
    attempt := AttemptRecord.nextNumber record.history.length }

end HarnessRepair
