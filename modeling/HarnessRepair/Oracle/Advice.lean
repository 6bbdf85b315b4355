import HarnessRepair.Finding.Basic

/-!
# Advice

Questions that steer the analysis of one kind of finding.

## Main definitions

* `clusterAdvice` — the questions for a cluster of modeling errors.
* `advice` — the questions for a finding.
-/

namespace HarnessRepair

/-- The question whether the code under test avoids the failing line by itself. -/
def guardQuestion (targetFunction : String) : String :=
  "If the region is too small but the length looks right, does any check in " ++ targetFunction ++
    " keep execution away from the failing line?"

/-- The questions for a modeling error. -/
def clusterAdvice (targetFunction : String) : ErrorCluster → List String
  | .memcpySrc =>
    ["Do the trace values show a NULL or otherwise invalid source pointer?",
      "Is the source region allocated with enough room for the copy length?",
      guardQuestion targetFunction,
      "If the region is large enough, can pointer arithmetic shrink the readable part of the source below the copy length?"]
  | .memcpyDest =>
    ["Do the trace values show a NULL or otherwise invalid destination pointer?",
      "Is the destination region allocated with enough room for the copy length?",
      "If it is too small, is the copy length larger than it needs to be?",
      guardQuestion targetFunction,
      "If the region is large enough, can pointer arithmetic shrink the writable part of the destination below the copy length?"]
  | .memcpyOverlap =>
    ["Are the source and destination both allocated directly by the harness?"]
  | .arithmeticOverflow =>
    ["Which operand in the failing expression drives the overflow, according to the trace values?",
      "If that operand is set up by the harness, which bound keeps the expression in range?",
      "If it is not set up by the harness or a stub, does it come from an undefined function or a global?"]
  | .derefNull =>
    ["Is there already a precondition that should keep this pointer non-NULL?",
      "If so, is the pointer ever assigned the return value of an undefined function?",
      "Otherwise, which other assignment could leave the pointer NULL?"]
  | .derefArrOob =>
    ["Does the trace show an offset larger than the allocated size of the pointer?",
      "If so, does the allocated size have a sensible lower bound?",
      "And does the offset have a sensible upper bound?",
      "If the offset should fit, which arithmetic pushes it past the allocation?"]
  | .derefObjOob =>
    ["Is the object allocated with enough room for the field being read?"]
  | .misc => []

/-- The questions for a finding. -/
def advice (f : Finding) (targetFunction : String) : List String :=
  match f.kind with
  | .coverageGap =>
    ["Which branch condition in " ++ targetFunction ++ " guards the first uncovered line?",
      "Do the harness preconditions make that condition impossible to satisfy?",
      "Can an existing precondition be relaxed, or a missing stub return value be modeled, so that the branch becomes reachable?"]
  | .modelingError => clusterAdvice targetFunction (f.cluster.getD .misc)

end HarnessRepair
