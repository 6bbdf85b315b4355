import HarnessRepair.Finding.Location
import HarnessRepair.Identity.Uuid
import HarnessRepair.Text.Blank

/-!
# Findings

A finding is what one verifier run complains about: a modeling error or a
coverage gap.  Its identity depends on its kind, its place and what it says, and
not on the run, so a finding can be recognised in a later run.

## Main definitions

* `FindingKind`, `ErrorCluster`, `TraceEntry` — what a finding is made of.
* `ErrorCluster.classify` — the cluster of a modeling error.
* `FindingId`, `identityKey` — identities.
* `Finding.modelingError`, `Finding.coverageGap` — the two constructors.
* `Finding.relocated` — the same finding at another line.
-/

namespace HarnessRepair

open Json Text

/-! ### Kinds and clusters -/

/-- What the verifier is complaining about. -/
inductive FindingKind where
  | modelingError
  | coverageGap
  deriving DecidableEq, Repr, Inhabited

namespace FindingKind

/-- The name of a kind. -/
def name : FindingKind → String
  | .modelingError => "modeling_error"
  | .coverageGap => "coverage_gap"

/-- The kind with a name. -/
def ofName? (s : String) : Option FindingKind :=
  if s = "modeling_error" then some .modelingError
  else if s = "coverage_gap" then some .coverageGap
  else none

end FindingKind

/-- Coarse classes of modeling errors, which decide what advice is given. -/
inductive ErrorCluster where
  | derefNull
  | derefArrOob
  | derefObjOob
  | memcpySrc
  | memcpyDest
  | memcpyOverlap
  | arithmeticOverflow
  | misc
  deriving DecidableEq, Repr, Inhabited

namespace ErrorCluster

/-- The name of a cluster. -/
def name : ErrorCluster → String
  | .derefNull => "deref_null"
  | .derefArrOob => "deref_arr_oob"
  | .derefObjOob => "deref_obj_oob"
  | .memcpySrc => "memcpy_src"
  | .memcpyDest => "memcpy_dest"
  | .memcpyOverlap => "memcpy_overlap"
  | .arithmeticOverflow => "arithmetic_overflow"
  | .misc => "misc"

/-- All clusters. -/
def all : List ErrorCluster :=
  [.derefNull, .derefArrOob, .derefObjOob, .memcpySrc, .memcpyDest, .memcpyOverlap,
    .arithmeticOverflow, .misc]

/-- The cluster with a name. -/
def ofName? (s : String) : Option ErrorCluster := all.find? (·.name == s)

/-- The cluster of an access outside an object, from the expression that makes it. -/
def ofAccess (expression : List Char) : ErrorCluster :=
  if expression.contains '[' then .derefArrOob
  else if occurs ['-', '>'] expression then .derefObjOob
  else .misc

/-- The cluster of a modeling error, from how its message starts. -/
def classify (message : String) : ErrorCluster :=
  let msg := trimStart message
  if startsWith msg "memcpy source region readable" then .memcpySrc
  else if startsWith msg "memcpy destination region writeable" then .memcpyDest
  else if startsWith msg "memcpy src/dst overlap" then .memcpyOverlap
  else if startsWith msg "arithmetic overflow" then .arithmeticOverflow
  else if startsWith msg "dereference failure: pointer NULL" then .derefNull
  else
    match stripPrefix? "dereference failure: pointer outside object bounds in ".toList
        msg.toList with
    | some expression => ofAccess expression
    | none => .misc

end ErrorCluster

/-- The value of a variable in the counterexample. -/
structure TraceEntry where
  /-- The function that assigned it, or `global`. -/
  scope : String
  variableName : String
  value : String
  deriving DecidableEq, Repr

/-! ### Identities -/

/-- The identity of a finding across verifier runs. -/
structure FindingId where
  uuid : Uuid
  deriving DecidableEq, Repr

namespace FindingId

/-- The namespace of finding identities. -/
def space : Uuid := ⟨0x6a0f3c1e8d2b4f7a9e51c4b82d73a190#128⟩

/-- The identity of a key. -/
def ofKey (key : String) : FindingId := ⟨Uuid.ofName space key⟩

/-- The identity in full. -/
def text (id : FindingId) : String := id.uuid.text

/-- The first eight digits, for logs and tables. -/
def short (id : FindingId) : String := String.ofList (id.uuid.digits.take 8)

end FindingId

/-- What a finding says, as far as it belongs to its identity.  A coverage gap may
change its length without becoming another gap. -/
def signature (kind : FindingKind) (message : String) : String :=
  match kind with
  | .modelingError => normalizeBlanks message
  | .coverageGap => "uncovered-block"

/-- The key behind the identity of a finding. -/
def identityKey (kind : FindingKind) (l : Location) (message : String) : String :=
  "|".intercalate [kind.name, l.file, l.function, toString l.line, signature kind message]

/-- The identity of a finding. -/
def identity (kind : FindingKind) (l : Location) (message : String) : FindingId :=
  .ofKey (identityKey kind l message)

/-! ### Findings -/

/-- One modeling error or coverage gap. -/
structure Finding where
  id : FindingId
  kind : FindingKind
  location : Location
  message : String
  cluster : Option ErrorCluster
  /-- What the verifier called it in this run. -/
  property : Option String
  trace : List TraceEntry
  deriving DecidableEq, Repr

namespace Finding

/-- What a coverage gap says. -/
def gapMessage (uncovered line : Nat) : String :=
  toString uncovered ++ " uncovered line(s) starting at line " ++ toString line

/-- A modeling error. -/
def modelingError (l : Location) (message : String) (property : Option String)
    (trace : List TraceEntry) : Finding :=
  { id := identity .modelingError l message
    kind := .modelingError
    location := l
    message := message
    cluster := some (ErrorCluster.classify message)
    property := property
    trace := trace }

/-- A coverage gap of some lines. -/
def coverageGap (l : Location) (uncovered : Nat) : Finding :=
  let message := gapMessage uncovered l.line
  { id := identity .coverageGap l message
    kind := .coverageGap
    location := l
    message := message
    cluster := none
    property := none
    trace := [] }

/-- The length of a coverage gap, as its message gives it. -/
def uncoveredLines? (f : Finding) : Option Nat :=
  match f.kind with
  | .modelingError => none
  | .coverageGap => (words f.message).head?.bind (unsigned? wordLimit)

/-- The same finding observed at another line. -/
def relocated (f : Finding) (line : Nat) : Finding :=
  let location := { f.location with line := line }
  let message :=
    match f.uncoveredLines? with
    | some uncovered => gapMessage uncovered line
    | none => f.message
  { f with
    location := location
    message := message
    id := identity f.kind location message }

/-- The finding as it is shown. -/
def text (f : Finding) : String := f.message ++ " @ " ++ f.location.text

/-- A trace as a JSON value. -/
def traceJson (trace : List TraceEntry) : Value :=
  .array (trace.map fun e =>
    .ofObject [("scope", .ofText e.scope), ("variable", .ofText e.variableName),
      ("value", .ofText e.value)])

/-- The finding as a JSON value. -/
def toJson (f : Finding) : Value :=
  .ofObject [("id", .ofText f.id.text), ("kind", .ofText f.kind.name),
    ("location", f.location.toJson), ("message", .ofText f.message),
    ("cluster", .ofOption (fun c => .ofText c.name) f.cluster),
    ("property", .ofOption .ofText f.property), ("trace", traceJson f.trace)]

end Finding

end HarnessRepair
