import HarnessRepair.Files.FileSystem
import HarnessRepair.Text.Numeral
import HarnessRepair.Text.Quoted

/-!
# What can go wrong

A finding is the subject under repair and no error.  Errors are of five kinds:
the verifier gave no verdict, its report cannot be read, the configuration is
wrong, the oracle had nothing usable, or a patch cannot be applied.  Besides these
a sum of line numbers can be too large for a word, and the program stops there.

## Main definitions

* `InfrastructureFailure`, `ParseFailure`, `ConfigurationError`, `OracleFailure`,
  `PatchError` — the kinds, each with its `message`.
* `SessionFailure` — what ends a session.
* `Overflow`, `addWords` — what stops the program.
* `RunFailure` — what keeps a run from its report.
-/

namespace HarnessRepair

/-! ### The verifier -/

/-- Why the verifier gave no verdict. -/
inductive InfrastructureFailure where
  | buildFailed (exitCode : Option Int) (stderrTail : String)
  | timeout (seconds : Nat)
  | spawn (reason : String)
  | io (reason : String)
  deriving DecidableEq, Repr

/-- The words for a missing verdict. -/
def InfrastructureFailure.message : InfrastructureFailure → String
  | .buildFailed code stderrTail =>
    "build failed with exit code " ++ Text.showOption (code.map toString) ++ ": " ++ stderrTail
  | .timeout seconds => "verifier timed out after " ++ toString seconds ++ "s"
  | .spawn reason => "failed to spawn verifier: " ++ reason
  | .io reason => "verifier I/O error: " ++ reason

/-- Why a report cannot be read.  An empty list of findings means verified clean,
so whatever the reader cannot vouch for is one of these. -/
inductive ParseFailure where
  | missingArtifact (artifact : String)
  /-- The artifact is no document of the expected shape. -/
  | undecodable (artifact : String)
  /-- A failed property of the artifact does not say where it lies. -/
  | unlocated (artifact property : String)
  | danglingProperty (property : String)
  deriving DecidableEq, Repr

/-- The words for an unreadable report. -/
def ParseFailure.message : ParseFailure → String
  | .missingArtifact artifact => "report artifact missing: " ++ artifact
  | .undecodable artifact =>
    "malformed " ++ artifact ++ ": the text is not a document of the expected shape"
  | .unlocated artifact property =>
    "malformed " ++ artifact ++ ": property " ++ property ++ " has no usable location"
  | .danglingProperty property =>
    "failed property " ++ property ++ " has no description in the property report"

/-! ### Configuration -/

/-- What is wrong at startup. -/
inductive ConfigurationError where
  | missingCredential (variableName : String)
  | invalidBatch (reason : String)
  | duplicateHarness (path : String)
  | invalid (reason : String)
  deriving DecidableEq, Repr

/-- The words for a problem at startup. -/
def ConfigurationError.message : ConfigurationError → String
  | .missingCredential name =>
    "missing credential: environment variable " ++ name ++ " is not set"
  | .invalidBatch reason => "invalid batch configuration: " ++ reason
  | .duplicateHarness path => "harness " ++ path ++ " is listed more than once"
  | .invalid reason => "invalid configuration: " ++ reason

/-! ### The oracle -/

/-- Why the oracle gave no proposal. -/
inductive OracleFailure where
  | transport (reason : String)
  | status (code : Nat) (body : String)
  | malformed (reason : String)
  | empty
  | timeout (seconds : Nat)
  deriving DecidableEq, Repr

/-- The words for a missing proposal. -/
def OracleFailure.message : OracleFailure → String
  | .transport reason => "oracle transport error: " ++ reason
  | .status code body => "oracle returned status " ++ toString code ++ ": " ++ body
  | .malformed reason => "malformed oracle response: " ++ reason
  | .empty => "oracle proposed no preconditions"
  | .timeout seconds => "oracle call timed out after " ++ toString seconds ++ "s"

/-! ### Patches -/

/-- Why a patch cannot be applied, or a change not be undone. -/
inductive PatchError where
  | functionNotFound (function : String)
  | anchorNotFound (function previous next : String)
  | duplicate (statement : String)
  | inFlight
  | alreadyPatched (count : Nat)
  | staleHandle (id : Nat)
  | lineOutOfRange (line length : Nat)
  | io (error : IoError)
  deriving DecidableEq, Repr

/-- The words for a patch that cannot be applied. -/
def PatchError.message : PatchError → String
  | .functionNotFound f => "function `" ++ f ++ "` not found in harness"
  | .anchorNotFound f p n =>
    "no line in `" ++ f ++ "` matches previous line `" ++ p ++ "` or next line `" ++ n ++ "`"
  | .duplicate s => "statement `" ++ s ++ "` is already present in the function"
  | .inFlight => "a patch is already in flight for this harness"
  | .alreadyPatched n =>
    "harness already carries " ++ toString n ++
      " applied patch(es); lines can only be stripped before patching"
  | .staleHandle id =>
    "snapshot handle " ++ toString id ++ " does not belong to the in-flight change"
  | .lineOutOfRange line len =>
    "line " ++ toString line ++ " is out of range for a " ++ toString len ++ "-line harness"
  | .io e => "harness I/O error: " ++ e.message

/-! ### Words -/

/-- A sum that is no word of 64 bits. -/
inductive Overflow where
  | addition
  deriving DecidableEq, Repr

/-- The words for such a sum. -/
def Overflow.message : Overflow → String
  | .addition => "attempt to add with overflow"

/-- The sum of two words. -/
def addWords (a b : Nat) : Except Overflow Nat :=
  if a + b < Text.wordLimit then .ok (a + b) else .error .addition

/-! ### Sessions -/

/-- What ends a session before its findings are settled. -/
inductive SessionFailure where
  | infrastructure (e : InfrastructureFailure)
  | parse (e : ParseFailure)
  | patch (e : PatchError)
  | overflow (o : Overflow)
  deriving DecidableEq, Repr

/-- The words for the end of a session. -/
def SessionFailure.message : SessionFailure → String
  | .infrastructure e => e.message
  | .parse e => e.message
  | .patch e => e.message
  | .overflow o => o.message

/-- What keeps a run from its report. -/
inductive RunFailure where
  | configuration (e : ConfigurationError)
  /-- A session has stopped the program. -/
  | overflow (o : Overflow)
  deriving DecidableEq, Repr

/-- The words for a missing report. -/
def RunFailure.message : RunFailure → String
  | .configuration e => e.message
  | .overflow o => o.message

end HarnessRepair
