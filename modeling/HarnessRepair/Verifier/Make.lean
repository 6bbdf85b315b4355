import HarnessRepair.Process.Command
import HarnessRepair.Settings.Basic
import HarnessRepair.Verifier.Report

/-!
# The verifier command

The verifier is a command that runs in the directory of the harness and leaves
its documents in a directory of their own.  Documents of an earlier run are
removed first, so a run that writes nothing cannot pass off an old verdict as
its own.

## Main definitions

* `artifactPath` — where a document is.
* `removeStale`, `readArtifact` — removing and reading a document.
* `makeVerifier` — the verifier.
-/

namespace HarnessRepair

/-- Where the documents of a run are. -/
def reportDir (s : VerifierSettings) (target : HarnessTarget) : String :=
  Path.join target.harnessDir s.reportDir

/-- Where a document of a run is. -/
def artifactPath (s : VerifierSettings) (target : HarnessTarget) (a : Artifact) : String :=
  Path.join (reportDir s target) a.fileName

/-- The failure of an operation on a document. -/
def artifactFailure (path : String) (e : IoError) : InfrastructureFailure :=
  .io (path ++ ": " ++ e.message)

variable {ε : Type}

/-- Removes the file at a path, if there is one. -/
def removeStale (path : String) : Run ε (Except InfrastructureFailure Unit) := do
  match ← onFiles fun fs => fs.removeFile path with
  | .ok () | .error .notFound => return .ok ()
  | .error e => return .error (artifactFailure path e)

/-- Removes the files at some paths, up to the first that cannot be removed. -/
def removeAllStale : List String → Run ε (Except InfrastructureFailure Unit)
  | [] => return .ok ()
  | path :: rest => do
    match ← removeStale path with
    | .error e => return .error e
    | .ok () => removeAllStale rest

/-- The text of the file at a path, if there is one. -/
def readArtifact (fs : FileSystem) (path : String) :
    Except InfrastructureFailure (Option String) :=
  match fs.readText path with
  | .ok text => .ok (some text)
  | .error .notFound => .ok none
  | .error e => .error (artifactFailure path e)

/-- The report of a finished run. -/
def collectReport (fs : FileSystem) (pathOf : Artifact → String) (o : CommandOutcome) :
    Except InfrastructureFailure RawReport := do
  return {
    exitCode := o.exitCode
    stdout := o.stdout
    stderr := o.stderr
    result := ← readArtifact fs (pathOf .result)
    property := ← readArtifact fs (pathOf .property)
    trace := ← readArtifact fs (pathOf .trace)
    coverage := ← readArtifact fs (pathOf .coverage) }

/-- Runs the verifier on a target. -/
def runVerifier (host : ProcessHost) (s : VerifierSettings) (target : HarnessTarget) :
    Run ε (Except InfrastructureFailure RawReport) := do
  let pathOf := artifactPath s target
  if let .error e ← removeAllStale (Artifact.all.map pathOf) then return .error e
  tell .debug .verifier "Running verifier"
    [("harness", .shown target.name), ("command", .shown s.command),
      ("args", .shown (Text.quoteList s.args))]
  let command : Command :=
    { program := s.command, args := s.args, directory := target.harnessDir }
  match ← runBounded host command s.timeoutSeconds with
  | .error e => return .error e
  | .ok outcome =>
    if outcome.isSuccess then return collectReport (← get).files pathOf outcome
    let failure := outcome.buildFailure
    tell .warn .verifier "Verifier build failed"
      [("harness", .shown target.name), ("error", .shown failure.message)]
    return .error failure

/-- The verifier that runs a command. -/
def makeVerifier (host : ProcessHost) (s : VerifierSettings) : Verifier ε where
  name := "make"
  run := runVerifier host s

end HarnessRepair
