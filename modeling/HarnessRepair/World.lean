import HarnessRepair.Files.FileSystem
import HarnessRepair.Log.Event

/-!
# The world of a run

All effects of the program go through one value: the directory it works in, the
events logged so far, and the state of the parties outside, about which the
library knows nothing.

## Main definitions

* `World` — files, events, and the outside.
* `Run` — a computation on the world.
* `tell`, `readText`, `writeText` — logging, reading and writing.
-/

namespace HarnessRepair

/-- What a run can see and change. -/
structure World (ε : Type) where
  files : FileSystem
  /-- Events in the order in which they were told. -/
  events : List LogEvent
  /-- The state of the verifier, the oracle and whoever else is outside. -/
  outside : ε

/-- A computation on the world. -/
abbrev Run (ε : Type) := StateM (World ε)

variable {ε : Type}

/-- Logs an event. -/
def tell (level : LogLevel) (source : LogSource) (message : String)
    (fields : List (String × FieldValue)) : Run ε Unit :=
  modify fun w => { w with events := w.events ++ [⟨level, source, message, fields⟩] }

/-- The text of a file. -/
def readText (path : String) : Run ε (Except IoError String) := do
  return (← get).files.readText path

/-- Runs an operation on the files; when it fails, they stay as they are. -/
def onFiles (op : FileSystem → Except IoError FileSystem) : Run ε (Except IoError Unit) := do
  let w ← get
  match op w.files with
  | .ok files =>
    set { w with files := files }
    return .ok ()
  | .error e => return .error e

/-- Writes a text to a file. -/
def writeText (path text : String) : Run ε (Except IoError Unit) :=
  onFiles fun files => files.write path text

end HarnessRepair
