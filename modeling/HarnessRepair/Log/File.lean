import HarnessRepair.Log.Filter
import HarnessRepair.Log.Render
import HarnessRepair.World

/-!
# Log files

Besides the terminal, events go as JSON lines to a file.  It is there from the start
of the run, and what it held before is kept.

## Main definitions

* `LogRotation.fileName` — the name of the file.
* `openLog`, `appendLog` — making the file and adding to it.
-/

namespace HarnessRepair

/-- The name of the log file at some time: a new one for every day, for every hour, or
always the same. -/
def LogRotation.fileName (r : LogRotation) (t : Timestamp) : String :=
  let day := Timestamp.padded 4 t.year ++ "-" ++ Timestamp.padded 2 t.month ++ "-" ++
    Timestamp.padded 2 t.day
  match r with
  | .never => "proofmend.log"
  | .daily => "proofmend.log." ++ day
  | .hourly => "proofmend.log." ++ day ++ "-" ++ Timestamp.padded 2 t.hour

variable {ε : Type}

/-- Makes the log file in a directory, and the directory, unless they are there. -/
def openLog (dir : String) (r : LogRotation) (t : Timestamp) :
    Run ε (Except IoError String) := do
  let path := Path.join dir (r.fileName t)
  if let .error e ← onFiles fun fs => fs.createDirAll dir then return .error e
  match ← onFiles fun fs => fs.append path (.text "") with
  | .error e => return .error e
  | .ok () => return .ok path

/-- Adds the lines of some events to a log file, unless it is gone. -/
def appendLog (path : String) (time : Option Timestamp) (events : List LogEvent) :
    Run ε Unit := do
  if (← get).files.isFile path then
    let lines := terminatedLines (events.map (LogFormat.json.line time))
    let _ ← onFiles fun fs => fs.append path (.text lines)

end HarnessRepair
