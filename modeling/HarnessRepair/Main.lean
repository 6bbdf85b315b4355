import HarnessRepair.CommandLine.Program
import HarnessRepair.Shell.Host
import Std.Time.DateTime.Timestamp

/-!
# The executable

Runs the program on the files below the working directory.  They are read before the
run and those that have changed are written after it; commands run in the shell of this
library, and nothing is sent over a network.

## Main definitions

* `environment`, `readFiles`, `writeFiles`, `currentTime` — the surroundings.
* `main` — the program.
-/

namespace HarnessRepair.Executable

open CommandLine

/-- The variables of the process: entries that end with a zero character, a name and a
value with an equality sign between them. -/
def environment : IO Environment := do
  let bytes ← IO.FS.readBinFile "/proc/self/environ"
  let entries := Text.splitOnChar '\x00' (Text.lossyText bytes.toList)
  return entries.filterMap fun entry =>
    match splitAtEquals entry.toList with
    | (name, some value) => some (name, value)
    | (_, none) => none

/-- Adds the files below a directory. -/
partial def readFiles (dir : String) (fs : FileSystem) : IO FileSystem := do
  let mut fs := fs
  for entry in ← (← IO.FS.realPath (if dir.isEmpty then "." else dir)).readDir do
    let path := Path.join dir entry.fileName
    if ← entry.path.isDir then
      fs ← readFiles path ((fs.createDirAll path).toOption.getD fs)
    else
      let bytes ← IO.FS.readBinFile path
      fs := (fs.writeContent path (.ofBytes bytes.toList)).toOption.getD fs
  return fs

/-- Makes the directory of a changed file, and writes it. -/
def writeFile (path : String) (c : Content) : IO Unit := do
  if let some dir := Path.parent? path then
    if !dir.isEmpty then IO.FS.createDirAll dir
  IO.FS.writeBinFile path ⟨c.bytes.toArray⟩

/-- Writes what has changed, and removes what is gone. -/
def writeFiles (before after : FileSystem) : IO Unit := do
  for (path, c) in after.files do
    if before.files.lookup path != some c then writeFile path c
  for (path, _) in before.files do
    if (after.files.lookup path).isNone then IO.FS.removeFile path

/-- The time of the clock. -/
def currentTime : IO Timestamp := do
  let t ← Std.Time.Timestamp.now
  let nanos := t.toNanosecondsSinceUnixEpoch.val.toNat
  return .ofSeconds (nanos / 1000000000) (nanos % 1000000000)

end HarnessRepair.Executable

open HarnessRepair CommandLine Executable in
/-- Runs the program with some arguments. -/
def main (args : List String) : IO UInt32 := do
  let env ← environment
  let fs ← readFiles "" (.startingIn Shell.runPlace)
  let surroundings : Surroundings Unit :=
    { environment := env
      processes := Shell.shellHost env
      remote := offline
      clock := some (← currentTime) }
  let (ending, w) := (runLogged surroundings args).run { files := fs, events := [], outside := () }
  writeFiles fs w.files
  IO.print ending.output
  IO.eprint ending.errors
  return ending.status.toUInt32
