import HarnessRepair.Files.FileSystem
import HarnessRepair.Text.ByteText

/-!
# Where commands find files

Commands name files by texts of bytes, from the directory they run in or from the root.
Besides the files of the run there are some directories of the system.

## Main definitions

* `runPlace`, `runDirectory` — the directory of the run, and its path.
* `pathIn` — a path as seen from the directory of the run.
* `placeIn?`, `nodeIn?` — what a path leads to.
* `isOutsideDirectory` — the directories that are known elsewhere.
* `logicalPath` — a path from the root without dots in it.
* `reason` — the words for a failed operation.
-/

namespace HarnessRepair.Shell

/-- The directory of the run. -/
def runPlace : Place := ["tmp", "run"]

/-- The path of a place. -/
def pathOf (place : Place) : String := "/" ++ "/".intercalate (place.map Text.spread)

/-- The path of the directory of the run. -/
def runDirectory : String := pathOf runPlace

/-- A path from the root. -/
def wholePath (directory path : String) : String :=
  if Path.isAbsolute path then path
  else if directory = "/" then directory ++ path
  else directory ++ "/" ++ path

/-- A path as seen from the directory of the run; one that leads elsewhere starts at the
root. -/
def pathIn (directory path : String) : String :=
  if path.isEmpty then path
  else
    let whole := Text.gather (wholePath directory path)
    if whole = runDirectory then "."
    else
      match Text.stripPrefix? (runDirectory ++ "/").toList whole.toList with
      | some rest =>
        let inner := rest.dropWhile (· == '/')
        if inner.isEmpty then "." else String.ofList inner
      | none => whole

/-- The place of a path that leads to something. -/
def placeIn? (fs : FileSystem) (directory path : String) : Option Place :=
  fs.place? (pathIn directory path)

/-- What a path leads to. -/
def nodeIn? (fs : FileSystem) (directory path : String) : Option Node :=
  fs.find? (pathIn directory path)

/-- The pieces of a path from the root once its dots are followed. -/
def followDots (pieces : List String) : List String :=
  (pieces.foldl
    (fun done piece =>
      if piece.isEmpty || piece == "." then done
      else if piece == ".." then done.drop 1
      else piece :: done)
    []).reverse

/-- A path from the root without dots in it. -/
def logicalPath (directory path : String) : String :=
  "/" ++ "/".intercalate (followDots (Text.splitOnChar '/' (wholePath directory path)))

/-- Directories that are known outside of that of the run. -/
def outsideDirectories : List String :=
  ["/", "/bin", "/boot", "/dev", "/etc", "/home", "/lib", "/media", "/mnt", "/opt", "/proc",
    "/root", "/run", "/sbin", "/srv", "/sys", "/tmp", "/usr", "/usr/bin", "/usr/games",
    "/usr/include", "/usr/lib", "/usr/local", "/usr/local/bin", "/usr/local/lib",
    "/usr/local/sbin", "/usr/sbin", "/usr/share", "/usr/src", "/var", "/var/lib", "/var/log",
    "/var/tmp"]

/-- Whether a path leads to a directory that is known elsewhere. -/
def isOutsideDirectory (directory path : String) : Bool :=
  !path.isEmpty && outsideDirectories.contains (logicalPath directory path)

/-- Whether a path leads to a directory. -/
def isDirectoryIn (fs : FileSystem) (directory path : String) : Bool :=
  nodeIn? fs directory path == some .dir || isOutsideDirectory directory path

/-- The words for a failed operation. -/
def reason : IoError → String
  | .notFound => "No such file or directory"
  | .notDirectory => "Not a directory"
  | .isDirectory => "Is a directory"
  | .alreadyExists => "File exists"
  | .notText => "Illegal byte sequence"
  | .nameTooLong => "File name too long"
  | .tooManyLinks => "Too many levels of symbolic links"
  | .notPermitted => "Permission denied"
  | .nulInPath | .nulInCommand => "Invalid argument"

end HarnessRepair.Shell
