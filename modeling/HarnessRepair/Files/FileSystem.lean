import HarnessRepair.Files.Path
import HarnessRepair.Text.Utf8

/-!
# The file system

Directories, files and links by the names that lead to them from the root, and the directory
that a run works in.  Every file operation is a function of this value: reading answers a text
or an error, writing answers a new file system or an error and then changes nothing.

Some directories are closed to the run: nothing can be made in them and nothing be removed
from them, but the files that they hold can be written over.

## Main definitions

* `Content`, `Node`, `FileSystem` — what there is, by place.
* `IoError` — why an operation fails, and `IoError.message`.
* `FileSystem.walk` — steps along the components of a path, links followed.
* `FileSystem.resolve`, `FileSystem.locate` — the place a path leads to; the second stops at a
  link that stands at the end.
* `readText`, `write`, `append`, `removeFile`, `makeDir`, `createDirAll` — the operations.
-/

namespace HarnessRepair

/-- What a file holds: a text, or bytes that are none. -/
inductive Content where
  | text (s : String)
  | raw (bytes : List UInt8)
  deriving DecidableEq, Repr

namespace Content

/-- The content made of some bytes. -/
def ofBytes (bytes : List UInt8) : Content :=
  match Text.text? bytes with
  | some s => .text s
  | none => .raw bytes

/-- The bytes of a content. -/
def bytes : Content → List UInt8
  | .text s => Text.bytes s
  | .raw b => b

/-- One content behind another. -/
def append : Content → Content → Content
  | .text s, .text t => .text (s ++ t)
  | a, b => ofBytes (a.bytes ++ b.bytes)

/-- The content as a text, ill-formed stretches replaced. -/
def lossy : Content → String
  | .text s => s
  | .raw b => Text.lossyText b

end Content

/-- A file, a directory, or a link. -/
inductive Node where
  | file (content : Content)
  | dir
  /-- The components to follow from the directory in which the link stands. -/
  | link (target : List Path.Component)
  deriving DecidableEq, Repr

/-- Why a file operation fails. -/
inductive IoError where
  | notFound
  | notDirectory
  | isDirectory
  | alreadyExists
  | notText
  | nameTooLong
  | tooManyLinks
  | notPermitted
  /-- A path holds the character that ends paths. -/
  | nulInPath
  /-- A command or an argument holds that character. -/
  | nulInCommand
  deriving DecidableEq, Repr

/-- The words of the operating system for an error. -/
def IoError.message : IoError → String
  | .notFound => "No such file or directory (os error 2)"
  | .notDirectory => "Not a directory (os error 20)"
  | .isDirectory => "Is a directory (os error 21)"
  | .alreadyExists => "File exists (os error 17)"
  | .notText => "stream did not contain valid UTF-8"
  | .nameTooLong => "File name too long (os error 36)"
  | .tooManyLinks => "Too many levels of symbolic links (os error 40)"
  | .notPermitted => "Permission denied (os error 13)"
  | .nulInPath => "file name contained an unexpected NUL byte"
  | .nulInCommand => "nul byte found in provided data"

/-- The names that lead from the root to a file. -/
abbrev Place := List String

/-- Whether a place comes before another. -/
def Place.before : Place → Place → Bool
  | _, [] => false
  | [], _ :: _ => true
  | a :: as, b :: bs => if a = b then Place.before as bs else decide (a < b)

/-- All that there is. -/
structure FileSystem where
  /-- In ascending order of places. -/
  entries : List (Place × Node) := []
  /-- Where paths start that do not start at the root. -/
  workingDir : Place := []
  /-- The directories in which nothing can be made, and from which nothing can be removed. -/
  closed : List Place := []
  deriving DecidableEq, Repr, Inhabited

namespace FileSystem

/-! ### Nodes by place -/

/-- What stands at a place; the root itself is a directory. -/
def node? (fs : FileSystem) (place : Place) : Option Node :=
  if place = [] then some .dir else fs.entries.lookup place

/-- Adds an entry in order, in place of one at the same place. -/
def insertEntry (place : Place) (n : Node) : List (Place × Node) → List (Place × Node)
  | [] => [(place, n)]
  | (p, m) :: rest =>
    if place = p then (place, n) :: rest
    else if Place.before place p then (place, n) :: (p, m) :: rest
    else (p, m) :: insertEntry place n rest

/-- The file system with a node put at a place. -/
def put (fs : FileSystem) (place : Place) (n : Node) : FileSystem :=
  if place = [] then fs else { fs with entries := insertEntry place n fs.entries }

/-- The file system without what stands at a place. -/
def erase (fs : FileSystem) (place : Place) : FileSystem :=
  { fs with entries := fs.entries.filter fun (p, _) => p ≠ place }

/-- The file system without a place and all below it. -/
def eraseTree (fs : FileSystem) (place : Place) : FileSystem :=
  { fs with entries := fs.entries.filter fun (p, _) => !place.isPrefixOf p }

/-- Whether entries of a directory can be made and removed. -/
def isOpen (fs : FileSystem) (dir : Place) : Bool := !fs.closed.contains dir

/-! ### Paths -/

/-- How many bytes a path may have, with the one that ends it. -/
def pathLimit : Nat := 4096

/-- How many bytes a name may have. -/
def nameLimit : Nat := 255

/-- How many links are followed along one path. -/
def linkLimit : Nat := 40

/-- Whether a text holds the character that ends paths. -/
def holdsNul (s : String) : Bool := s.toList.any (·.toNat == 0)

/-- Why a path leads nowhere, whatever there is. -/
def pathFault? (path : String) : Option IoError :=
  if holdsNul path then some .nulInPath
  else if pathLimit ≤ path.utf8ByteSize then some .nameTooLong
  else if path.isEmpty then some .notFound
  else none

/-- Where one component leads from the directory `here`: to a place, where there may be nothing;
or to a link, whose components are then to be followed from that place. -/
def onward (node : Place → Option Node) (here : Place) :
    Path.Component → Except IoError (Place × Option (List Path.Component))
  | .root => .ok ([], none)
  | .here => .ok (here, none)
  | .up => .ok (here.dropLast, none)
  | .name s =>
    if nameLimit < s.utf8ByteSize then .error .nameTooLong
    else
      match node (here ++ [s]) with
      | some (.link target) => .ok (here, some target)
      | _ => .ok (here ++ [s], none)

/-- Where one component leads from a place; only the root is there from everywhere. -/
def step (node : Place → Option Node) (here : Place) (c : Path.Component) :
    Except IoError (Place × Option (List Path.Component)) :=
  if c = .root then onward node here c
  else
    match node here with
    | some .dir => onward node here c
    | some _ => .error .notDirectory
    | none => .error .notFound

/-- Steps along components; from a link on as `follow` does. -/
def walkWith (node : Place → Option Node)
    (follow : Place → List Path.Component → Except IoError Place) :
    Place → List Path.Component → Except IoError Place
  | here, [] => .ok here
  | here, c :: rest =>
    match step node here c with
    | .error e => .error e
    | .ok (place, none) => walkWith node follow place rest
    | .ok (place, some target) => follow place (target ++ rest)

/-- Steps along components past as many links as is said. -/
def walk (node : Place → Option Node) : Nat → Place → List Path.Component → Except IoError Place
  | 0 => walkWith node fun _ _ => .error .tooManyLinks
  | links + 1 => walkWith node (walk node links)

/-- Whether a path asks for a directory by a slash or a dot at its end. -/
def wantsDirectory (path : String) : Bool :=
  match (Text.splitOnChar '/' path).reverse with
  | last :: _ :: _ => last.isEmpty || last == "."
  | _ => false

/-- The place that components lead to from the working directory. -/
def follow (fs : FileSystem) (comps : List Path.Component) : Except IoError Place :=
  walk fs.node? linkLimit fs.workingDir comps

/-- The place that a path leads to; there may be nothing there. -/
def resolve (fs : FileSystem) (path : String) : Except IoError Place :=
  match pathFault? path with
  | some e => .error e
  | none => fs.follow (Path.components path)

/-- The place that a path names; there may be nothing there, or a link. -/
def locate (fs : FileSystem) (path : String) : Except IoError Place :=
  match pathFault? path with
  | some e => .error e
  | none =>
    let comps := Path.components path
    match comps.getLast? with
    | some (.name s) => do
      let dir ← fs.follow comps.dropLast
      let _ ← step fs.node? dir (.name s)
      return dir ++ [s]
    | _ => fs.follow comps

/-- The place of a path that leads to something. -/
def place? (fs : FileSystem) (path : String) : Option Place :=
  match fs.resolve path with
  | .ok place =>
    match fs.node? place with
    | some .dir => some place
    | some _ => if wantsDirectory path then none else some place
    | none => none
  | .error _ => none

/-- What a path leads to. -/
def find? (fs : FileSystem) (path : String) : Option Node :=
  (fs.place? path).bind fs.node?

/-- Whether a path leads to a file. -/
def isFile (fs : FileSystem) (path : String) : Bool :=
  match fs.find? path with
  | some (.file _) => true
  | _ => false

/-- Whether a path leads to a directory. -/
def isDir (fs : FileSystem) (path : String) : Bool :=
  match fs.find? path with
  | some .dir => true
  | _ => false

/-! ### Reading and writing -/

/-- The content of the file at a path. -/
def read (fs : FileSystem) (path : String) : Except IoError Content :=
  match fs.resolve path with
  | .error e => .error e
  | .ok place =>
    match fs.node? place with
    | some (.file c) => if wantsDirectory path then .error .notDirectory else .ok c
    | some .dir => .error .isDirectory
    | some (.link _) => .error .tooManyLinks
    | none => .error .notFound

/-- The text of the file at a path. -/
def readText (fs : FileSystem) (path : String) : Except IoError String :=
  match fs.read path with
  | .ok (.text s) => .ok s
  | .ok (.raw _) => .error .notText
  | .error e => .error e

/-- The place at which a path lets a file be written: a file stands there, or nothing does
and its directory lets one be made. -/
def writable (fs : FileSystem) (path : String) : Except IoError Place :=
  match fs.resolve path with
  | .error e => .error e
  | .ok place =>
    match fs.node? place with
    | some .dir => .error .isDirectory
    | some (.file _) => if wantsDirectory path then .error .notDirectory else .ok place
    | some (.link _) => .error .tooManyLinks
    | none =>
      match fs.node? place.dropLast with
      | some .dir =>
        if wantsDirectory path then .error .isDirectory
        else if fs.isOpen place.dropLast then .ok place
        else .error .notPermitted
      | some _ => .error .notDirectory
      | none => .error .notFound

/-- Writes a file, in place of what it held. -/
def writeContent (fs : FileSystem) (path : String) (c : Content) : Except IoError FileSystem :=
  (fs.writable path).map fun place => fs.put place (.file c)

/-- Writes a text to a file, in place of what it held. -/
def write (fs : FileSystem) (path : String) (s : String) : Except IoError FileSystem :=
  fs.writeContent path (.text s)

/-- Writes behind what a file holds. -/
def append (fs : FileSystem) (path : String) (c : Content) : Except IoError FileSystem :=
  (fs.writable path).map fun place =>
    match fs.node? place with
    | some (.file old) => fs.put place (.file (old.append c))
    | _ => fs.put place (.file c)

/-- Removes a file or a link. -/
def removeFile (fs : FileSystem) (path : String) : Except IoError FileSystem :=
  match fs.locate path with
  | .error e => .error e
  | .ok place =>
    match fs.node? place with
    | some .dir => .error .isDirectory
    | some _ =>
      if wantsDirectory path then .error .notDirectory
      else if fs.isOpen place.dropLast then .ok (fs.erase place)
      else .error .notPermitted
    | none => .error .notFound

/-! ### Directories -/

/-- Makes a directory. -/
def makeDir (fs : FileSystem) (path : String) : Except IoError FileSystem :=
  match fs.locate path with
  | .error e => .error e
  | .ok place =>
    if (fs.node? place).isSome then .error .alreadyExists
    else if fs.isOpen place.dropLast then .ok (fs.put place .dir)
    else .error .notPermitted

/-- Whether it is no failure that a directory could not be made: there is one. -/
def orDir (fs : FileSystem) (path : String) : Except IoError FileSystem → Except IoError FileSystem
  | .ok files => .ok files
  | .error e => if fs.isDir path then .ok fs else .error e

/-- Makes the first of some directories, of which each is followed by the one that it stands
in; those that are missing first. -/
def makeDirs (fs : FileSystem) : List String → Except IoError FileSystem
  | [] => .error .notFound
  | path :: parents =>
    if path.isEmpty then .ok fs
    else
      match fs.makeDir path with
      | .error .notFound =>
        match fs.makeDirs parents with
        | .error e => .error e
        | .ok files => files.orDir path (files.makeDir path)
      | made => fs.orDir path made

/-- Makes a directory and those on the way to it. -/
def createDirAll (fs : FileSystem) (path : String) : Except IoError FileSystem :=
  fs.makeDirs (Path.ancestors path)

/-! ### A run in a directory -/

/-- Nothing but a working directory, and the directories on the way to it. -/
def startingIn (dir : Place) : FileSystem :=
  { entries := (List.range dir.length).map fun n => (dir.take (n + 1), .dir), workingDir := dir }

/-- The files below the working directory, with their paths from there. -/
def files (fs : FileSystem) : List (String × Content) :=
  fs.entries.filterMap fun (place, n) =>
    match n with
    | .file c =>
      if fs.workingDir.isPrefixOf place then
        some ("/".intercalate (place.drop fs.workingDir.length), c)
      else none
    | _ => none

end FileSystem

end HarnessRepair
