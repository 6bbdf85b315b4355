import HarnessRepair.Shell.Location

/-!
# Tools

The programs that scripts call.  A tool works on its arguments, on what it reads and on
the files; what it writes comes in the order of writing.

## Main definitions

* `Call` — what a tool is given.
* `Bench` — what it works on.
* `Work`, `Tool` — a computation on it.
* `readOptions` — options and operands among arguments.
-/

namespace HarnessRepair.Shell

/-- What a tool is given. -/
structure Call where
  /-- The name that its messages start with. -/
  name : String
  args : List String
  directory : String
  environment : List (String × String) := []

/-- What a tool works on. -/
structure Bench where
  files : FileSystem
  /-- The rights of files that have other than the usual ones. -/
  modes : List (Place × Nat)
  /-- What is left of the input; none if it is a directory. -/
  input : Option (List UInt8)
  /-- The size of the file that the input comes from. -/
  inputSize : Option Nat := none
  /-- What has been written to a descriptor, the last first. -/
  written : List (Nat × List UInt8) := []
  /-- What is written when the tool ends, the last first. -/
  held : List (List UInt8) := []
  status : Nat := 0

/-- A computation of a tool, which may end early. -/
abbrev Work := ReaderT Call (ExceptT Unit (StateM Bench))

/-- A program. -/
abbrev Tool := Work Unit

/-- A text between single quotes. -/
def inQuotes (s : String) : String := "'" ++ s ++ "'"

/-- Whether a name cannot stand in a message without quotes. -/
def needsQuotes (s : String) : Bool :=
  s.isEmpty || s.toList.any (fun c => " \t\n!\"$&'()*;<=>?[\\^\x60|".toList.contains c) ||
    s.toList.head? == some '#' || s.toList.head? == some '~'

/-- A name in a message, between quotes if it needs them. -/
def shownName (s : String) : String := if needsQuotes s then inQuotes s else s

namespace Work

/-- Writes bytes when the tool ends. -/
def print (bs : List UInt8) : Work Unit := modify fun b => { b with held := bs :: b.held }

/-- Writes a text when the tool ends. -/
def printText (s : String) : Work Unit := print (Text.toBytes s)

/-- Writes a line when the tool ends. -/
def printLine (s : String) : Work Unit := printText (s ++ "\n")

/-- Writes bytes at once. -/
def write (bs : List UInt8) : Work Unit :=
  modify fun b => { b with written := (1, bs) :: b.written }

/-- Sets the status of the tool. -/
def fail (status : Nat) : Work Unit := modify fun b => { b with status := status }

/-- Tells of something without the name of the tool in front. -/
def announce (text : String) : Work Unit :=
  modify fun b => { b with written := (2, Text.toBytes (text ++ "\n")) :: b.written }

/-- Tells of something. -/
def complain (text : String) : Work Unit := do
  announce ((← read).name ++ ": " ++ text)

/-- Ends the tool. -/
def stop {α : Type} : Work α := throw ()

/-- Ends the tool with a message and a status. -/
def giveUp {α : Type} (status : Nat) (text : String) : Work α := do
  complain text
  fail status
  stop

/-- Ends the tool with a message that shows where there is help. -/
def misused {α : Type} (status : Nat) (text : String) : Work α := do
  complain text
  announce ("Try '" ++ (← read).name ++ " --help' for more information.")
  fail status
  stop

/-- All that is left of the input. -/
def takeInput : Work (Except IoError (List UInt8)) := do
  let b ← get
  match b.input with
  | some bs =>
    set { b with input := some [] }
    return .ok bs
  | none => return .error .isDirectory

/-- The bytes of the file at a path; a dash stands for the input. -/
def readFile (path : String) : Work (Except IoError (List UInt8)) := do
  if path = "-" ∨ path = "/dev/stdin" then takeInput
  else if path = "/dev/null" then return .ok []
  else if path = "/dev/zero" then return .ok (List.replicate 1048576 0)
  else
    let directory := (← read).directory
    if isOutsideDirectory directory path then return .error .isDirectory
    return ((← get).files.read (pathIn directory path)).map Content.bytes

/-- Writes a file. -/
def writeFile (path : String) (bs : List UInt8) : Work (Except IoError Unit) := do
  if path = "/dev/null" then return .ok ()
  let b ← get
  match b.files.writeContent (pathIn (← read).directory path) (.ofBytes bs) with
  | .ok files =>
    set { b with files := files }
    return .ok ()
  | .error e => return .error e

/-- A path as seen from the directory of the run. -/
def locate (path : String) : Work String := return pathIn (← read).directory path

/-- Changes the files. -/
def setFiles (files : FileSystem) : Work Unit := modify fun b => { b with files := files }

/-- The bytes of the files at some paths, with the paths; what cannot be read is told of.
Without paths it is the input. -/
def readAll (paths : List String) (status : Nat) : Work (List (String × List UInt8)) := do
  let paths := if paths.isEmpty then ["-"] else paths
  let all ← paths.mapM fun path => do
    match ← readFile path with
    | .ok bs => return some (path, bs)
    | .error e =>
      complain (shownName path ++ ": " ++ reason e)
      fail status
      return none
  return all.filterMap id

end Work

/-- What the work of a tool leaves behind. -/
def Tool.run (t : Tool) (c : Call) (b : Bench) : Bench := (ExceptT.run (ReaderT.run t c) b).2

/-! ### Options -/

/-- An option, and the text that comes with it. -/
abbrev Choice := Char × String

/-- The options that a tool knows: the letters that can stand alone, those with which a text
comes, and the letters that long names stand for.  With a letter of both kinds a text can
come directly behind it. -/
structure OptionTable where
  letters : String
  valued : String := ""
  names : List (String × Char) := []

/-- Whether an option can do without a text. -/
def OptionTable.standsAlone (t : OptionTable) (c : Char) : Bool := t.letters.toList.contains c

/-- Whether a text can come with an option. -/
def OptionTable.takesText (t : OptionTable) (c : Char) : Bool := t.valued.toList.contains c

/-- What is wrong with the options of a tool. -/
abbrev OptionFault := String

/-- The options in the letters behind a dash; `next` is the argument behind, and the
answer says whether it has been used. -/
def readLetters (t : OptionTable) (next : Option String) :
    List Char → Except OptionFault (List Choice × Bool)
  | [] => .ok ([], false)
  | c :: rest =>
    if t.standsAlone c && t.takesText c then .ok ([(c, String.ofList rest)], false)
    else if t.takesText c then
      if rest.isEmpty then
        match next with
        | some value => .ok ([(c, value)], true)
        | none => .error ("option requires an argument -- '" ++ String.singleton c ++ "'")
      else .ok ([(c, String.ofList rest)], false)
    else if t.standsAlone c then
      match readLetters t next rest with
      | .ok (more, used) => .ok ((c, "") :: more, used)
      | .error e => .error e
    else .error ("invalid option -- '" ++ String.singleton c ++ "'")

/-- The letter that a long name stands for; the start of one will do if it is that of no other
letter. -/
def OptionTable.letter? (t : OptionTable) (name : String) : Option Char :=
  match t.names.lookup name with
  | some c => some c
  | none =>
    match (t.names.filter fun n => Text.startsWith n.1 name).map (·.2) with
    | c :: others => if others.all (· == c) then some c else none
    | [] => none

/-- The option that a long name writes. -/
def readLongName (t : OptionTable) (next : Option String) (body : List Char) :
    Except OptionFault (List Choice × Bool) :=
  let name := String.ofList (body.takeWhile (· != '='))
  let value := body.drop name.length
  match t.letter? name with
  | none => .error ("unrecognized option '--" ++ String.ofList body ++ "'")
  | some c =>
    if !t.takesText c then
      if value.isEmpty then .ok ([(c, "")], false)
      else .error ("option '--" ++ name ++ "' doesn't allow an argument")
    else if t.standsAlone c then .ok ([(c, String.ofList (value.drop 1))], false)
    else
      match value, next with
      | _ :: v, _ => .ok ([(c, String.ofList v)], false)
      | [], some v => .ok ([(c, v)], true)
      | [], none => .error ("option '--" ++ name ++ "' requires an argument")

/-- The options and the operands among some arguments. -/
def readOptions (t : OptionTable) : List String → Except OptionFault (List Choice × List String)
  | [] => .ok ([], [])
  | arg :: rest =>
    let onward (found : List Choice × Bool) : Except OptionFault (List Choice × List String) :=
      match found with
      | (choices, used) =>
        match rest, used with
        | _ :: more, true => (readOptions t more).map fun r => (choices ++ r.1, r.2)
        | more, _ => (readOptions t more).map fun r => (choices ++ r.1, r.2)
    match arg.toList with
    | ['-', '-'] => .ok ([], rest)
    | '-' :: '-' :: body =>
      match readLongName t rest.head? body with
      | .ok found => onward found
      | .error e => .error e
    | '-' :: c :: more =>
      match readLetters t rest.head? (c :: more) with
      | .ok found => onward found
      | .error e => .error e
    | _ => (readOptions t rest).map fun r => (r.1, arg :: r.2)

namespace Work

/-- The options and the operands of the call. -/
def options (status : Nat) (t : OptionTable) : Work (List Choice × List String) := do
  match readOptions t (← read).args with
  | .ok found => return found
  | .error e => misused status e

/-- The options and the operands of the call, of which there must be some. -/
def optionsAndOperands (status : Nat) (t : OptionTable) : Work (List Choice × List String) := do
  let (choices, operands) ← options status t
  if operands.isEmpty then misused status "missing operand"
  return (choices, operands)

end Work

/-- Whether an option is among some. -/
def isChosen (choices : List Choice) (c : Char) : Bool := choices.any (·.1 == c)

/-- The text of the last option of a kind. -/
def chosen? (choices : List Choice) (c : Char) : Option String := choices.reverse.lookup c

/-! ### Lines -/

/-- The pieces of some bytes that a byte ends, each with that byte. -/
def piecesAt (separator : UInt8) (bs : List UInt8) : List (List UInt8) :=
  let (done, last) := bs.foldl
    (fun (done, piece) b =>
      if b = separator then ((b :: piece).reverse :: done, []) else (done, b :: piece))
    (([], []) : List (List UInt8) × List UInt8)
  (if last.isEmpty then done else last.reverse :: done).reverse

/-- The lines of some bytes, each with its line feed. -/
def byteLines (bs : List UInt8) : List (List UInt8) := piecesAt 10 bs

/-- A line without its line feed. -/
def withoutFeed (line : List UInt8) : List UInt8 :=
  match line.getLast? with
  | some 10 => line.dropLast
  | _ => line

/-- The lines of some bytes as texts, without their line feeds. -/
def textLines (bs : List UInt8) : List String :=
  (byteLines bs).map fun line => Text.ofBytes (withoutFeed line)

end HarnessRepair.Shell
