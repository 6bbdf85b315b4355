import HarnessRepair.Shell.Builtin.Variable
import HarnessRepair.Shell.Format
import HarnessRepair.Shell.Tool.Table

/-!
# Commands for the surroundings of a shell

## Main definitions

* `echoWords`, `printFormatted`, `testCondition` — texts and conditions.
* `changeDirectory`, `setMask` — where and how files are made.
* `Meaning`, `Program`, `findProgram` — what a name stands for.
* `setTraps` — commands for signals.
* `leave`, `leaveFunction`, `leaveLoop` — ends.
-/

namespace HarnessRepair.Shell

open Shell.Action

/-! ### Texts and conditions -/

/-- Writes its arguments. -/
def echoWords : Builtin := fun args => do
  say (echoText args)
  return 0

/-- Writes arguments by a format. -/
def printFormatted : Builtin := fun args => do
  match ← plainArguments args with
  | [] => raise "usage: printf format [arg ...]"
  | format :: rest =>
    let p := printf format rest
    p.warnings.forM warn
    say (String.ofList p.output)
    if let some text := p.fault then raise text
    return if p.warnings.isEmpty then 0 else 1

/-- What can be asked of the files of the shell. -/
def fileQuestions : Action FileQuestion := do
  let s ← get
  return questionsAt s.machine.files s.machine.modes s.process.directory

/-- Decides a condition. -/
def testCondition : Builtin := fun args => do
  match holds (← fileQuestions) args with
  | .ok b => return if b then 0 else 1
  | .error e => raise e.message

/-- Decides a condition in front of a bracket. -/
def testInBrackets : Builtin := fun args => do
  if args.getLast? ≠ some "]" then raise "missing ]"
  testCondition args.dropLast

/-! ### Directories and files -/

/-- Whether a path starts at the root, or at the directory at hand with dots. -/
def isAnchored (path : String) : Bool :=
  match Text.splitOnChar '/' path with
  | first :: rest => first == "." || first == ".." || (first.isEmpty && !rest.isEmpty)
  | [] => false

/-- The path of a directory that is looked for in the directories that a variable lists, and
whether it was found in one of them that is named. -/
def listedDirectory (s : State) (target : String) : String × Bool :=
  let p := s.process
  let target := if target.isEmpty then "." else target
  let whole (d : String) : String :=
    logicalPath p.directory (if d.isEmpty then target else d ++ "/" ++ target)
  let listed := match p.get? "CDPATH" with
    | some list => if isAnchored target then [] else Text.splitOnChar ':' list
    | none => []
  match listed.find? fun d => isDirectoryIn s.machine.files "/" (whole d) with
  | some d => (whole d, !d.isEmpty)
  | none => (whole "", false)

/-- Goes to another directory. -/
def changeDirectory : Builtin := fun args => do
  let (_, operands) ← flags "LP" "" args
  let p ← process
  let target := match operands with
    | [] => (p.get? "HOME").getD ""
    | s :: _ => s
  let (target, goesBack) :=
    if target = "-" then ((p.get? "OLDPWD").getD "", true) else (target, false)
  let (path, named) := listedDirectory (← get) target
  let shows := goesBack || named
  if !isDirectoryIn (← get).machine.files "/" path then raise ("can't cd to " ++ target)
  onProcess fun p =>
    let old := p.directory
    let mark (name : String) (p : Process) : Process :=
      p.putVariable name { (p.entry? name).getD ⟨none, false, false⟩ with exported := true }
    let p := mark "OLDPWD" (p.set "OLDPWD" old)
    { mark "PWD" (p.set "PWD" path) with
      directory := path
      remembered := p.remembered.map fun r => (r.1, true) }
  if shows then sayLine path
  return 0

/-- Writes the directory of the shell. -/
def sayDirectory : Builtin := fun args => do
  discard (flags "LP" "" args)
  sayLine (← process).directory
  return 0

/-- The letters of some rights. -/
def rightsText (n : Nat) : String :=
  String.ofList ([(4, 'r'), (2, 'w'), (1, 'x')].filterMap fun (bit, c) =>
    if Nat.land n bit = 0 then none else some c)

/-- Shows or sets which rights new files do not have. -/
def setMask : Builtin := fun args => do
  let (choices, operands) ← flags "S" "" args
  let mask := (← process).fileMask
  match operands with
  | [] =>
    if choices.isEmpty then
      let ds := Nat.toDigits 8 mask
      sayLine (String.ofList (List.replicate (4 - ds.length) '0' ++ ds))
    else
      let rights := 0o777 - mask
      sayLine ("u=" ++ rightsText (rights / 64) ++ ",g=" ++ rightsText (rights / 8 % 8) ++ ",o=" ++
        rightsText (rights % 8))
  | s :: _ =>
    if (s.toList.head?).any Char.isDigit then
      if !s.toList.all (fun c => '0' ≤ c && c ≤ '7') then raise ("Illegal number: " ++ s)
      let n := s.toList.foldl (fun n c => n * 8 + (c.toNat - 48)) 0
      onProcess fun p => { p with fileMask := n % 512 }
    else
      match modeOf? 0 (0o777 - mask) s with
      | some n => onProcess fun p => { p with fileMask := 0o777 - n % 512 }
      | none => raise ("Illegal mode: " ++ s)
  return 0

/-- Shows limits; setting one does nothing. -/
def setLimits : Builtin := fun args => do
  let (_, operands) ← flags "HSatfdscmlpnvwr" "" args
  if operands.isEmpty then sayLine "unlimited"
  return 0

/-- Writes the time that has been used. -/
def sayTimes : Builtin := fun _ => do
  say "0m0.000000s 0m0.000000s\n0m0.000000s 0m0.000000s\n"
  return 0

/-! ### Names of commands -/

/-- What can be run. -/
inductive Program where
  /-- A program of the system, by its name and its path. -/
  | system (name path : String)
  /-- A file with a script in it. -/
  | script (path : String) (place : Place)
  deriving DecidableEq, Repr

/-- Why there is no program. -/
inductive ProgramFault where
  | notFound
  | notPermitted
  deriving DecidableEq, Repr

/-- The words for a program that is not there. -/
def ProgramFault.message : ProgramFault → String
  | .notFound => "not found"
  | .notPermitted => "Permission denied"

/-- The status for a program that is not there. -/
def ProgramFault.status : ProgramFault → Nat
  | .notFound => 127
  | .notPermitted => 126

/-- The program at a path. -/
def programAt (s : State) (path : String) : Except ProgramFault Program :=
  let directory := s.process.directory
  match systemProgram? directory path with
  | some name => .ok (.system name path)
  | none =>
    let fs := s.machine.files
    match placeIn? fs directory path with
    | some place =>
      if fs.node? place ≠ some .dir ∧ canRun fs s.machine.modes place then .ok (.script path place)
      else .error .notPermitted
    | none => .error (if isOutsideDirectory directory path then .notPermitted else .notFound)

/-- The program that a name stands for in some directories. -/
def programAmong (s : State) (name : String) :
    ProgramFault → List String → Except ProgramFault Program
  | e, [] => .error e
  | e, directory :: rest =>
    let path := if directory.isEmpty then name else directory ++ "/" ++ name
    let isDir := isDirectoryIn s.machine.files s.process.directory path
    match programAt s (if directory.isEmpty then "./" ++ name else path) with
    | .ok (.system name _) => .ok (.system name path)
    | .ok p => .ok p
    | .error .notPermitted => programAmong s name (if isDir then e else .notPermitted) rest
    | .error .notFound => programAmong s name e rest

/-- Where programs are looked for. -/
def usualPath : String := "/usr/local/sbin:/usr/local/bin:/usr/sbin:/usr/bin:/sbin:/bin"

/-- The program that a name stands for. -/
def findProgram (s : State) (name : String) : Except ProgramFault Program :=
  if name.toList.contains '/' then programAt s name
  else if name.isEmpty then .error .notPermitted
  else
    programAmong s name .notFound
      (match s.process.get? "PATH" with
        | some path => Text.splitOnChar ':' path
        | none => [])

/-- The path of a program. -/
def Program.path : Program → String
  | .system _ path | .script path _ => path

/-- The names of the commands of the shell. -/
def builtinNames : List String :=
  [".", ":", "[", "alias", "bg", "break", "cd", "chdir", "command", "continue", "echo", "eval",
    "exec", "exit", "export", "false", "fg", "getopts", "hash", "jobs", "kill", "local", "printf",
    "pwd", "read", "readonly", "return", "set", "shift", "test", "times", "trap", "true", "type",
    "ulimit", "umask", "unalias", "unset", "wait"]

/-- The commands of the shell whose arguments may be assignments. -/
def assigningBuiltins : List String := ["alias", "export", "local", "readonly"]

/-- The commands of the shell that come before functions of the same name. -/
def isSpecialBuiltin (name : String) : Bool := specialBuiltins.contains name

/-- What a name stands for. -/
inductive Meaning where
  | keyword
  | alias (value : String)
  | specialBuiltin
  | function
  | builtin
  | program (path : String)
  deriving DecidableEq, Repr

/-- What a name stands for; none if it stands for nothing. -/
def meaningOf? (s : State) (name : String) : Option Meaning :=
  let p := s.process
  if reservedWords.contains name then some .keyword
  else
    match p.aliases.lookup name with
    | some value => some (.alias value)
    | none =>
      if isSpecialBuiltin name then some .specialBuiltin
      else if (p.functions.lookup name).isSome then some .function
      else if builtinNames.contains name then some .builtin
      else (findProgram s name).toOption.map fun program => .program program.path

/-- What is said of a name: in words, or as it can be called. -/
def Meaning.text (m : Meaning) (p : Process) (verbose : Bool) (name : String) : String :=
  if verbose then
    name ++
      match m with
      | .keyword => " is a shell keyword"
      | .alias value => " is an alias for " ++ value
      | .specialBuiltin => " is a special shell builtin"
      | .function => " is a shell function"
      | .builtin => " is a shell builtin"
      | .program path =>
        (if p.remembered.any (·.1 == name) then " is a tracked alias for " else " is ") ++ path
  else
    match m with
    | .alias value => "alias " ++ name ++ "=" ++ quotedText value
    | .program path => path
    | _ => name

/-- Says what a name stands for; 127 if it stands for nothing. -/
def describe (verbose : Bool) (name : String) : Action Nat := do
  let s ← get
  match meaningOf? s name with
  | some m =>
    sayLine (m.text s.process verbose name)
    if m matches .program _ then
      if !name.toList.contains '/' then onProcess (·.remember name)
    return 0
  | none =>
    if verbose then sayLine (name ++ ": not found")
    return 127

/-- Tells what names stand for. -/
def describeNames : Builtin := fun args => worst args (describe true)

/-- Where the name of a program stands among those that have been found. -/
def rememberedPlace (name : String) : Nat :=
  let cs := name.toList.map Char.toNat
  (16 * cs.headD 0 + cs.foldl (· + ·) 0) % 31

/-- Finds programs ahead of their use, or shows those that have been found. -/
def hashNames : Builtin := fun args => do
  let (choices, operands) ← flags "r" "" args
  if !choices.isEmpty then
    onProcess fun p => { p with remembered := [] }
    return 0
  if operands.isEmpty then
    let s ← get
    let names := s.process.remembered.mergeSort fun a b =>
      decide (rememberedPlace a.1 ≤ rememberedPlace b.1)
    names.forM fun (name, again) => do
      if let .ok program := findProgram s name then
        sayLine (program.path ++ (if again then "*" else ""))
  worst operands fun name => do
    onProcess (·.forget name)
    let s ← get
    if (s.process.functions.lookup name).isSome || builtinNames.contains name then return 0
    if (findProgram s name).toOption.isSome then
      if !name.toList.contains '/' then onProcess (·.remember name)
      return 0
    warn (name ++ ": not found")
    return 1

/-- Sets or shows texts that stand for the names of commands. -/
def setAliases : Builtin := fun args => do
  let present (name value : String) : Action Unit := sayLine (name ++ "=" ++ quotedText value)
  if args.isEmpty then (← process).aliases.reverse.forM fun (name, value) => present name value
  worst args fun arg => do
    let (name, value) := splitAssignment arg
    match value with
    | some value =>
      if name.isEmpty then
        announce ("alias: " ++ arg ++ " not found")
        return 1
      onProcess fun p => { p with aliases := (name, value) :: p.aliases.filter (·.1 != name) }
      return 0
    | none =>
      match (← process).aliases.lookup name with
      | some value =>
        present name value
        return 0
      | none =>
        announce ("alias: " ++ name ++ " not found")
        return 1

/-- Forgets aliases. -/
def unsetAliases : Builtin := fun args => do
  let (choices, operands) ← flags "a" "" args
  if !choices.isEmpty then
    onProcess fun p => { p with aliases := [] }
    return 0
  worst operands fun name => do
    if ((← process).aliases.lookup name).isNone then
      announce ("unalias: " ++ name ++ " not found")
      return 1
    onProcess fun p => { p with aliases := p.aliases.filter (·.1 != name) }
    return 0

/-! ### Signals -/

/-- Writes the commands for signals. -/
def sayTraps : Action Unit := do
  let traps := (← process).traps.mergeSort fun a b => decide (a.1 ≤ b.1)
  traps.forM fun (n, text) => sayLine ("trap -- " ++ quotedText text ++ " " ++ signalName n)

/-- Sets the commands for signals. -/
def setTrapsFor (text : Option String) : List String → Action Nat
  | [] => return 0
  | name :: rest => do
    match signalNumber? 0 name with
    | none =>
      announce ("trap: " ++ name ++ ": bad trap")
      return 1
    | some n =>
      onProcess fun p =>
        let others := p.traps.filter (·.1 != n)
        { p with
          traps := match text with
            | some text => (n, text) :: others
            | none => others }
      setTrapsFor text rest

/-- Sets or shows the commands for signals. -/
def setTraps : Builtin := fun args => do
  match ← plainArguments args with
  | [] =>
    sayTraps
    return 0
  | [name] => setTrapsFor none [name]
  | text :: names =>
    if (Text.natOfDigits? text.toList).any fun n => n < signalLimit then
      setTrapsFor none (text :: names)
    else setTrapsFor (if text = "-" then none else some text) names

/-! ### Ends -/

/-- Ends the shell. -/
def leave : Builtin := fun args => do
  match args with
  | s :: _ => finish (← number s)
  | [] => if let some n := (← process).trapStatus then finish n
  throw .exit

/-- Ends the function or the file at hand. -/
def leaveFunction : Builtin := fun args => do
  if let s :: _ := args then finish (← number s)
  throw .returned

/-- Ends loops, or a round of one. -/
def leaveLoop (flow : Nat → Flow) : Builtin := fun args => do
  let n ← match args with
    | [] => pure 1
    | s :: _ => do
      let n ← number s
      if n = 0 then raise ("Illegal number: " ++ s)
      pure n
  let n := min n (← process).loops
  finish 0
  if 0 < n then throw (flow n)
  return 0

/-! ### All of them -/

/-- The commands of the shell that run no other commands. -/
def plainBuiltin? (name : String) : Option Builtin :=
  [(":", fun _ => pure 0), ("true", fun _ => pure 0), ("false", fun _ => pure 1),
    ("echo", echoWords), ("printf", printFormatted), ("test", testCondition),
    ("[", testInBrackets), ("cd", changeDirectory), ("chdir", changeDirectory),
    ("pwd", sayDirectory), ("umask", setMask), ("ulimit", setLimits), ("times", sayTimes),
    ("type", describeNames), ("hash", hashNames), ("alias", setAliases),
    ("unalias", unsetAliases), ("trap", setTraps), ("exit", leave), ("return", leaveFunction),
    ("break", leaveLoop .leaveLoop), ("continue", leaveLoop .nextRound),
    ("export", exportVariables), ("readonly", fixVariables), ("local", localVariables),
    ("unset", unsetNames), ("set", setOptions), ("shift", shiftArguments),
    ("getopts", nextOption), ("read", readVariables),
    ("fg", fun _ => raise "No current job"), ("bg", fun _ => raise "No current job")].lookup name

end HarnessRepair.Shell
