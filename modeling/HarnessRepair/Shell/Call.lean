import HarnessRepair.Shell.Job

/-!
# Calls of programs

Programs run in processes of their own.  What their arguments ask for is read here.

## Main definitions

* `inProcess` — runs an action in another process.
* `runTool` — runs a tool on the files and the descriptors of a process.
* `ShellCall`, `shellProcess` — calls of shells.
* `xargsLines`, `commandUse` — calls of other commands.
-/

namespace HarnessRepair.Shell

open Shell.Action

/-- Runs an action in another process, and answers its status. -/
def inProcess (start : Process → Process) (a : Action Unit) : Action Nat := do
  makeRoom
  let outer ← process
  let (result, s) := a.run ((← get).onProcess start)
  set (s.onProcess fun _ => outer)
  if result matches .error .timeout then throw .timeout
  let note := noteOf result
  if !note.isEmpty then modify fun s => s.complain note
  receive
  return statusOf s result

/-! ### Tools -/

/-- Writes what a tool has written. -/
def passOn (name : String) (b : Bench) : Action Unit := do
  b.written.reverse.forM fun (d, bs) => modify fun s => s.writeTo d bs
  let held := b.held.reverse.flatten
  modify fun s => s.writeTo 1 held
  let wrote := !held.isEmpty || b.written.any fun w => w.1 == 1 && !w.2.isEmpty
  let s ← get
  if wrote && !s.canWrite 1 then
    let why := if (s.handle? 1).isSome then "No space left on device" else "Bad file descriptor"
    announce (name ++ ": write error: " ++ why)
    finish (if b.status = 0 then 1 else b.status)
  else finish b.status

/-- Runs a tool on the files and the descriptors of the process. -/
def runTool (name : String) (tool : Tool) (args : List String) : Action Unit := do
  let s ← get
  let m := s.machine
  let input : Option (List UInt8) :=
    if (s.handle? 0).any m.isDirectoryHandle then none else some (s.inputOf 0)
  let c : Call :=
    { name := name, args := args, directory := s.process.directory
      environment := s.process.environment }
  let size := ((s.handle? 0).bind m.fileOf?).map fun content => content.bytes.length
  let b := tool.run c { files := m.files, modes := m.modes, input := input, inputSize := size }
  let count := match input, b.input with
    | some before, some left => before.length - left.length
    | _, _ => 0
  set ((s.onMachine fun m => { m with files := b.files, modes := b.modes }).advance 0 count)
  passOn name b

/-- Writes a line without end, as long as anything takes it. -/
def writeForever (args : List String) : Action Unit := do
  let line := Text.toBytes ((if args.isEmpty then "y" else " ".intercalate args) ++ "\n")
  let s ← get
  let isPipe := (s.handle? 1).any fun i =>
    match s.machine.handles[i]? with
    | some h => match h.stream with
      | .buffer n => 2 ≤ n
      | _ => false
    | none => false
  if isPipe then
    set (s.writeTo 1 (List.replicate (Machine.endlessLimit / line.length + 1) line).flatten)
    throw (.killed 13)
  else if s.canWrite 1 then throw .timeout
  else finish 1

/-! ### Calls of shells -/

/-- What a call of a shell asks for. -/
structure ShellCall where
  /-- The text of a command, or none if the input or a file holds the script. -/
  text : Option String := none
  /-- The path of the file with the script. -/
  path : Option String := none
  name : String
  arguments : List String := []
  options : Options := {}

/-- The options in the letters of an argument of a shell; with `c` among them a text of a
command follows. -/
def shellLetters (o : Options) : List Char → Except Char (Options × Bool)
  | [] => .ok (o, false)
  | 'c' :: rest => (shellLetters o rest).map fun r => (r.1, true)
  | 'l' :: rest => shellLetters o rest
  | c :: rest =>
    match Options.table.find? fun t => t.2 == some c with
    | some (name, _) => shellLetters (o.turn name true) rest
    | none => .error c

/-- What the arguments of a shell ask for; none with the words for what is wrong. -/
def readShellCall (name : String) : Nat → ShellCall → Bool → List String → Except String ShellCall
  | 0, call, _, _ => .ok call
  | fuel + 1, call, wantsText, args =>
    let finish (args : List String) : Except String ShellCall :=
      match args with
      | [] =>
        if wantsText then .error (name ++ ": 0: -c requires an argument") else .ok call
      | first :: rest =>
        if wantsText then
          .ok { call with text := some first, name := rest.headD name, arguments := rest.drop 1 }
        else if call.options.isOn "stdin" then .ok { call with arguments := first :: rest }
        else .ok { call with path := some first, name := first, arguments := rest }
    match args with
    | [] => finish []
    | arg :: rest =>
      match arg.toList with
      | ['-'] | ['-', '-'] => finish rest
      | '-' :: 'o' :: [] =>
        readShellCall name fuel
          { call with options := call.options.turn (rest.headD "") true } wantsText (rest.drop 1)
      | '-' :: letters =>
        match shellLetters call.options letters with
        | .ok (options, text) =>
          readShellCall name fuel { call with options := options } (wantsText || text) rest
        | .error c => .error (name ++ ": 0: Illegal option -" ++ String.singleton c)
      | '+' :: _ :: _ => readShellCall name fuel call wantsText rest
      | _ => finish args

/-- A process for another shell. -/
def shellProcess (p : Process) (number : Nat) (call : ShellCall) : Process :=
  let inherited := p.environment.map fun (name, value) =>
    (name, ({ value := some value, exported := true } : Variable))
  let start : Process :=
    { directory := p.directory
      name := call.name
      number := number
      bindings := inherited
      arguments := call.arguments
      options := call.options
      descriptors := p.descriptors
      traps := p.traps.filter fun t => t.2.isEmpty
      fileMask := p.fileMask }
  let start := ((start.set "IFS" " \t\n").set "OPTIND" "1").set "PPID" (toString p.number)
  let start := ((start.set "PS1" "# ").set "PS2" "> ").set "PS4" "+ "
  let start := if (start.get? "PATH").isSome then start else start.set "PATH" usualPath
  start.putVariable "PWD" ⟨some p.directory, true, false⟩

/-! ### Programs that run others -/

/-- The options of `xargs`. -/
def xargsOptions : OptionTable := ⟨"0rtpx", "nILdPsE", []⟩

/-- Whether an argument of `xargs` is an option whose value is the next one. -/
def wantsValue (arg : String) : Bool :=
  match arg.toList with
  | ['-', c] => xargsOptions.valued.toList.contains c
  | _ => false

/-- The options of `xargs` and the command behind them, which starts with the first word
that is no option. -/
def splitXargs : Nat → List String → List String × List String
  | 0, args => ([], args)
  | _, [] => ([], [])
  | fuel + 1, arg :: rest =>
    if arg = "--" then ([], rest)
    else if arg.toList.head? ≠ some '-' then ([], arg :: rest)
    else if wantsValue arg then
      let (front, behind) := splitXargs fuel (rest.drop 1)
      (arg :: rest.take 1 ++ front, behind)
    else
      let (front, behind) := splitXargs fuel rest
      (arg :: front, behind)

/-- The words that `xargs` makes of a text, and the quote that is never closed. -/
def xargsWords : Nat → List Char → List String × Option Char
  | 0, _ => ([], none)
  | fuel + 1, cs =>
    let cs := cs.dropWhile fun c => c == ' ' || c == '\t' || c == '\n'
    if cs.isEmpty then ([], none)
    else
      match word fuel [] cs with
      | .ok (w, rest) =>
        let (words, quote) := xargsWords fuel rest
        (String.ofList w :: words, quote)
      | .error quote => ([], some quote)
where
  /-- One word, behind the characters in reverse that it has already. -/
  word : Nat → List Char → List Char → Except Char (List Char × List Char)
    | 0, acc, cs => .ok (acc.reverse, cs)
    | _, acc, [] => .ok (acc.reverse, [])
    | fuel + 1, acc, c :: rest =>
      if c = ' ' ∨ c = '\t' ∨ c = '\n' then .ok (acc.reverse, rest)
      else if c = '\\' then
        match rest with
        | d :: more => word fuel (d :: acc) more
        | [] => .ok (acc.reverse, [])
      else if c = '"' ∨ c = '\'' then
        let body := rest.takeWhile fun d => d != c && d != '\n'
        match rest.drop body.length with
        | d :: more => if d = c then word fuel (body.reverse ++ acc) more else .error c
        | [] => .error c
      else word fuel (c :: acc) rest

/-- A text with another in place of each of its parts that is a mark. -/
def replaceMark (mark value : List Char) : Nat → List Char → List Char
  | 0, cs => cs
  | _, [] => []
  | fuel + 1, c :: cs =>
    match Text.stripPrefix? mark (c :: cs) with
    | some rest =>
      if mark.isEmpty then c :: cs else value ++ replaceMark mark value fuel rest
    | none => c :: replaceMark mark value fuel cs

/-- The pieces of a text that a character ends or separates. -/
def endedPieces (c : Char) (s : String) : List String :=
  let pieces := Text.splitOnChar c s
  if pieces.getLast? = some "" then pieces.dropLast else pieces

/-- The command lines that `xargs` runs, with the input as a text, and the quote in it that is
never closed. -/
def xargsLines (choices : List Choice) (command : List String) (input : String) :
    List (List String) × Option Char :=
  let lines := (Text.splitOnChar '\n' input).filter fun l => !l.toList.all isSeparatorBlank
  match chosen? choices 'I' with
  | some mark =>
    (lines.map fun line =>
      let value := line.toList.dropWhile isSeparatorBlank
      command.map fun w =>
        String.ofList (replaceMark mark.toList value (w.length + 1) w.toList), none)
  | none =>
    let (words, quote) :=
      if isChosen choices '0' then (endedPieces '\x00' input, none)
      else
        match chosen? choices 'd' with
        | some d => (endedPieces (d.toList.headD '\n') input, none)
        | none => xargsWords (input.length + 1) input.toList
    let perLine := (chosen? choices 'L').bind fun s => Text.natOfDigits? s.toList
    let perCall := (chosen? choices 'n').bind fun s => Text.natOfDigits? s.toList
    let groups :=
      match perLine, perCall with
      | some n, _ =>
        (chunks (max 1 n) (lines.length + 1) lines).map fun ls =>
          ls.flatMap fun l => (xargsWords (l.length + 1) l.toList).1
      | none, some n => chunks (max 1 n) (words.length + 1) words
      | none, none => if words.isEmpty then [] else [words]
    let groups :=
      if groups.isEmpty && quote.isNone && !isChosen choices 'r' then [[]] else groups
    (groups.map (command ++ ·), quote)

/-- What comes of looking at the options of `command`. -/
inductive CommandUse where
  /-- The words of the command that is run, with the usual path or not. -/
  | run (words : List String) (usual : Bool)
  /-- The name that is asked about. -/
  | describe (verbose usual : Bool) (words : List String)
  deriving DecidableEq, Repr

/-- What the arguments of `command` ask for, behind the letters of options. -/
def commandUse : Nat → List Char → List String → Action CommandUse
  | 0, _, args => return .run args false
  | fuel + 1, letters, args =>
    let finish (args : List String) : CommandUse :=
      let usual := letters.contains 'p'
      if letters.contains 'V' then .describe true usual args
      else if letters.contains 'v' then .describe false usual args
      else .run args usual
    match args with
    | arg :: rest =>
      match arg.toList with
      | ['-', '-'] => return finish rest
      | '-' :: c :: cs => do
        match (c :: cs).find? fun c => c != 'p' && c != 'v' && c != 'V' with
        | some c => raise ("Illegal option -" ++ String.singleton c)
        | none => commandUse fuel (letters ++ c :: cs) rest
      | _ => return finish args
    | [] => return finish []

end HarnessRepair.Shell
