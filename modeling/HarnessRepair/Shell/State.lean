import HarnessRepair.Settings.Variable
import HarnessRepair.Shell.Field
import HarnessRepair.Shell.Reader

/-!
# The state of a shell

What a process has for itself, its variables and descriptors among it, and what all
processes share: the files, the streams, and the clock.  Time is a part of the state:
a pause moves the clock, and nothing happens after the time of a run is over.

## Main definitions

* `Stream`, `Handle` — what is read and written.
* `Process` — what a shell has for itself.
* `Job` — a command in the background.
* `Machine` — what all processes share.
* `State` — both.
* `Flow` — how a script goes on.
-/

namespace HarnessRepair.Shell

/-! ### Streams -/

/-- What is read and written. -/
inductive Stream where
  /-- The file at a place; `appends` writes behind its end. -/
  | file (place : Place) (appends : Bool)
  /-- A directory, which can be opened but not read. -/
  | directory
  /-- One of the buffers of the machine. -/
  | buffer (index : Nat)
  /-- Bytes that are there to be read; the last of them comes at some time. -/
  | bytes (rest : List UInt8) (closed : Nat)
  /-- Nothing to be read, and what is written is gone. -/
  | nowhere
  /-- Zeros without end. -/
  | zeros
  /-- Nothing can be written here. -/
  | full
  deriving DecidableEq, Repr

/-- An open stream.  Descriptors that share it share the place in it. -/
structure Handle where
  stream : Stream
  reads : Bool
  writes : Bool
  position : Nat := 0
  deriving DecidableEq, Repr

/-! ### Processes -/

/-- A variable.  One that is only marked has no value. -/
structure Variable where
  value : Option String
  exported : Bool := false
  readOnly : Bool := false
  deriving DecidableEq, Repr

/-- What has been asked of a shell. -/
structure Options where
  /-- Every variable that is set is exported. -/
  exportsAll : Bool := false
  /-- No file is written over. -/
  keepsFiles : Bool := false
  /-- The first command that fails ends the script. -/
  stopsOnFailure : Bool := false
  /-- Patterns stand for themselves. -/
  plainPatterns : Bool := false
  /-- Commands are read and not run. -/
  onlyReads : Bool := false
  /-- A parameter that is not set is a failure. -/
  needsParameters : Bool := false
  /-- Lines are shown as they are read. -/
  showsLines : Bool := false
  /-- Commands are shown as they run. -/
  showsCommands : Bool := false
  /-- The names of further options that are on. -/
  further : List String := []
  deriving DecidableEq, Repr

namespace Options

/-- The options by their names, with their letters if they have one. -/
def table : List (String × Option Char) :=
  [("errexit", some 'e'), ("noglob", some 'f'), ("ignoreeof", some 'I'), ("interactive", some 'i'),
    ("monitor", some 'm'), ("noexec", some 'n'), ("stdin", some 's'), ("xtrace", some 'x'),
    ("verbose", some 'v'), ("vi", some 'V'), ("emacs", some 'E'), ("noclobber", some 'C'),
    ("allexport", some 'a'), ("notify", some 'b'), ("nounset", some 'u'), ("privileged", some 'p'),
    ("nolog", none), ("debug", none)]

/-- Whether the option with a name is on. -/
def isOn (o : Options) (name : String) : Bool :=
  if name = "errexit" then o.stopsOnFailure
  else if name = "noglob" then o.plainPatterns
  else if name = "noexec" then o.onlyReads
  else if name = "xtrace" then o.showsCommands
  else if name = "verbose" then o.showsLines
  else if name = "noclobber" then o.keepsFiles
  else if name = "allexport" then o.exportsAll
  else if name = "nounset" then o.needsParameters
  else o.further.contains name

/-- The options with one of them on or off. -/
def turn (o : Options) (name : String) (on : Bool) : Options :=
  if name = "errexit" then { o with stopsOnFailure := on }
  else if name = "noglob" then { o with plainPatterns := on }
  else if name = "noexec" then { o with onlyReads := on }
  else if name = "xtrace" then { o with showsCommands := on }
  else if name = "verbose" then { o with showsLines := on }
  else if name = "noclobber" then { o with keepsFiles := on }
  else if name = "allexport" then { o with exportsAll := on }
  else if name = "nounset" then { o with needsParameters := on }
  else
    let others := o.further.filter (· != name)
    { o with further := if on then name :: others else others }

/-- The letters of the options that are on, the last of the table first. -/
def letters (o : Options) : String :=
  String.ofList
    (table.reverse.filterMap fun (name, letter) => if o.isOn name then letter else none)

end Options

/-- What a shell has for itself. -/
structure Process where
  /-- The path of the directory that the shell is in, from the root. -/
  directory : String := runDirectory
  /-- The name that messages start with. -/
  name : String := "sh"
  /-- The number of the shell that the process belongs to. -/
  number : Nat := 4242
  bindings : List (String × Variable) := []
  arguments : List String := []
  functions : List (String × Script) := []
  aliases : List (String × String) := []
  options : Options := {}
  status : Nat := 0
  /-- The line of the command at hand. -/
  line : Nat := 1
  /-- The command of the shell that runs, for messages. -/
  command : Option String := none
  /-- The handle of each descriptor that is open. -/
  descriptors : List (Nat × Nat) := [(0, 0), (1, 1), (2, 2)]
  /-- What to do when a signal comes; zero stands for the end of the shell. -/
  traps : List (Nat × String) := []
  /-- Signals that have come and wait for their command. -/
  pending : List Nat := []
  /-- The variables that functions have hidden, those of the innermost first. -/
  hidden : List (List (String × Option Variable)) := []
  /-- The options that functions will put back, those of the innermost first. -/
  hiddenOptions : List (Option Options) := []
  /-- The number of loops around the command at hand. -/
  loops : Nat := 0
  /-- Whether the process stands for a part of a script only. -/
  isPart : Bool := false
  /-- The status in front of the command for a signal that runs. -/
  trapStatus : Option Nat := none
  /-- The number of the last command in the background. -/
  lastJob : Option Nat := none
  /-- The commands in the background that can be waited for: the place of each in the list of
  the shell, and the number of its process. -/
  jobs : List (Nat × Nat) := []
  fileMask : Nat := 18
  /-- The number of the argument whose options are read next, and where in it. -/
  optionIndex : Nat := 1
  optionOffset : Option Nat := none
  /-- The names of programs that have been found; true for those that are looked for again
  because the shell has gone to another directory. -/
  remembered : List (String × Bool) := []
  /-- What a command of the shell has still to write, the last first. -/
  said : List String := []
  /-- The status of the last script inside of a word. -/
  innerStatus : Option Nat := none

namespace Process

/-- A variable by its name. -/
def entry? (p : Process) (name : String) : Option Variable := p.bindings.lookup name

/-- The value of a variable. -/
def get? (p : Process) (name : String) : Option String := (p.entry? name).bind (·.value)

/-- The process with a variable.  With other places to look at, what has been found is
forgotten. -/
def putVariable (p : Process) (name : String) (v : Variable) : Process :=
  { p with
    bindings := (name, v) :: p.bindings.filter (·.1 != name)
    remembered := if name = "PATH" then [] else p.remembered }

/-- The process with a variable set; its marks stay. -/
def set (p : Process) (name value : String) : Process :=
  let old := (p.entry? name).getD ⟨none, false, false⟩
  p.putVariable name
    { old with value := some value, exported := old.exported || p.options.exportsAll }

/-- The process without a variable. -/
def unset (p : Process) (name : String) : Process :=
  { p with bindings := p.bindings.filter (·.1 != name) }

/-- The process when it has found a program. -/
def remember (p : Process) (name : String) : Process :=
  if p.remembered.any (·.1 == name) then
    { p with remembered := p.remembered.map fun r => if r.1 = name then (name, false) else r }
  else { p with remembered := p.remembered ++ [(name, false)] }

/-- The process without what it knows of a program. -/
def forget (p : Process) (name : String) : Process :=
  { p with remembered := p.remembered.filter (·.1 != name) }

/-- Whether a variable cannot be changed. -/
def isReadOnly (p : Process) (name : String) : Bool := (p.entry? name).any (·.readOnly)

/-- The numbers of the processes in the background that can be waited for. -/
def jobNumbers (p : Process) : List Nat := p.jobs.map (·.2)

/-- The process with one more command in the background, in the first place that is free. -/
def addJob (p : Process) (number : Nat) : Process :=
  let free := (List.range (p.jobs.length + 1)).find? fun i => !p.jobs.any fun j => j.1 == i + 1
  { p with lastJob := some number, jobs := p.jobs ++ [(free.getD p.jobs.length + 1, number)] }

/-- The process when it makes room for another command: the first place that is free or
belongs to a command that is settled is free afterwards. -/
def freePlace (p : Process) (isSettled : Nat → Bool) : Process :=
  let places := (List.range (p.jobs.length + 1)).map (· + 1)
  match places.find? fun place => (p.jobs.lookup place).all isSettled with
  | some place => { p with jobs := p.jobs.filter (·.1 != place) }
  | none => p

/-- The variables that commands see. -/
def environment (p : Process) : List (String × String) :=
  p.bindings.filterMap fun (name, v) =>
    if v.exported then v.value.map (name, ·) else none

/-- The characters that separate fields. -/
def separators (p : Process) : List Char := ((p.get? "IFS").getD " \t\n").toList

/-- A process for a part of the script of a shell: it forgets the commands for signals,
except that ignored ones stay so. -/
def part (p : Process) : Process :=
  { p with isPart := true, traps := p.traps.filter fun t => t.2.isEmpty, pending := [], jobs := [] }

end Process

/-- A command in the background. -/
structure Job where
  number : Nat
  process : Process
  script : Script
  /-- When it started. -/
  start : Nat
  /-- Its status, once it is known. -/
  status : Option Nat := none
  /-- The signal that has ended it. -/
  signal : Option Nat := none
  /-- When it ended. -/
  finish : Nat := 0
  /-- Its shell has waited for its end. -/
  awaited : Bool := false

/-- Marks a command in the background as ended by a signal. -/
def Job.killedBy (j : Job) (signal time : Nat) : Job :=
  { j with status := some (128 + signal), signal := some signal, finish := time }

/-! ### Machines -/

/-- What has been written to a buffer, each part with its time. -/
abbrev Buffer := Array (Nat × List UInt8)

/-- The bytes in a buffer, in the order of their times. -/
def Buffer.bytes (b : Buffer) : List UInt8 :=
  (b.toList.mergeSort fun x y => decide (x.1 ≤ y.1)).flatMap (·.2)

/-- What all processes share. -/
structure Machine where
  files : FileSystem
  /-- The rights of files that have other than the usual ones. -/
  modes : List (Place × Nat) := []
  buffers : List Buffer := [#[], #[]]
  handles : Array Handle :=
    #[⟨.nowhere, true, true, 0⟩, ⟨.buffer 0, false, true, 0⟩, ⟨.buffer 1, false, true, 0⟩]
  /-- The time since the start of the run, in milliseconds. -/
  clock : Nat := 0
  limit : Nat
  jobs : List Job := []
  /-- Commands in the background with smaller numbers are left to others. -/
  oldestJob : Nat := 0
  /-- The numbers of the shells that run. -/
  shells : List Nat := []
  /-- Signals on their way, each with the number of the shell that it goes to. -/
  signals : List (Nat × Nat) := []
  /-- How many more commands may run before the time is thought to be over. -/
  steps : Nat := 300000
  nextNumber : Nat := 4243
  /-- Texts that stand in scripts. -/
  inlines : List InlineText := []
  nextInline : Nat := 0

/-- The state of a shell. -/
structure State where
  process : Process := {}
  machine : Machine

/-- How a script goes on. -/
inductive Flow where
  | exit
  /-- Something went wrong that ends a shell. -/
  | failed
  | killed (signal : Nat)
  | timeout
  | leaveLoop (levels : Nat)
  | nextRound (levels : Nat)
  | returned
  deriving DecidableEq, Repr

namespace Machine

/-- A list of bytes with some written at a position. -/
def overwrite (old : List UInt8) (position : Nat) (bs : List UInt8) : List UInt8 :=
  old.take position ++ List.replicate (position - old.length) 0 ++ bs ++
    old.drop (position + bs.length)

/-- Writes bytes into the file at a place; the position behind them. -/
def writeFile (m : Machine) (place : Place) (appends : Bool) (position : Nat) (bs : List UInt8) :
    Machine × Nat :=
  match m.files.node? place with
  | some (.file old) =>
    let size := old.bytes.length
    let position := if appends then size else position
    let content :=
      if position = size then old.append (.ofBytes bs)
      else .ofBytes (overwrite old.bytes position bs)
    ({ m with files := m.files.put place (.file content) }, position + bs.length)
  | _ => (m, position)

/-- Writes bytes through a handle. -/
def write (m : Machine) (index : Nat) (bs : List UInt8) : Machine :=
  match m.handles[index]? with
  | some h =>
    match h.stream with
    | .buffer i => { m with buffers := m.buffers.modify i fun b => b.push (m.clock, bs) }
    | .file place appends =>
      let (m, position) := m.writeFile place appends h.position bs
      { m with handles := m.handles.modify index fun h => { h with position := position } }
    | _ => m
  | none => m

/-- How many bytes are taken from a stream without end. -/
def endlessLimit : Nat := 65536

/-- What is left to be read through a handle. -/
def unread (m : Machine) (index : Nat) : List UInt8 :=
  match m.handles[index]? with
  | some h =>
    match h.stream with
    | .bytes rest _ => rest
    | .zeros => List.replicate endlessLimit 0
    | .file place _ =>
      match m.files.node? place with
      | some (.file c) => c.bytes.drop h.position
      | _ => []
    | _ => []
  | none => []

/-- The file that a handle stands for. -/
def fileOf? (m : Machine) (index : Nat) : Option Content :=
  match (m.handles[index]?).map Handle.stream with
  | some (.file place _) =>
    match m.files.node? place with
    | some (.file c) => some c
    | _ => none
  | _ => none

/-- Whether reading through a handle meets a directory. -/
def isDirectoryHandle (m : Machine) (index : Nat) : Bool :=
  (m.handles[index]?).any fun h => h.stream == .directory

/-- The machine after so many bytes have been read through a handle.  The last of them has to
be waited for. -/
def advance (m : Machine) (index count : Nat) : Machine :=
  let waited := match (m.handles[index]?).map Handle.stream with
    | some (.bytes rest closed) => if 0 < count && rest.length ≤ count then closed else 0
    | _ => 0
  { m with
    clock := max m.clock waited
    handles := m.handles.modify index fun h =>
      match h.stream with
      | .bytes rest closed => { h with stream := .bytes (rest.drop count) closed }
      | _ => { h with position := h.position + count } }

/-- The machine with one more handle, and its index. -/
def addHandle (m : Machine) (h : Handle) : Machine × Nat :=
  ({ m with handles := m.handles.push h }, m.handles.size)

end Machine

namespace State

/-- The handle of a descriptor. -/
def handle? (s : State) (descriptor : Nat) : Option Nat := s.process.descriptors.lookup descriptor

/-- Changes what the process has for itself. -/
def onProcess (s : State) (f : Process → Process) : State := { s with process := f s.process }

/-- Changes what all processes share. -/
def onMachine (s : State) (f : Machine → Machine) : State := { s with machine := f s.machine }

/-- The state with a status. -/
def withStatus (s : State) (n : Nat) : State := s.onProcess fun p => { p with status := n }

/-- Writes bytes to a descriptor, if it is open. -/
def writeTo (s : State) (descriptor : Nat) (bs : List UInt8) : State :=
  match s.handle? descriptor with
  | some i => s.onMachine fun m => m.write i bs
  | none => s

/-- Whether a descriptor can be written to. -/
def canWrite (s : State) (descriptor : Nat) : Bool :=
  (s.handle? descriptor).any fun i =>
    (s.machine.handles[i]?).any fun h => h.writes && h.stream != .full

/-- Whether a descriptor can be read from. -/
def canRead (s : State) (descriptor : Nat) : Bool :=
  (s.handle? descriptor).any fun i => (s.machine.handles[i]?).any (·.reads)

/-- What is left to be read from a descriptor. -/
def inputOf (s : State) (descriptor : Nat) : List UInt8 :=
  match s.handle? descriptor with
  | some i => if s.canRead descriptor then s.machine.unread i else []
  | none => []

/-- The state after so many bytes have been read from a descriptor. -/
def advance (s : State) (descriptor count : Nat) : State :=
  match s.handle? descriptor with
  | some i => s.onMachine fun m => m.advance i count
  | none => s

/-- Writes a line to the errors. -/
def complain (s : State) (text : String) : State := s.writeTo 2 (Text.toBytes (text ++ "\n"))

/-- Writes a message of the shell about the line at hand. -/
def report (s : State) (text : String) : State :=
  let command := match s.process.command with
    | some name => name ++ ": "
    | none => ""
  s.complain (s.process.name ++ ": " ++ toString s.process.line ++ ": " ++ command ++ text)

/-- The value of a parameter that is one text. -/
def parameter? (s : State) (name : String) : Option String :=
  let p := s.process
  if name = "?" then some (toString p.status)
  else if name = "$" then some (toString p.number)
  else if name = "#" then some (toString p.arguments.length)
  else if name = "0" then some p.name
  else if name = "!" then p.lastJob.map toString
  else if name = "-" then some p.options.letters
  else
    match Text.natOfDigits? name.toList with
    | some n => if n = 0 then some p.name else p.arguments[n - 1]?
    | none => p.get? name

end State

end HarnessRepair.Shell
