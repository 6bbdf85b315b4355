import HarnessRepair.Process.Command
import HarnessRepair.Shell.Run

/-!
# The shell as a host of commands

Commands run on the files of the run, in a shell that knows the usual tools.  A command is
over when its process is, and when nothing in the background can write to its output any
more.

## Main definitions

* `startFailure?` — why a command does not start.
* `startState` — the state in which a command starts.
* `awaitOutput` — what happens until the output of a command is closed.
* `shellHost` — the host.
-/

namespace HarnessRepair.Shell

open Shell.Action

/-! ### The start -/

/-- Why there is no working directory at a path. -/
def directoryFailure? (fs : FileSystem) (path : String) : Option IoError :=
  match fs.resolve path with
  | .error e => some e
  | .ok place =>
    match fs.node? place with
    | some .dir => none
    | some _ => some .notDirectory
    | none => some .notFound

/-- Why there is no program at a path. -/
def programAtFailure (fs : FileSystem) (path : String) : IoError :=
  match fs.resolve path with
  | .error e => e
  | .ok place =>
    match fs.node? place with
    | some .dir => .notPermitted
    | some _ =>
      if FileSystem.wantsDirectory path then .notDirectory else .notPermitted
    | none => .notFound

/-- The path from the root of a directory of the run. -/
def directoryPath (fs : FileSystem) (directory : String) : String :=
  pathOf ((fs.place? directory).getD fs.workingDir)

/-- The program of the system that a command calls. -/
def calledProgram? (fs : FileSystem) (directory program : String) : Option String :=
  if program.toList.contains '/' then
    systemProgram? (directoryPath fs directory) (Text.spread program)
  else if isProgramName program then some program
  else none

/-- Why there is no program with a name, as seen from a directory. -/
def programFailure? (fs : FileSystem) (directory program : String) : Option IoError :=
  if (calledProgram? fs directory program).isSome then none
  else if program.toList.contains '/' then
    if isOutsideDirectory (directoryPath fs directory) (Text.spread program) then
      some .notPermitted
    else some (programAtFailure fs (Path.join directory program))
  else if FileSystem.nameLimit < program.utf8ByteSize then some .nameTooLong
  else some .notFound

/-- Why a command does not start. -/
def startFailure? (fs : FileSystem) (c : Command) : Option IoError :=
  if (c.program :: c.directory :: c.args).any FileSystem.holdsNul then some .nulInCommand
  else (directoryFailure? fs c.directory).or (programFailure? fs c.directory c.program)

/-- The variables that are there in any environment. -/
def usualVariables : List (String × String) := [("PATH", usualPath), ("HOME", "/root")]

/-- The process in which a command starts. -/
def startProcess (env : Environment) (c : Command) (directory : String) : Process :=
  let given := c.extraVariables ++ env
  let start : Process := { directory := directory }
  (given ++ usualVariables).foldr
    (fun (name, value) p =>
      if given.any (·.1 == name) || p.get? name == none then
        p.putVariable (Text.spread name) ⟨some (Text.spread value), true, false⟩
      else p)
    start

/-- The state in which a command starts. -/
def startState (env : Environment) (c : Command) (seconds : Nat) (fs : FileSystem) : State :=
  let p := startProcess env c (directoryPath fs c.directory)
  { process := p
    machine := { files := fs, limit := seconds * 1000, shells := [p.number] } }

/-! ### The end -/

/-- How a script in the background runs. -/
def runJob (script : Script) : Action Unit :=
  concluding depthLimit (runScript depthLimit { last := true } script)

/-- Whether something in the background keeps the output open. -/
def isOutputHeld (m : Machine) : Bool :=
  m.jobs.any fun (j : Job) => j.status.isNone && holdsOutput j

/-- Lets everything happen that happens until the output is closed. -/
def awaitOutput : Action Unit := do
  settleJobs runJob (← get).machine.clock
  repeating ((← get).machine.jobs.length + 64) do
    let m := (← get).machine
    if !isOutputHeld m then return false
    if !(← settleNext runJob m.limit) then throw .timeout
    let finishes := (← get).machine.jobs.filterMap fun (j : Job) =>
      if j.status.isSome then some j.finish else none
    passTo (finishes.foldl max m.clock)
    return true

/-- What the commands in the background have done by now that go on. -/
def leaveJobs (s : State) : State :=
  (s.machine.jobs.filter fun (j : Job) => j.status.isNone).foldl
    (fun (s : State) j =>
      let early := s.onMachine fun m => { m with limit := m.clock }
      let after := (performJob runJob early j).2
      s.onMachine fun m => { after.machine with clock := m.clock, limit := m.limit })
    s

/-- What a command leaves behind. -/
def outcomeOf (m : Machine) (exitCode : Option Int) : CommandOutcome :=
  let text (i : Nat) : String := Text.lossyText ((m.buffers[i]?).getD #[]).bytes
  ⟨exitCode, text 0, text 1⟩

/-- What a program does from its start until its output is closed. -/
def performProgram (base name : String) (args : List String) (s : State) :
    Except Flow Unit × State :=
  let (result, s) := (runProgram depthLimit base name args).run s
  match result with
  | .error .timeout => (.error .timeout, s)
  | result =>
    match awaitOutput.run s with
    | (.error .timeout, after) => (.error .timeout, after)
    | (_, after) => (result, after)

/-- Runs a command that starts. -/
def runStarted (base : String) (c : Command) (s : State) : CommandEnd × FileSystem :=
  let (result, s) := performProgram base (Text.spread c.program) (c.args.map Text.spread) s
  let s := leaveJobs s
  match result with
  | .error .timeout => (.timedOut, s.machine.files)
  | .error (.killed _) => (.finished (outcomeOf s.machine none), s.machine.files)
  | _ =>
    (.finished (outcomeOf s.machine (some (s.process.status % 256 : Nat))), s.machine.files)

/-- The host that runs commands in a shell with some environment. -/
def shellHost (env : Environment) : ProcessHost := fun c seconds fs =>
  match startFailure? fs c with
  | some e => (.notStarted e, fs)
  | none =>
    if seconds = 0 then (.timedOut, fs)
    else
      runStarted ((calledProgram? fs c.directory c.program).getD "") c
        (startState env c seconds fs)

end HarnessRepair.Shell
