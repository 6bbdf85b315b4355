import HarnessRepair.Shell.Signal
import HarnessRepair.Shell.State

/-!
# Actions of a shell

What a shell does, step by step: it changes its state and says how the script goes on.

## Main definitions

* `Action` — a computation on the state that may leave the script.
* `raise`, `warn` — what is told when something goes wrong.
* `protecting` — an action after which something is put back.
* `passTo` — lets time pass.
* `send`, `receive` — signals.
* `follow` — carries out a redirection.
-/

namespace HarnessRepair.Shell

/-- A computation on the state of a shell. -/
abbrev Action := ExceptT Flow (StateM State)

namespace Action

/-! ### Status and messages -/

/-- What the shell has for itself. -/
def process : Action Process := return (← get).process

/-- Changes what the shell has for itself. -/
def onProcess (f : Process → Process) : Action Unit := modify fun s => s.onProcess f

/-- Sets the status. -/
def finish (n : Nat) : Action Unit := modify fun s => s.withStatus n

/-- Tells of something that goes wrong. -/
def warn (text : String) : Action Unit := modify fun s => s.report text

/-- Tells of something with which a shell cannot go on. -/
def raise {α : Type} (text : String) : Action α := do
  warn text
  finish 2
  throw .failed

/-- Ends the shell with a message and a status. -/
def quit {α : Type} (status : Nat) (text : String) : Action α := do
  warn text
  finish status
  throw .exit

/-- An action after which something is put back, however it ends. -/
def protecting {α : Type} (a : Action α) (putBack : State → State) : Action α :=
  ExceptT.mk fun s =>
    let (result, after) := a.run s
    (result, putBack after)

/-- An action with an end of its own. -/
def ending {α β : Type} (a : Action α) (f : Except Flow α → Action β) : Action β :=
  ExceptT.mk fun s =>
    let (result, after) := a.run s
    (f result).run after

/-- Takes steps from a state to the next until one gives an answer. -/
def iterate {σ α : Type} : Nat → (σ → Action (σ ⊕ α)) → σ → Action α
  | 0, _, _ => throw .timeout
  | n + 1, step, s => do
    match ← step s with
    | .inl s => iterate n step s
    | .inr a => return a

/-- Repeats an action while it says so, for as long as there are steps. -/
def repeating : Nat → Action Bool → Action Unit
  | 0, _ => throw .timeout
  | n + 1, a => do if ← a then repeating n a

/-- Counts one command. -/
def countStep : Action Unit := do
  let s ← get
  if s.machine.steps = 0 then throw .timeout
  set { s with machine := { s.machine with steps := s.machine.steps - 1 } }

/-! ### Variables -/

/-- Sets a variable. -/
def assign (name value : String) : Action Unit := do
  let p ← process
  if p.isReadOnly name then raise (name ++ ": is read only")
  onProcess fun p =>
    let p := p.set name value
    if name = "OPTIND" then
      { p with optionIndex := (Text.natOfDigits? value.toList).getD 1, optionOffset := none }
    else p

/-! ### Time -/

/-- Lets time pass up to a point. -/
def passTo (time : Nat) : Action Unit := do
  modify fun s => s.onMachine fun m => { m with clock := max m.clock time }
  let m := (← get).machine
  if m.limit ≤ m.clock then throw .timeout

/-! ### Signals -/

/-- What a signal does to the shell itself. -/
def endure (n : Nat) : Action Unit := do
  let p ← process
  if !isFinal n && (p.traps.lookup n).isSome then
    if p.traps.lookup n ≠ some "" then
      onProcess fun p => { p with pending := p.pending ++ [n] }
  else if stopsProcess n then throw .timeout
  else if endsProcess n then throw (.killed n)

/-- Takes the signals that have come for the shell. -/
def receive : Action Unit := do
  let s ← get
  let p := s.process
  if p.isPart || s.machine.signals.isEmpty then return
  let mine := s.machine.signals.filter fun g => g.1 == p.number
  set { s with
    machine := { s.machine with signals := s.machine.signals.filter fun g => g.1 != p.number } }
  mine.forM fun g => endure g.2

/-- Puts a signal on its way to a shell. -/
def post (target signal : Nat) : Action Unit :=
  modify fun s => s.onMachine fun m => { m with signals := m.signals ++ [(target, signal)] }

/-- Sends a signal; false if there is no such process. -/
def send (target signal : Nat) : Action Bool := do
  let s ← get
  let p := s.process
  let m := s.machine
  if target = p.number ∨ target = 0 then
    if p.isPart then post p.number signal else endure signal
    return true
  if m.jobs.any fun (j : Job) => j.number == target && j.status.isNone then
    if endsProcess signal then
      let jobs := m.jobs.map fun (j : Job) =>
        if j.number = target then j.killedBy signal m.clock else j
      set { s with machine := { m with jobs := jobs } }
    return true
  if m.shells.contains target then
    post target signal
    return true
  return false

/-! ### Parts of a script -/

/-- The status that a shell sees of a process that has ended in some way. -/
def statusOf (s : State) : Except Flow Unit → Nat
  | .error (.killed n) => 128 + n
  | _ => s.process.status % 256

/-- What is told when a process has ended in some way. -/
def noteOf : Except Flow Unit → String
  | .error (.killed n) => deathText n
  | _ => ""

/-! ### Redirections -/

/-- What stands at a path that names something of the system, opened. -/
def deviceStream? (path : String) : Option Stream :=
  if path = "/dev/null" ∨ path = "/dev/tty" then some .nowhere
  else if path = "/dev/zero" then some .zeros
  else if path = "/dev/full" then some .full
  else none

/-- The descriptor that a path names. -/
def descriptorIn? (path : String) : Option Nat :=
  if path = "/dev/stdin" then some 0
  else if path = "/dev/stdout" then some 1
  else if path = "/dev/stderr" then some 2
  else
    match Text.stripPrefix? "/dev/fd/".toList path.toList with
    | some ds => Text.natOfDigits? ds
    | none =>
      (Text.stripPrefix? "/proc/self/fd/".toList path.toList).bind Text.natOfDigits?

/-- The words for a file that cannot be opened, or cannot be made. -/
def openReason (making : Bool) (e : IoError) : String :=
  match e with
  | .notFound | .notDirectory => if making then "Directory nonexistent" else "No such file"
  | e => reason e

/-- A descriptor for a handle. -/
def bind (descriptor handle : Nat) : Action Unit :=
  onProcess fun p =>
    { p with descriptors := (descriptor, handle) :: p.descriptors.filter (·.1 != descriptor) }

/-- Opens a handle for a descriptor. -/
def openFor (descriptor : Nat) (h : Handle) : Action Unit := do
  let (m, index) := (← get).machine.addHandle h
  modify fun s => { s with machine := m }
  bind descriptor index

/-- Opens a file for reading. -/
def openInput (descriptor : Nat) (path : String) : Action Unit := do
  let s ← get
  let fs := s.machine.files
  let whole := pathIn s.process.directory path
  let fail {α : Type} (e : IoError) : Action α :=
    raise ("cannot open " ++ path ++ ": " ++ openReason false e)
  if let some stream := deviceStream? path then openFor descriptor ⟨stream, true, false, 0⟩
  else if let some d := descriptorIn? path then
    match s.handle? d with
    | some index => bind descriptor index
    | none => fail .notFound
  else if isOutsideDirectory s.process.directory path then
    openFor descriptor ⟨.directory, true, false, 0⟩
  else
    match fs.resolve whole with
    | .error e => fail e
    | .ok place =>
      match fs.node? place with
      | some .dir => openFor descriptor ⟨.directory, true, false, 0⟩
      | some _ =>
        if FileSystem.wantsDirectory whole then fail .notDirectory
        openFor descriptor ⟨.file place false, true, false, 0⟩
      | none => fail .notFound

/-- How a file is opened for writing. -/
structure Opening where
  appends : Bool := false
  /-- What the file held stays. -/
  keeps : Bool := false
  reads : Bool := false
  /-- The file must not be there yet. -/
  fresh : Bool := false

/-- Opens a file for writing. -/
def openOutput (descriptor : Nat) (path : String) (o : Opening) : Action Unit := do
  let s ← get
  let fs := s.machine.files
  let fail {α : Type} (e : IoError) : Action α :=
    raise ("cannot create " ++ path ++ ": " ++ openReason true e)
  if let some stream := deviceStream? path then openFor descriptor ⟨stream, o.reads, true, 0⟩
  else if let some d := descriptorIn? path then
    match s.handle? d with
    | some index => bind descriptor index
    | none => fail .notFound
  else if isOutsideDirectory s.process.directory path then fail .isDirectory
  else
    match fs.writable (pathIn s.process.directory path) with
    | .error e => fail e
    | .ok place =>
      let old := fs.node? place
      if o.fresh && old.isSome then fail .alreadyExists
      let files := if old.isSome && o.keeps then fs else fs.put place (.file (.text ""))
      modify fun s => s.onMachine fun m => { m with files := files }
      openFor descriptor ⟨.file place o.appends, o.reads, true, 0⟩

/-- Makes a descriptor stand for what another one does, or for nothing. -/
def duplicate (descriptor : Nat) (target : String) : Action Unit := do
  match target.toList with
  | ['-'] =>
    onProcess fun p => { p with descriptors := p.descriptors.filter (·.1 != descriptor) }
  | [c] =>
    if !c.isDigit then raise "Syntax error: Bad fd number"
    match (← get).handle? (c.toNat - 48) with
    | some index => bind descriptor index
    | none => raise (target ++ ": Bad file descriptor")
  | _ => raise "Syntax error: Bad fd number"

/-- Carries out a redirection to a target; for a text in the script that is the text. -/
def follow (descriptor : Nat) (kind : RedirectKind) (target : String) : Action Unit := do
  match kind with
  | .read => openInput descriptor target
  | .write =>
    openOutput descriptor target { fresh := (← process).options.keepsFiles }
  | .overwrite => openOutput descriptor target {}
  | .append => openOutput descriptor target { appends := true, keeps := true }
  | .readWrite => openOutput descriptor target { keeps := true, reads := true }
  | .duplicate => duplicate descriptor target
  | .inline _ => openFor descriptor ⟨.bytes (Text.toBytes target) 0, true, false, 0⟩

end Action

end HarnessRepair.Shell
