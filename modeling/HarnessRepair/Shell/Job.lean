import HarnessRepair.Shell.Builtin.Setting

/-!
# Commands in the background

A command in the background has a clock of its own, which starts with it.  What it does is
settled as late as possible: when somebody waits for it, when time passes, and at the end.

## Main definitions

* `settleJobs` — what has been done in the background by a time.
* `pause` — lets time pass.
* `startJob`, `waitCommand`, `showJobs` — commands in the background.
* `killCommand` — sends signals.
-/

namespace HarnessRepair.Shell

open Shell.Action

/-! ### Time -/

/-- The number of milliseconds that a duration writes. -/
def milliseconds? (s : String) : Option Nat :=
  let (body, unit) := match s.toList.reverse with
    | 's' :: rest => (rest.reverse, 1000)
    | 'm' :: rest => (rest.reverse, 60000)
    | 'h' :: rest => (rest.reverse, 3600000)
    | 'd' :: rest => (rest.reverse, 86400000)
    | rest => (rest.reverse, 1000)
  match leadingReal body with
  | some (.finite x, []) =>
    if x.negative && x.mantissa != 0 then none
    else
      let (num, den) := x.ratio
      some ((num * unit + den - 1) / den)
  | some (.infinite false, []) => some 1000000000000
  | _ => none

/-! ### Jobs -/

/-- Whether a command in the background keeps the output of the run open. -/
def holdsOutput (j : Job) : Bool :=
  let own := match j.script with
    | .simple _ _ _ redirects | .subshell _ _ redirects => redirects
    | _ => []
  let handles := own.foldl
    (fun ds r =>
      match r with
      | .mk d kind target =>
        let others := ds.filter fun (p : Nat × Nat) => p.1 != d
        match kind, (plainText target).toList with
        | .duplicate, [c] =>
          if c.isDigit then
            match ds.lookup (c.toNat - 48) with
            | some h => (d, h) :: others
            | none => others
          else others
        | _, _ => others)
    j.process.descriptors
  handles.any fun (_, h) => h == 1 || h == 2

/-- A job that has ended in some way. -/
def Job.endedBy (j : Job) (s : State) (result : Except Flow Unit) : Job :=
  { j with
    status := some (statusOf s result)
    signal := match result with
      | .error (.killed n) => some n
      | _ => none
    finish := s.machine.clock }

/-- The machine with a job in place of the one with its number. -/
def Machine.putJob (m : Machine) (j : Job) : Machine :=
  { m with jobs := m.jobs.map fun (k : Job) => if k.number = j.number then j else k }

/-- What a job does from its start on, and how it ends.  What others do in the meantime is
left to them. -/
def performJob (run : Script → Action Unit) (s : State) (j : Job) : Except Flow Unit × State :=
  let m := s.machine
  let (result, after) := (run j.script).run
    { process := j.process, machine := { m with clock := j.start, oldestJob := m.nextNumber } }
  (result, after.onMachine fun n => { n with oldestJob := m.oldestJob })

/-- Commits the job that ends first of those that end by a time; false if there is none. -/
def settleNext (run : Script → Action Unit) (time : Nat) : Action Bool := do
  let s ← get
  let pending := s.machine.jobs.filter fun (j : Job) =>
    j.status.isNone && s.machine.oldestJob ≤ j.number
  let ends := pending.filterMap fun j =>
    match performJob run s j with
    | (.error .timeout, _) => none
    | (result, after) =>
      if after.machine.clock ≤ time then some (j.endedBy after result, after) else none
  let first := ends.foldl
    (fun best (e : Job × State) =>
      match best with
      | none => some e
      | some (b : Job × State) => if e.1.finish < b.1.finish then some e else some b)
    none
  match first with
  | none => return false
  | some (j, after) =>
    let m := { after.machine with clock := s.machine.clock }
    set { s with machine := m.putJob j }
    return true

/-- Commits the jobs that end by a time. -/
def settleJobs (run : Script → Action Unit) (time : Nat) : Action Unit := do
  let count := (← get).machine.jobs.length
  repeating (count + 64) (settleNext run time)

/-- Lets time pass, with what happens in the background. -/
def pause (run : Script → Action Unit) (duration : Nat) : Action Unit := do
  let time := (← get).machine.clock + duration
  settleJobs run time
  passTo time

/-- Makes room for a process: the place of a command that has been waited for may be taken. -/
def makeRoom : Action Unit := do
  let s ← get
  let isSettled (number : Nat) : Bool :=
    s.machine.jobs.any fun (j : Job) => j.number == number && j.awaited
  onProcess (·.freePlace isSettled)

/-- Starts a command in the background. -/
def startJob (script : Script) : Action Unit := do
  makeRoom
  let s ← get
  let number := s.machine.nextNumber
  let (m, index) := s.machine.addHandle ⟨.nowhere, true, false, 0⟩
  let part := s.process.part
  let j : Job :=
    { number := number
      process := { part with descriptors := (0, index) :: part.descriptors.filter (·.1 != 0) }
      script := script
      start := m.clock }
  set { s with machine := { m with jobs := m.jobs ++ [j], nextNumber := number + 1 } }
  onProcess (·.addJob number)

/-- The job with a number. -/
def job? (number : Nat) : Action (Option Job) := do
  return (← get).machine.jobs.find? fun (j : Job) => j.number == number

/-- Waits for one command in the background, and answers its status. -/
def waitForJob (run : Script → Action Unit) (number : Nat) : Action Nat := do
  let limit := (← get).machine.limit
  repeating ((← get).machine.jobs.length + 64) do
    match ← job? number with
    | some j => if j.status.isSome then return false else settleNext run limit
    | none => return false
  match ← job? number with
  | some j =>
    match j.status with
    | some status =>
      passTo j.finish
      if let some n := j.signal then
        if !j.awaited && !(deathText n).isEmpty then modify fun s => s.complain (deathText n)
      modify fun s => s.onMachine fun m => m.putJob { j with awaited := true }
      return status
    | none => throw .timeout
  | none => return 127

/-- Waits for all commands in the background. -/
def waitForAll (run : Script → Action Unit) : Action Unit := do
  let limit := (← get).machine.limit
  settleJobs run limit
  let p ← process
  for number in p.jobNumbers do
    if let some j ← job? number then
      if j.status.isNone then throw .timeout
      passTo j.finish
      modify fun s => s.onMachine fun m => m.putJob { j with awaited := true }

/-- The number of the job that an argument names. -/
def jobNumber (arg : String) : Action Nat := do
  match arg.toList with
  | '%' :: name =>
    let p ← process
    let found : Option Nat :=
      if name.isEmpty ∨ name = ['%'] ∨ name = ['+'] then p.jobNumbers.getLast?
      else if name = ['-'] then p.jobNumbers.dropLast.getLast?
      else (Text.natOfDigits? name).bind fun place => p.jobs.lookup place
    match found with
    | some n => return n
    | none => raise ("No such job: " ++ arg)
  | _ => number arg

/-- Waits for commands in the background. -/
def waitCommand (run : Script → Action Unit) : Builtin := fun args => do
  match ← plainArguments args with
  | [] =>
    waitForAll run
    return 0
  | names =>
    names.foldlM
      (fun _ name => do
        let n ← jobNumber name
        if (← process).jobNumbers.contains n then waitForJob run n else return 127)
      127

/-- Shows the commands in the background. -/
def showJobs (run : Script → Action Unit) : Builtin := fun args => do
  let (choices, operands) ← flags "lp" "" args
  settleJobs run (← get).machine.clock
  let p ← process
  let wanted ← operands.mapM jobNumber
  let rows := p.jobs.reverse.filter fun j => wanted.isEmpty || wanted.contains j.2
  rows.forM fun (place, n) => do
    if let some j ← job? n then
      let left := (← process).jobNumbers
      let sign :=
        if left.getLast? = some n then "+" else if left.dropLast.getLast? = some n then "-" else " "
      let text := match j.status, j.signal with
        | none, _ => "Running"
        | _, some signal => deathText signal
        | some 0, _ => "Done"
        | some status, _ => "Done(" ++ toString status ++ ")"
      if choices.any (·.1 == 'p') then sayLine (toString n)
      else
        let front := "[" ++ toString place ++ "] " ++ sign ++ " " ++
          (if choices.any (·.1 == 'l') then toString n ++ " " else "") ++ text
        sayLine (front ++ String.ofList (List.replicate (33 - front.length) ' '))
      if j.status.isSome then onProcess fun p => { p with jobs := p.jobs.filter (·.2 != n) }
  return 0

/-! ### Signals -/

/-- How to call the command that sends signals. -/
def killUsage : String :=
  "Usage: kill [-s sigspec | -signum | -sigspec] [pid | job]... or\nkill -l [exitstatus]"

/-- The signal that options ask for, whether names are asked for, and the operands. -/
def killOptions (args : List String) : Action (Option Nat × Bool × List String) := do
  match args with
  | first :: rest =>
    match first.toList with
    | '-' :: name =>
      match signalNumber? 1 (String.ofList name) with
      | some n => return (some n, false, rest)
      | none =>
        let (choices, operands) ← flags "l" "s" args
        let signal ← match choices.reverse.lookup 's' with
          | some name =>
            match signalNumber? 1 name with
            | some n => pure (some n)
            | none => raise ("invalid signal number or name: " ++ name)
          | none => pure none
        return (signal, choices.any (·.1 == 'l'), operands)
    | _ => return (none, false, args)
  | [] => raise killUsage

/-- Sends a signal to a process; what the process has done up to now is done first. -/
def sendTo (run : Script → Action Unit) (target signal : Nat) : Action Bool := do
  let s ← get
  settleJobs run s.machine.clock
  let s ← get
  let pending := s.machine.jobs.find? fun (j : Job) => j.number == target && j.status.isNone
  if let some j := pending then
    if j.start < s.machine.clock && endsProcess signal then
      let early : State := { s with machine := { s.machine with limit := s.machine.clock } }
      let (_, after) := performJob run early j
      set { s with
        machine := { after.machine with clock := s.machine.clock, limit := s.machine.limit } }
  send target signal

/-- Sends signals. -/
def killCommand (run : Script → Action Unit) : Builtin := fun args => do
  let (signal, lists, operands) ← killOptions args
  if lists && signal.isSome || !lists && operands.isEmpty then raise killUsage
  if lists then
    match operands with
    | [] => (List.range signalLimit).forM fun n => sayLine (if n = 0 then "0" else signalName n)
    | s :: _ =>
      let n ← number s
      let n := if 128 < n then n - 128 else n
      if n = 0 ∨ signalLimit ≤ n then raise ("invalid signal number or exit status: " ++ s)
      sayLine (signalName n)
    return 0
  let signal := signal.getD 15
  worst operands fun arg => do
    let absent : Action Nat := do
      warn "No such process\n"
      return 1
    match arg.toList with
    | '%' :: _ =>
      discard (jobNumber arg)
      absent
    | '-' :: ds =>
      let n ← number (String.ofList ds)
      if ← sendTo run n signal then return 0 else absent
    | _ =>
      let n ← number arg
      if ← sendTo run n signal then return 0 else absent

/-- Waits as long as the arguments say. -/
def sleepFor (run : Script → Action Unit) (name : String) (args : List String) : Action Unit := do
  let help : Action Unit := do
    announce ("Try '" ++ name ++ " --help' for more information.")
    finish 1
  match readOptions ⟨"", "", []⟩ args with
  | .error e =>
    announce (name ++ ": " ++ e)
    help
  | .ok (_, []) =>
    announce (name ++ ": missing operand")
    help
  | .ok (_, operands) =>
    let bad := operands.filter fun s => (milliseconds? s).isNone
    if bad.isEmpty then
      pause run (operands.foldl (fun n s => n + (milliseconds? s).getD 0) 0)
      finish 0
    else
      bad.forM fun s => announce (name ++ ": invalid time interval " ++ inQuotes s)
      help

end HarnessRepair.Shell
