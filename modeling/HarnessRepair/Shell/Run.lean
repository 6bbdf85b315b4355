import HarnessRepair.Shell.Call
import HarnessRepair.Shell.Expand

/-!
# Running scripts

A script is run command by command in the state of a shell.  Functions and commands of
the shell change that state; parts of scripts and programs run in processes of their own.

## Main definitions

* `Circumstance` — how a script is run.
* `runScript`, `runText`, `runProgram` — scripts, texts of scripts, and programs.
* `concluding` — an action with the command for the end of the shell behind it.
-/

namespace HarnessRepair.Shell

open Shell.Action

/-- How a script is run. -/
structure Circumstance where
  /-- Its status is looked at, so that a failure ends nothing. -/
  watched : Bool := false
  /-- Nothing comes behind it in its shell. -/
  last : Bool := false

/-- The circumstance of a part behind which something comes. -/
def Circumstance.inner (c : Circumstance) : Circumstance := { c with last := false }

/-- The circumstance of a condition. -/
def Circumstance.condition : Circumstance := { watched := true }

/-- Ends the shell if a command has failed and that is asked for. -/
def checkFailure (c : Circumstance) : Action Unit := do
  let p ← process
  if p.options.stopsOnFailure && !c.watched && p.status != 0 then throw .exit

/-- How a round of a loop ends. -/
inductive Round where
  | whole
  | cutShort
  | left
  deriving DecidableEq, Repr

/-- A part of a loop, which may end a round or the loop. -/
def round (a : Action Unit) : Action Round :=
  ending a fun result =>
    match result with
    | .ok () => pure .whole
    | .error (.leaveLoop n) => if n ≤ 1 then pure .left else throw (.leaveLoop (n - 1))
    | .error (.nextRound n) => if n ≤ 1 then pure .cutShort else throw (.nextRound (n - 1))
    | .error e => throw e

/-- An action inside of one more loop. -/
def insideLoop {α : Type} (a : Action α) : Action α := do
  onProcess fun p => { p with loops := p.loops + 1 }
  protecting a fun s => s.onProcess fun p => { p with loops := p.loops - 1 }

/-- The most rounds of a loop. -/
def roundLimit : Nat := 1000000000

/-- The most commands in a part of a pipeline whose output nobody may want any more. -/
def pipeSteps : Nat := 60000

/-- How deep commands may stand in one another. -/
def depthLimit : Nat := 5000

/-- Tells that commands stand too deep in one another. -/
def tooDeep {α : Type} : Action α := throw (.killed 11)

/-- An action whose descriptors are put back when it ends. -/
def keepingDescriptors {α : Type} (a : Action α) : Action α := do
  let before := (← process).descriptors
  protecting a fun s => s.onProcess fun p => { p with descriptors := before }

/-- An action that is a command of the shell with a name. -/
def asCommand {α : Type} (name : String) (a : Action α) : Action α := do
  let before := (← process).command
  onProcess fun p => { p with command := some name }
  protecting a fun s => s.onProcess fun p => { p with command := before }

/-- Runs a command of the shell, and writes what it has said. -/
def performBuiltin (name : String) (a : Action Nat) : Action Unit :=
  asCommand name do
    ending (do finish (← a)) fun result => do
      if !(← flushSaid) then
        warn (name ++ ": I/O error")
        finish (max 1 (← process).status)
      match result with
      | .ok () => return
      | .error e => throw e

/-- The script in a file, from the input or from a path. -/
def scriptText (s : State) (place : Place) : String :=
  match s.machine.files.node? place with
  | some (.file c) => Text.ofBytes c.bytes
  | _ => ""

/-- The words behind the sign with which a script names the program that runs it. -/
def interpreter? (text : String) : Option (List String) :=
  (Text.stripPrefix? "#!".toList text.toList).map fun rest =>
    let line := String.ofList (rest.takeWhile (· != '\n'))
    let words := (Text.splitChars isSeparatorBlank line.toList).filter (!·.isEmpty)
    match words.map String.ofList with
    | program :: arg :: more => [program, " ".intercalate (arg :: more)]
    | words => words

/-- The redirections with the texts of their targets. -/
abbrev Route := List (Nat × RedirectKind × String)

/-- Carries out redirections; false if one of them is not possible. -/
def followAll (route : Route) : Action Bool :=
  ending (route.forM fun (d, kind, target) => follow d kind target) fun result =>
    match result with
    | .ok () => pure true
    | .error .failed => pure false
    | .error e => throw e

/-- Makes a new buffer, and runs an action with its output going there. -/
def capturing {α : Type} (a : Action α) : Action (α × List UInt8) := do
  let s ← get
  let n := s.machine.buffers.length
  let m := { s.machine with buffers := s.machine.buffers ++ [#[]] }
  let (m, index) := m.addHandle ⟨.buffer n, false, true, 0⟩
  set { s with machine := m }
  let result ← keepingDescriptors do
    bind 1 index
    a
  return (result, (((← get).machine.buffers)[n]?.getD #[]).bytes)

/-- The line of a command that is shown as it runs. -/
def shownCommand (mark : String) (assignments : List (String × String)) (words : List String) :
    String :=
  mark ++ " ".intercalate ((assignments.map fun (name, value) => name ++ "=" ++ value) ++ words)

/-- Takes the variables with some names back to what they were. -/
def restoreVariables (names : List String) (before : Process) (p : Process) : Process :=
  names.foldl
    (fun p name =>
      match before.entry? name with
      | some v => p.putVariable name v
      | none => p.unset name)
    p

/-- Looks for the program that a part of a pipeline calls. -/
def lookAhead (script : Script) : Action Unit := do
  if let .simple _ _ (first :: _) _ := script then
    if let some name := bareText? first then
      let s ← get
      let isOwn := (s.process.functions.lookup name).isSome || builtinNames.contains name
      if isName name && !isOwn && (findProgram s name).toOption.isSome then
        onProcess (·.remember name)

/-- An action that looks for programs in the usual places. -/
def withUsualPath {α : Type} (a : Action α) : Action α := do
  let before ← process
  onProcess fun p => p.set "PATH" usualPath
  protecting a fun s =>
    s.onProcess fun p =>
      let p := match before.entry? "PATH" with
        | some v => p.putVariable "PATH" v
        | none => p.unset "PATH"
      { p with remembered := before.remembered }

mutual

/-- Runs a script. -/
def runScript : Nat → Circumstance → Script → Action Unit
  | 0, _, _ => tooDeep
  | fuel + 1, c, script => do
    if (← process).options.onlyReads then return
    runTraps fuel
    let atLine (line : Nat) : Action Unit := onProcess fun p => { p with line := line }
    match script with
    | .nothing => pure ()
    | .simple line assignments words redirects =>
      countStep
      atLine line
      runSimple fuel c assignments words redirects
      checkFailure c
    | .sequence a b =>
      runScript fuel c.inner a
      runScript fuel c b
    | .andThen a b =>
      runScript fuel .condition a
      if (← process).status = 0 then runScript fuel c b
    | .orElse a b =>
      runScript fuel .condition a
      if (← process).status ≠ 0 then runScript fuel c b
    | .background a =>
      startJob a
      finish 0
    | .negate a =>
      runScript fuel .condition a
      finish (if (← process).status = 0 then 1 else 0)
    | .pipeline commands =>
      runPipeline fuel c commands
      checkFailure c
    | .redirected line a redirects =>
      atLine line
      let route ← expandRoute fuel redirects
      keepingDescriptors do
        if ← followAll route then runScript fuel c.inner a else finish 2
    | .subshell line a redirects =>
      atLine line
      let route ← expandRoute fuel redirects
      let body : Action Unit := do
        if ← followAll route then runScript fuel { c with last := true } a else finish 2
      if c.last && (← process).traps.isEmpty then
        body
        throw .exit
      finish (← inPart fuel body)
      checkFailure c
    | .loop whileFails condition body => runLoop fuel c.inner whileFails condition body
    | .each line name items body =>
      atLine line
      let values ← expandWords fuel items
      insideLoop (runEach fuel c.inner name body values)
    | .choice condition yes no =>
      runScript fuel .condition condition
      if (← process).status = 0 then runScript fuel c yes
      else
        match no with
        | .nothing => finish 0
        | no => runScript fuel c no
    | .cases line subject branches =>
      atLine line
      let text ← expandText (runInner fuel) fuel false subject
      runCases fuel c text.toList branches
    | .define name body =>
      onProcess fun p => { p with functions := (name, body) :: p.functions.filter (·.1 != name) }
      finish 0
    runTraps fuel

/-- Runs the commands for the signals that have come. -/
def runTraps : Nat → Action Unit
  | 0 => tooDeep
  | fuel + 1 => do
    let p ← process
    if p.pending.isEmpty then return
    let signals := p.pending.mergeSort fun a b => decide (a ≤ b)
    onProcess fun p => { p with pending := [] }
    signals.forM fun n => do
      if let some text := (← process).traps.lookup n then
        onProcess fun q => { q with trapStatus := some p.status }
        protecting (runText fuel {} text) fun s =>
          s.onProcess fun q => { q with trapStatus := p.trapStatus }
        finish p.status

/-- Runs a loop with a condition. -/
def runLoop : Nat → Circumstance → Bool → Script → Script → Action Unit
  | 0, _, _, _, _ => tooDeep
  | fuel + 1, c, whileFails, condition, body =>
    insideLoop do
      let status ← iterate roundLimit
        (fun status => do
          countStep
          match ← round (runScript fuel .condition condition) with
          | .left => return .inr status
          | .cutShort => return .inl status
          | .whole =>
            if ((← process).status = 0) = whileFails then return .inr status
            match ← round (runScript fuel c body) with
            | .left => return .inr (← process).status
            | _ => return .inl (← process).status)
        0
      finish status

/-- Runs a script for each of some values. -/
def runEach : Nat → Circumstance → String → Script → List String → Action Unit
  | 0, _, _, _, _ => tooDeep
  | fuel + 1, c, name, body, values => do
    finish 0
    iterate (values.length + 1)
      (fun values => do
        match values with
        | [] => return .inr ()
        | v :: rest =>
          countStep
          assign name v
          match ← round (runScript fuel c body) with
          | .left => return .inr ()
          | _ => return .inl rest)
      values

/-- Runs the first branch of which a pattern fits. -/
def runCases : Nat → Circumstance → List Char → List (List Word × Script) → Action Unit
  | 0, _, _, _ => tooDeep
  | fuel + 1, c, text, branches => do
    match branches with
    | [] => finish 0
    | (patterns, body) :: rest =>
      let fitting ← patterns.anyM fun w => do
        return fits (globsOf (← expandMarks (runInner fuel) fuel w)) text
      if !fitting then runCases fuel c text rest
      else
        match body with
        | .nothing => finish 0
        | body => runScript fuel c body

/-- Runs commands of which each reads what the one before writes. -/
def runPipeline : Nat → Circumstance → List Script → Action Unit
  | 0, _, _ => tooDeep
  | fuel + 1, c, commands => do
    commands.forM lookAhead
    let outer ← process
    let start := (← get).machine.clock
    let part (script : Script) : Action Unit :=
      runScript fuel { watched := c.watched, last := true } script
    let status ← keepingDescriptors do
      iterate (commands.length + 1)
        (fun (rest, time) => do
          modify fun s => s.onMachine fun m => { m with clock := start }
          match rest with
          | [] => return .inr outer.status
          | [script] =>
            let status ← inPart fuel (part script)
            passTo time
            return .inr status
          | script :: rest =>
            let (_, bs) ← capturing (inPipe fuel (part script))
            let time := max time (← get).machine.clock
            let (m, index) := (← get).machine.addHandle ⟨.bytes bs time, true, false, 0⟩
            modify fun s => { s with machine := m }
            bind 0 index
            return .inl (rest, time))
        (commands, start)
    finish status

/-- Runs a part of a pipeline that is not the last one: when it does not come to an end
of its own, nobody wants its output any more. -/
def inPipe : Nat → Action Unit → Action Nat
  | 0, _ => tooDeep
  | fuel + 1, a => do
    let before := (← get).machine.steps
    let allowed := min before pipeSteps
    modify fun s => s.onMachine fun m => { m with steps := allowed }
    let status ← inPart fuel (ending a fun result => do
      match result with
      | .error .timeout =>
        let m := (← get).machine
        if m.steps = 0 ∧ m.clock < m.limit then throw (.killed 13) else throw .timeout
      | .error e => throw e
      | .ok () => return)
    modify fun s => s.onMachine fun m => { m with steps := before - (allowed - m.steps) }
    return status

/-- Runs an action in a process for a part of the script. -/
def inPart : Nat → Action Unit → Action Nat
  | 0, _ => tooDeep
  | fuel + 1, a => inProcess Process.part (concluding fuel a)

/-- An action with the command for the end of the shell behind it. -/
def concluding : Nat → Action Unit → Action Unit
  | 0, _ => tooDeep
  | fuel + 1, a =>
    ending a fun result => do
      match result with
      | .error (.killed n) => throw (.killed n)
      | .error .timeout => throw .timeout
      | _ =>
        let p ← process
        match p.traps.lookup 0 with
        | none => return
        | some text =>
          onProcess fun p =>
            { p with
              traps := p.traps.filter (·.1 != 0)
              trapStatus := some p.status
              loops := 0 }
          ending (runText fuel {} text) fun result =>
            match result with
            | .ok () | .error .returned => finish p.status
            | .error (.killed n) => throw (.killed n)
            | .error .timeout => throw .timeout
            | .error _ => return

/-- Runs the script in a word, and answers what it writes. -/
def runInner : Nat → Script → Action (List UInt8)
  | 0, _ => tooDeep
  | fuel + 1, script => do
    if script matches .nothing then return []
    let (status, bs) ← capturing (inPart fuel (runScript fuel { last := true } script))
    onProcess fun p => { p with innerStatus := some status }
    return bs

/-- The fields of some words. -/
def expandWords : Nat → List Word → Action (List String)
  | 0, _ => tooDeep
  | fuel + 1, words => do
    let fields ← words.mapM fun w => expandFields (runInner fuel) fuel w
    return fields.flatten

/-- The targets of redirections. -/
def expandRoute : Nat → List Redirect → Action Route
  | 0, _ => tooDeep
  | fuel + 1, redirects =>
    redirects.mapM fun r =>
      match r with
      | .mk d (.inline n) _ => do
        let w := ((← get).machine.inlines.lookup n).getD []
        return (d, .inline n, ← expandText (runInner fuel) fuel false w)
      | .mk d kind target => do
        return (d, kind, ← expandText (runInner fuel) fuel false target)

/-- The words of a command with its name in front; none if nothing is left of them. -/
def expandCommand : Nat → List Word → Action (List String)
  | 0, _ => tooDeep
  | fuel + 1, words => do
    match words with
    | [] => return []
    | w :: rest =>
      match ← expandFields (runInner fuel) fuel w with
      | [] => expandCommand fuel rest
      | name :: more =>
        let assigns := assigningBuiltins.contains name &&
          ((← process).functions.lookup name).isNone
        let fields ← rest.mapM fun w => do
          match if assigns then assignment? w else none with
          | some (target, value) =>
            return [target ++ "=" ++ (← expandText (runInner fuel) fuel true value)]
          | none => expandFields (runInner fuel) fuel w
        return name :: more ++ fields.flatten

/-- Runs a simple command. -/
def runSimple : Nat → Circumstance → List (String × Word) → List Word → List Redirect → Action Unit
  | 0, _, _, _, _ => tooDeep
  | fuel + 1, c, assignments, words, redirects => do
    onProcess fun p => { p with innerStatus := none }
    let before ← process
    let fields ← expandCommand fuel words
    let name := fields.headD ""
    let isFunction := (before.functions.lookup name).isSome
    let special := !fields.isEmpty && !isFunction && isSpecialBuiltin name
    let route ← expandRoute fuel redirects
    let a : Action Unit := do
      if !(← followAll route) then
        finish 2
        if special then throw .failed
        return
      let lasting := fields.isEmpty || special
      let names := assignments.map (·.1)
      let values ← assignments.mapM fun (name, w) => do
        let value ← expandText (runInner fuel) fuel true w
        assign name value
        if !fields.isEmpty && (!lasting || name == "exec") then
          onProcess fun p =>
            p.putVariable name
              { (p.entry? name).getD ⟨none, false, false⟩ with exported := true }
        return (name, value)
      let p ← process
      if p.options.showsCommands && !(fields.isEmpty && values.isEmpty) then
        let line := shownCommand ((p.get? "PS4").getD "") values fields
        modify fun s =>
          let outside := s.onProcess fun q => { q with descriptors := before.descriptors }
          let shown := outside.complain line
          shown.onProcess fun q => { q with descriptors := p.descriptors }
      match fields with
      | [] => finish ((← process).innerStatus.getD 0)
      | name :: args =>
        let call := callCommand fuel c isFunction name args
        if lasting then call
        else
          protecting call fun s =>
            s.onProcess fun p => restoreVariables names before p
    if name == "exec" && !isFunction then a else keepingDescriptors a

/-- Runs a command by its name. -/
def callCommand : Nat → Circumstance → Bool → String → List String → Action Unit
  | 0, _, _, _, _ => tooDeep
  | fuel + 1, c, isFunction, name, args => do
    if isFunction then
      if let some body := (← process).functions.lookup name then callFunction fuel c body args
    else if builtinNames.contains name then callBuiltin fuel c (isSpecialBuiltin name) name args
    else callProgram fuel c name args

/-- Runs a function. -/
def callFunction : Nat → Circumstance → Script → List String → Action Unit
  | 0, _, _, _ => tooDeep
  | fuel + 1, c, body, args => do
    let outer ← process
    onProcess fun p =>
      { p with
        arguments := args
        hidden := [] :: p.hidden
        hiddenOptions := none :: p.hiddenOptions
        loops := 0
        optionIndex := 1
        optionOffset := none }
    let whole := ending (runScript fuel c.inner body) fun result =>
      match result with
      | .ok () | .error .returned => pure ()
      | .error e => throw e
    protecting whole fun s =>
      s.onProcess fun p =>
        { leaveFrame p with
          arguments := outer.arguments
          loops := outer.loops
          optionIndex := outer.optionIndex
          optionOffset := outer.optionOffset }

/-- Runs a command of the shell. -/
def callBuiltin : Nat → Circumstance → Bool → String → List String → Action Unit
  | 0, _, _, _, _ => tooDeep
  | fuel + 1, c, special, name, args => do
    let job (script : Script) : Action Unit :=
      concluding fuel (runScript fuel { last := true } script)
    let a : Action Unit :=
      match plainBuiltin? name with
      | some builtin => performBuiltin name (builtin args)
      | none =>
        if name = "eval" then
          asCommand name (runText fuel c.inner (" ".intercalate args))
        else if name = "." then asCommand name (runFile fuel args)
        else if name = "exec" then runInstead fuel args
        else if name = "command" then runCommand fuel c args
        else if name = "wait" then performBuiltin name (waitCommand job args)
        else if name = "jobs" then performBuiltin name (showJobs job args)
        else performBuiltin name (killCommand job args)
    ending a fun result =>
      match result with
      | .ok () => pure ()
      | .error .failed => if special then throw .failed else pure ()
      | .error e => throw e

/-- Runs the commands in a file. -/
def runFile : Nat → List String → Action Unit
  | 0, _ => tooDeep
  | fuel + 1, args => do
    match ← plainArguments args with
    | [] => finish 0
    | path :: _ =>
      let s ← get
      let directory := s.process.directory
      let fs := s.machine.files
      let isFile (p : String) : Bool := fs.isFile (pathIn directory p)
      let found : Option String :=
        if path.toList.contains '/' then some path
        else
          (Text.splitOnChar ':' ((s.process.get? "PATH").getD "")).findSome? fun d =>
            let p := if d.isEmpty then path else d ++ "/" ++ path
            if isFile p then some p else none
      match found with
      | none => raise (path ++ ": not found")
      | some p =>
        if p = "/dev/null" ∨ isDirectoryIn fs directory p then finish 0
        else
          match fs.read (pathIn directory p) with
          | .error e => raise ("cannot open " ++ p ++ ": " ++ openReason false e)
          | .ok content =>
            asCommand p do
              ending (runText fuel {} (Text.ofBytes content.bytes)) fun result =>
                match result with
                | .ok () | .error .returned => pure ()
                | .error e => throw e

/-- Runs a program in place of the shell. -/
def runInstead : Nat → List String → Action Unit
  | 0, _ => tooDeep
  | fuel + 1, args =>
    asCommand "exec" do
      match ← plainArguments args with
      | [] => finish 0
      | name :: rest =>
        match findProgram (← get) name with
        | .error e =>
          quit (if name.toList.contains '/' then e.status else 127) (name ++ ": " ++ e.message)
        | .ok program =>
          onProcess fun p =>
            { p with traps := p.traps.filter fun t => t.2.isEmpty, command := none }
          execute fuel program name rest
          throw .exit

/-- Runs a command that is no function, or tells what a name stands for. -/
def runCommand : Nat → Circumstance → List String → Action Unit
  | 0, _, _ => tooDeep
  | fuel + 1, c, args => do
    match ← asCommand "command" (commandUse (args.length + 1) [] args) with
    | .run [] _ => finish 0
    | .run (name :: rest) usual =>
      let a : Action Unit :=
        if builtinNames.contains name then callBuiltin fuel c false name rest
        else callProgram fuel c.inner name rest
      if usual then withUsualPath a else a
    | .describe _ _ [] => finish 0
    | .describe verbose usual (name :: _) =>
      let a := performBuiltin "command" (describe verbose name)
      if usual then withUsualPath a else a

/-- Runs a program in a process of its own, or in place of a shell that has nothing else to
do. -/
def callProgram : Nat → Circumstance → String → List String → Action Unit
  | 0, _, _, _ => tooDeep
  | fuel + 1, c, name, args => do
    let p ← process
    match findProgram (← get) name with
    | .error e =>
      warn (name ++ ": " ++ e.message)
      finish (if name.toList.contains '/' then e.status else 127)
    | .ok program =>
      if !name.toList.contains '/' then onProcess (·.remember name)
      if c.last && p.traps.isEmpty then
        execute fuel program name args
        throw .exit
      else finish (← inProcess id (execute fuel program name args))

/-- Runs a program in the process at hand. -/
def execute : Nat → Program → String → List String → Action Unit
  | 0, _, _, _ => tooDeep
  | fuel + 1, program, name, args => do
    match program with
    | .system base _ => runProgram fuel base name args
    | .script path place =>
      let text := scriptText (← get) place
      let shown := if name.toList.contains '/' then name else path
      match interpreter? text with
      | some (first :: more) =>
        match findProgram (← get) first with
        | .ok (.system base _) => runProgram fuel base first (more ++ shown :: args)
        | _ =>
          warn (name ++ ": not found")
          finish 127
      | _ => runShell fuel "sh" (shown :: args)

/-- Runs a program of the system. -/
def runProgram : Nat → String → String → List String → Action Unit
  | 0, _, _, _ => tooDeep
  | fuel + 1, base, name, args => do
    let job (script : Script) : Action Unit :=
      concluding fuel (runScript fuel { last := true } script)
    if base = "sh" ∨ base = "dash" ∨ base = "bash" then runShell fuel name args
    else if base = "sleep" then sleepFor job name args
    else if base = "yes" then writeForever args
    else if base = "env" then runInEnvironment fuel name args
    else if base = "xargs" then runForWords fuel name args
    else if base = "timeout" then runForTime fuel name args
    else if ["nohup", "nice", "setsid", "stdbuf"].contains base then
      let words := args.dropWhile fun a => a.toList.head? == some '-'
      runWords fuel name words
    else if base = "kill" then performBuiltin name (killCommand job args)
    else if base = "test" ∨ base = "[" then
      let words := if base = "[" then args.dropLast else args
      match holds (← fileQuestions) words with
      | .ok b => finish (if b then 0 else 1)
      | .error e =>
        announce (name ++ ": " ++ e.message)
        finish 2
    else if base = "pwd" then
      let text := (← process).directory ++ "\n"
      modify fun s => (s.writeTo 1 (Text.toBytes text)).withStatus 0
    else if base = "which" then
      let s ← get
      let found := args.map fun a => (findProgram s a).toOption.map Program.path
      let text := String.join ((found.filterMap id).map (· ++ "\n"))
      modify fun s => s.writeTo 1 (Text.toBytes text)
      finish (if found.all Option.isSome && !args.isEmpty then 0 else 1)
    else
      match tool? base with
      | some tool => runTool name tool args
      | none => finish 0

/-- Runs the program that words call, for a program that runs others. -/
def runWords : Nat → String → List String → Action Unit
  | 0, _, _ => tooDeep
  | fuel + 1, caller, words => do
    match words with
    | [] =>
      announce (caller ++ ": missing operand")
      announce ("Try '" ++ caller ++ " --help' for more information.")
      finish 125
    | name :: args =>
      match findProgram (← get) name with
      | .ok program => execute fuel program name args
      | .error e =>
        let why := match e with
          | .notFound => "No such file or directory"
          | .notPermitted => "Permission denied"
        let text :=
          if caller = "timeout" then "failed to run command " ++ inQuotes name
          else if caller = "xargs" then name
          else inQuotes name
        announce (caller ++ ": " ++ text ++ ": " ++ why)
        finish e.status

/-- Runs a program with other variables. -/
def runInEnvironment : Nat → String → List String → Action Unit
  | 0, _, _ => tooDeep
  | fuel + 1, name, args => do
    let readBefore (args : List String) : List String :=
      -- Options end with the first word that is none.
      args.takeWhile fun a => a.toList.head? == some '-'
    let front := readBefore args
    let unsets := front.contains "-u"
    let (front, rest) :=
      if unsets then (["-u", args.getD 1 ""], args.drop 2) else (front, args.drop front.length)
    match front.find? fun a => !(["-i", "-", "-u", "--", "-0"].contains a) && !unsets with
    | some a =>
      announce (name ++ ": invalid option -- " ++ inQuotes (String.ofList ((a.toList.drop 1).take 1)))
      announce ("Try '" ++ name ++ " --help' for more information.")
      finish 125
    | none =>
      if front.contains "-i" || front.contains "-" then
        onProcess fun p =>
          { p with bindings := p.bindings.map fun (n, v) => (n, { v with exported := false }) }
      if unsets then onProcess fun p => p.unset (args.getD 1 "")
      let assignments := rest.takeWhile fun a => a.toList.contains '='
      assignments.forM fun a => do
        let (n, value) := splitAssignment a
        onProcess fun p => p.putVariable n ⟨value, true, false⟩
      match rest.drop assignments.length with
      | [] =>
        let lines := (← process).environment.map fun (n, v) => n ++ "=" ++ v ++ "\n"
        modify fun s => s.writeTo 1 (Text.toBytes (String.join lines))
        finish 0
      | words => runWords fuel name words

/-- Runs a program with the words of the input. -/
def runForWords : Nat → String → List String → Action Unit
  | 0, _, _ => tooDeep
  | fuel + 1, name, args => do
    let (front, command) := splitXargs (args.length + 1) args
    match readOptions xargsOptions front with
    | .error e =>
      announce (name ++ ": " ++ e)
      announce ("Try '" ++ name ++ " --help' for more information.")
      finish 1
    | .ok (choices, _) =>
      let s ← get
      let input := s.inputOf 0
      let (m, index) := (s.advance 0 input.length).machine.addHandle ⟨.nowhere, true, false, 0⟩
      set { s with machine := m }
      let command := if command.isEmpty then ["echo"] else command
      let (lines, quote) := xargsLines choices command (Text.ofBytes input)
      if let some c := quote then
        let kind := if c = '"' then "double" else "single"
        announce (name ++ ": unmatched " ++ kind ++
          " quote; by default quotes are special to xargs unless you use the -0 option")
      let worstOne ← keepingDescriptors do
        bind 0 index
        iterate (lines.length + 1)
          (fun (lines, status) => do
            match lines with
            | [] => return .inr status
            | words :: rest =>
              if isChosen choices 't' then announce (" ".intercalate words)
              let n ← inProcess id (runWords fuel name words)
              if n = 255 then
                announce (name ++ ": " ++ words.headD "" ++ ": exited with status 255; aborting")
                return .inr 124
              else if n = 126 ∨ n = 127 then return .inr n
              else return .inl (rest, if n = 0 then status else 123))
          (lines, 0)
      finish (if quote.isSome then 1 else worstOne)

/-- Runs a program for a limited time. -/
def runForTime : Nat → String → List String → Action Unit
  | 0, _, _ => tooDeep
  | fuel + 1, name, args => do
    let help : Action Unit := do
      announce ("Try '" ++ name ++ " --help' for more information.")
      finish 125
    let kills := (args.takeWhile fun a => a.toList.head? == some '-').any fun a =>
      a == "-s" || (Text.startsWith a "-s") || (Text.startsWith a "--signal")
    let words :=
      if args.head? = some "-s" ∨ args.head? = some "-k" then args.drop 2
      else args.dropWhile fun a => a.toList.head? == some '-'
    match words with
    | [] | [_] => help
    | time :: words =>
      match milliseconds? time with
      | none =>
        announce (name ++ ": invalid time interval " ++ inQuotes time)
        help
      | some n =>
        let s ← get
        let limit := s.machine.limit
        let deadline := if n = 0 then limit else min limit (s.machine.clock + n)
        let signal := if kills then (signalNumber? 1 (args.getD 1 "")).getD 15 else 15
        set { s with machine := { s.machine with limit := deadline } }
        ending (do finish (← inProcess id (runWords fuel name words))) fun result => do
          modify fun s => s.onMachine fun m => { m with limit := limit }
          match result with
          | .ok () => return
          | .error .timeout =>
            if limit ≤ deadline || (← get).machine.steps = 0 then throw .timeout
            if signal = 9 then throw (.killed 9)
            finish 124
          | .error e => throw e

/-- Runs another shell in place of the process at hand. -/
def runShell : Nat → String → List String → Action Unit
  | 0, _, _ => tooDeep
  | fuel + 1, name, args => do
    match readShellCall name (args.length + 1) { name := name } false args with
    | .error text =>
      announce text
      finish 2
    | .ok call =>
      let s ← get
      let directory := s.process.directory
      let source : Except String (String × Bool) :=
        match call.text, call.path with
        | some text, _ => .ok (text, true)
        | none, some path =>
          if isDirectoryIn s.machine.files directory path then .ok ("", false)
          else
            match s.machine.files.read (pathIn directory path) with
            | .ok c => .ok (Text.ofBytes c.bytes, false)
            | .error e => .error (name ++ ": 0: cannot open " ++ path ++ ": " ++ openReason false e)
        | none, none => .ok (Text.ofBytes (s.inputOf 0), false)
      match source with
      | .error text =>
        announce text
        finish 2
      | .ok (text, isCommand) =>
        let number := s.machine.nextNumber
        let readsInput := call.text.isNone && call.path.isNone
        let s := if readsInput then s.advance 0 (s.inputOf 0).length else s
        set { s with
          process := shellProcess s.process number call
          machine := { s.machine with
            nextNumber := number + 1
            shells := number :: s.machine.shells } }
        protecting (concluding fuel (runText fuel { last := isCommand } text)) fun s =>
          s.onMachine fun m => { m with shells := m.shells.filter (· != number) }

/-- Runs the commands of a text, line by line. -/
def runText : Nat → Circumstance → String → Action Unit
  | 0, _, _ => tooDeep
  | fuel + 1, c, text => do
    let start : Reader := .ofText text [] 0
    let any ← iterate (text.length + 2)
      (fun (r, any) => do
        let s ← get
        let r : Reader :=
          { r with
            aliases := s.process.aliases
            nextInline := s.machine.nextInline
            inlines := [] }
        match readLine.run r with
        | .error fault =>
          onProcess fun p => { p with line := fault.line }
          raise fault.message
        | .ok (found, r) =>
          modify fun s =>
            s.onMachine fun m =>
              { m with inlines := r.inlines ++ m.inlines, nextInline := r.nextInline }
          match found with
          | none => return .inr any
          | some script =>
            let ended := r.again && r.last == .endOfText
            runScript fuel { c with last := c.last && ended } script
            return .inl (r, any || !(script matches .nothing)))
      (start, false)
    if !any then finish 0

end

end HarnessRepair.Shell
