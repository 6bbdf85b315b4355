import HarnessRepair.CommandLine.Scan
import HarnessRepair.Pipeline.Mode
import HarnessRepair.Settings.Variable

/-!
# The command line

The program has two commands: one runs a mode on a target, the other repairs the
harnesses of a batch file.  Some options are understood on both levels; what is said
behind the command wins.

## Main definitions

* `rootLevel`, `runLevel`, `batchLevel` — the options.
* `Request`, `Invocation` — what is asked for.
* `Invocation.ofArguments` — reading the arguments.
-/

namespace HarnessRepair.CommandLine

/-! ### Options -/

/-- The settings file. -/
def configOption : OptionRule := ⟨"config", some 'c', .single .path⟩

/-- The variable that stands in for the settings file. -/
def configVariable : String := "PROOFMEND_CONFIG"

/-- Options that are understood on every level. -/
def sharedOptions : List OptionRule :=
  [⟨"json", some 'j', .flag⟩, configOption, ⟨"help", some 'h', .help⟩]

/-- In front of a command. -/
def rootLevel : Level where
  options := sharedOptions ++ [⟨"version", some 'V', .version⟩]
  commands := ["run", "batch", "help"]

/-- Behind `run`. -/
def runLevel : Level where
  options := sharedOptions ++
    [⟨"target-function-name", none, .single .text⟩, ⟨"root-dir", none, .single .path⟩,
      ⟨"harness-path", none, .single .path⟩, ⟨"target-file-path", none, .single .path⟩]
  positional := some ⟨"mode", none, .single (.oneOf (PipelineMode.modes.map (·.name)))⟩

/-- Behind `batch`. -/
def batchLevel : Level where
  options := sharedOptions ++
    [⟨"file", some 'f', .single .path⟩, ⟨"only", none, .list⟩, ⟨"test-mode", none, .flag⟩,
      ⟨"mode", none, .single (.oneOf (RepairMode.all.map (·.name)))⟩]

/-! ### Requests -/

/-- What a command is asked to do. -/
inductive Request where
  /-- Run a mode on a target. -/
  | run (mode : PipelineMode) (target : HarnessTarget)
  /-- Repair the harnesses of a batch file. -/
  | batch (file : String) (only : List String) (testMode : Bool) (mode : RepairMode)
  deriving DecidableEq, Repr

/-- What the program is asked to do, and how. -/
structure Invocation where
  json : Bool
  /-- The settings file, if one is named. -/
  config : Option String
  request : Request
  deriving DecidableEq, Repr

/-- The request behind `run`, if all that it needs is given. -/
def runRequest? (s : Scan) : Option Request := do
  let mode ← (← s.value? "mode") |> PipelineMode.ofName?
  return .run mode (.ofLayout (← s.value? "target-function-name") (← s.value? "root-dir")
    (← s.value? "harness-path") (some (← s.value? "target-file-path")))

/-- The request behind `batch`, if all that it needs is given. -/
def batchRequest? (s : Scan) : Option Request := do
  return .batch (← s.value? "file") ((s.values? "only").getD []) (s.has "test-mode")
    (((s.value? "mode").bind RepairMode.ofName?).getD .errors)

/-- The level behind a command, and its request. -/
def commandOf? : String → Option (Level × (Scan → Option Request))
  | "run" => some (runLevel, runRequest?)
  | "batch" => some (batchLevel, batchRequest?)
  | _ => none

/-! ### Reading -/

/-- Ends a level: accepts the last option, and checks the variable that stands in for an
option that is not given. -/
def close (env : Environment) (s : Scan) : Except ArgumentError Scan :=
  s.settle.bind fun s =>
    if s.has configOption.name then .ok s
    else
      match env.get? configVariable with
      | some v => if ValueKind.path.admits v then .ok s else .error .valueInvalid
      | none => .ok s

/-- What is said of arguments without a command. -/
def withoutCommand (env : Environment) (s : Scan) : ArgumentError :=
  if s.given.isEmpty && (env.get? configVariable).isNone then .nothingGiven else .commandMissing

/-- What is said to `help` and the names behind it. -/
def helpOn : List String → ArgumentError
  | [] => .helpAsked
  | [name] => if rootLevel.commands.contains name then .helpAsked else .commandUnknown
  | _ => .commandUnknown

/-- The whole of what is asked for, from what stands in front of the command and behind
it. -/
def invocationOf (env : Environment) (front behind : Scan) (request : Request) : Invocation where
  json := front.has "json" || behind.has "json"
  config := (behind.value? configOption.name).or
    ((front.value? configOption.name).or (env.get? configVariable))
  request := request

/-- Reads a command and what is behind it. -/
def readCommand (env : Environment) (name : String) (args : List String) :
    Except ArgumentError (Scan × Request) :=
  match commandOf? name with
  | none => .error (helpOn args)
  | some (level, request?) => do
    let (s, _) ← level.scan {} args
    let s ← close env s
    match request? s with
    | some request => return (s, request)
    | none => .error .optionMissing

/-- What the arguments of the program ask for. -/
def Invocation.ofArguments (env : Environment) (args : List String) :
    Except ArgumentError Invocation := do
  match ← rootLevel.scan {} args with
  | (front, []) =>
    let front ← close env front
    .error (withoutCommand env front)
  | (front, name :: rest) =>
    let (behind, request) ← readCommand env name rest
    let front ← close env front
    return invocationOf env front behind request

end HarnessRepair.CommandLine
