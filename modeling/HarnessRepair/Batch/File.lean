import HarnessRepair.Batch.Run
import HarnessRepair.Json.Reader
import HarnessRepair.Yaml.Decode
import HarnessRepair.Yaml.Document

/-!
# Batch files

A batch file lists harnesses, in JSON or in YAML.  Every harness needs a name and a
function, and no two share a name or a file.

## Main definitions

* `LineSpec`, `BatchEntry` — one harness of a batch.
* `BatchEntry.ofJson?`, `BatchEntry.ofYaml` — reading one.
* `checkBatch`, `loadBatch` — the entries of a batch file.
* `selectEntries` — those with some names.
-/

namespace HarnessRepair

open Json

/-! ### Entries -/

/-- A line to strip, or a placeholder for one that is not known yet. -/
inductive LineSpec where
  | line (n : Nat)
  | placeholder (s : String)
  deriving DecidableEq, Repr

namespace LineSpec

/-- The number of the line, if it is known. -/
def line? : LineSpec → Option Nat
  | .line n => some n
  | .placeholder _ => none

/-- The line as a JSON value. -/
def toJson : LineSpec → Value
  | .line n => .ofNat n
  | .placeholder s => .ofText s

/-- The line that a JSON value describes. -/
def ofJson? : Value → Option LineSpec
  | .string s => s.map .placeholder
  | v => v.word?.map .line

end LineSpec

/-- One harness of a batch. -/
structure BatchEntry where
  name : String
  harness : String
  targetFunction : String
  rootDir : Option String := none
  targetFile : Option String := none
  /-- Lines of the harness to strip before its session. -/
  linesToRemove : List LineSpec := []
  deriving DecidableEq, Repr

namespace BatchEntry

/-- The target of an entry.  The root directory is that of the harness unless the
entry names one. -/
def target (e : BatchEntry) : HarnessTarget :=
  { name := e.name
    harnessFile := e.harness
    targetFunction := e.targetFunction
    rootDir := e.rootDir.getD ((Path.parent? e.harness).getD ".")
    targetFile := e.targetFile }

/-- The lines to strip that are known, ascending, each once. -/
def lines (e : BatchEntry) : List Nat := ascending (e.linesToRemove.filterMap LineSpec.line?)

/-- The job of an entry. -/
def job (e : BatchEntry) : SessionJob := ⟨e.target, e.lines⟩

/-- The entry as a JSON value. -/
def toJson (e : BatchEntry) : Value :=
  .ofObject [("name", .ofText e.name), ("harness", .ofText e.harness),
    ("target_function", .ofText e.targetFunction), ("root_dir", .ofOption .ofText e.rootDir),
    ("target_file", .ofOption .ofText e.targetFile),
    ("preconditions_lines_to_remove", .array (e.linesToRemove.map LineSpec.toJson))]

/-- The entry that a JSON value describes. -/
def ofJson? (v : Value) : Option BatchEntry := do
  let r ← v.record? ["name", "harness", "target_function", "root_dir", "target_file",
    "preconditions_lines_to_remove"]
  return {
    name := ← r.required "name" Value.text?
    harness := ← r.required "harness" Value.text?
    targetFunction := ← r.required "target_function" Value.text?
    rootDir := ← r.optionalOrAbsent "root_dir" Value.text?
    targetFile := ← r.optionalOrAbsent "target_file" Value.text?
    linesToRemove :=
      ← r.orDefault "preconditions_lines_to_remove" [] (Value.list? LineSpec.ofJson?) }

/-- One field of an entry as a JSON value.  Where a text is asked for, an unquoted
scalar is one. -/
def fieldOfYaml (name : String) (n : Yaml.Node) : Yaml.Decoding Value := do
  if name = "name" ∨ name = "harness" ∨ name = "target_function" then
    return .ofText (← Yaml.textOf n)
  else if name = "root_dir" ∨ name = "target_file" then
    return .ofOption .ofText (← Yaml.optionalTextOf n)
  else if name = "preconditions_lines_to_remove" then
    return .array (← (← Yaml.itemsOf n).mapM (Yaml.valueOf Yaml.depthLimit))
  else return .null

/-- The entry that a YAML node describes. -/
def ofYaml (n : Yaml.Node) : Yaml.Decoding BatchEntry := do
  let fields ← (← Yaml.membersOf n).mapM fun (name, field) =>
    return (name, ← fieldOfYaml name field)
  ofJson? (.ofObject fields)

end BatchEntry

/-! ### Documents -/

/-- The entries of a JSON document. -/
def batchOfJson? (v : Value) : Option (List BatchEntry) := do
  (← v.record? ["harnesses"]).required "harnesses" (Value.list? BatchEntry.ofJson?)

/-- The entries of a YAML document. -/
def batchOfYaml (n : Yaml.Node) : Yaml.Decoding (List BatchEntry) := do
  match (← Yaml.membersOf n).filter fun (name, _) => name == "harnesses" with
  | [(_, harnesses)] => (← Yaml.itemsOf harnesses).mapM BatchEntry.ofYaml
  | _ => failure

/-- Whether a path ends in `.json`, in letters of either case. -/
def isJsonPath (path : String) : Bool :=
  (Path.extension? path).any fun e => e.toList.map Char.toLower == "json".toList

/-- The entries of the text of a batch file. -/
def readBatch? (path text : String) : Option (List BatchEntry) :=
  if isJsonPath path then (Json.parse? text).bind batchOfJson?
  else (Yaml.parse? text).bind fun d => d.decode? (batchOfYaml d.root)

/-! ### Checking -/

/-- The names and files of the entries that have been checked. -/
structure Listed where
  names : List String := []
  files : List FileKey := []

/-- Checks an entry against those before it. -/
def checkEntry (fs : FileSystem) (listed : Listed) (e : BatchEntry) :
    Except ConfigurationError Listed :=
  if Text.isBlankText e.name then .error (.invalidBatch "entry with an empty name")
  else if Text.isBlankText e.targetFunction then
    .error (.invalidBatch (e.name ++ ": target_function is empty"))
  else if listed.names.contains e.name then
    .error (.invalidBatch ("name " ++ e.name ++ " is listed more than once"))
  else (claim fs listed.files e.harness).map fun files => ⟨e.name :: listed.names, files⟩

/-- Checks entries against those before them. -/
def checkEntries (fs : FileSystem) : Listed → List BatchEntry → Except ConfigurationError Unit
  | _, [] => .ok ()
  | listed, e :: rest =>
    match checkEntry fs listed e with
    | .error failure => .error failure
    | .ok listed => checkEntries fs listed rest

/-- Checks the entries of a batch. -/
def checkBatch (fs : FileSystem) (entries : List BatchEntry) : Except ConfigurationError Unit :=
  if entries.isEmpty then .error (.invalidBatch "no harnesses listed")
  else checkEntries fs {} entries

/-- What is said of a batch file that cannot be decoded. -/
def undecodableBatch : String := "<parse error>"

/-- The entries of the batch file at a path. -/
def loadBatch (fs : FileSystem) (path : String) : Except ConfigurationError (List BatchEntry) :=
  match fs.readText path with
  | .error e => .error (.invalidBatch ("cannot read " ++ path ++ ": " ++ e.message))
  | .ok text =>
    match readBatch? path text with
    | none => .error (.invalidBatch (path ++ ": " ++ undecodableBatch))
    | some entries => (checkBatch fs entries).map fun () => entries

/-- The entries with some names, each of which must exist; all if no name is given. -/
def selectEntries (entries : List BatchEntry) (only : List String) :
    Except ConfigurationError (List BatchEntry) :=
  if only.isEmpty then .ok entries
  else
    match only.find? fun name => !entries.any (·.name == name) with
    | some name => .error (.invalidBatch ("no harness named " ++ name))
    | none => .ok (entries.filter fun e => only.contains e.name)

end HarnessRepair
