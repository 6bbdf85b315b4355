import HarnessRepair.Files.FileSystem
import HarnessRepair.Settings.Validation
import HarnessRepair.Settings.Variable
import HarnessRepair.Yaml.Decode
import HarnessRepair.Yaml.Document

/-!
# Layers of settings

Settings come from the defaults, from files and from the environment, a later layer
over an earlier one.  Sections are merged field by field; everything else, lists
included, is replaced.

## Main definitions

* `overlay` — one layer over another.
* `fileLayer?`, `environmentLayer` — the layers.
* `loadSettings`, `LoadFailure` — the settings of a run, checked.
-/

namespace HarnessRepair

open Json

/-! ### Merging -/

mutual

/-- One value over another: objects are merged, anything else is replaced. -/
def overlay (lower upper : Value) : Value :=
  match upper with
  | .object members =>
    match lower with
    | .object below => .object (overlayAll below members)
    | _ => .object (overlayAll [] members)
  | v => v

/-- The members of one object over those of another. -/
def overlayAll (below : List (Literal × Value)) :
    List (Literal × Value) → List (Literal × Value)
  | [] => below
  | (k, v) :: rest => overlayAll (overlayMember below k v) rest

/-- One member over those of an object. -/
def overlayMember (below : List (Literal × Value)) (k : Literal) (v : Value) :
    List (Literal × Value) :=
  match below with
  | [] => [(k, overlay .null v)]
  | (k', w) :: rest =>
    if k' = k then (k', overlay w v) :: rest else (k', w) :: overlayMember rest k v

end

/-- The members of which no later one has the same name. -/
def lastOfEach (members : List (Literal × Value)) : List (Literal × Value) :=
  members.foldr (fun (k, v) rest => if rest.any (·.1 == k) then rest else (k, v) :: rest) []

mutual

/-- A value in whose objects the last of several members of one name is the only one. -/
def withoutRepeats : Value → Value
  | .object members => .object (lastOfEach (withoutRepeatsInMembers members))
  | .array items => .array (withoutRepeatsInItems items)
  | v => v

/-- The members of an object, each without repeats. -/
def withoutRepeatsInMembers : List (Literal × Value) → List (Literal × Value)
  | [] => []
  | (k, v) :: rest => (k, withoutRepeats v) :: withoutRepeatsInMembers rest

/-- The items of an array, each without repeats. -/
def withoutRepeatsInItems : List Value → List Value
  | [] => []
  | v :: rest => withoutRepeats v :: withoutRepeatsInItems rest

end

/-! ### Layers -/

/-- The layer of the file at a path; a file that is not there says nothing. -/
def fileLayer? (fs : FileSystem) (path : String) : Option Value :=
  if fs.isFile path then do
    let d ← Yaml.parse? (← (fs.readText path).toOption)
    withoutRepeats (← d.decode? (Yaml.recordOf d.root))
  else some (.object [])

/-- The layer of the environment. -/
def environmentLayer (env : Environment) : Value :=
  env.foldl
    (fun layer (name, text) =>
      match settingPath? name with
      | some path => overlay layer (valueAt (withoutRepeats (valueOfText text)) path)
      | none => layer)
    (.object [])

/-- The number of fields of a section. -/
def sectionSize (name : String) : Nat :=
  match (Settings.toJson {}).member? name with
  | some (.object members) => members.length
  | _ => 0

/-- A layer whose sections, where they are lists, are no longer than they have fields. -/
def withoutSurplus : Value → Value
  | .object members =>
    .object (members.map fun (k, v) =>
      match k, v with
      | some name, .array items => (k, .array (items.take (sectionSize name)))
      | _, v => (k, v))
  | v => v

/-- The layers of some files and of the environment, put over the defaults. -/
def layered? (fs : FileSystem) (env : Environment) (paths : List String) : Option Value := do
  let files ← paths.mapM (fileLayer? fs)
  return withoutSurplus ((files ++ [environmentLayer env]).foldl overlay (Settings.toJson {}))

/-! ### Loading -/

/-- Why there are no settings to run with. -/
inductive LoadFailure where
  /-- Some layer cannot be read, or does not have the shape of settings. -/
  | unreadable (context : String)
  | invalid (e : SettingsError)
  deriving DecidableEq, Repr

/-- The words for missing settings. -/
def LoadFailure.message : LoadFailure → String
  | .unreadable context => context
  | .invalid e => e.message

/-- The files that are read when none is named. -/
def settingsFiles : List String := [".proofmend/config.yaml", ".proofmend/local.yaml"]

/-- The settings of a run, from the named file or else from those that are always read. -/
def loadSettings (fs : FileSystem) (env : Environment) (path : Option String) :
    Except LoadFailure Settings :=
  let (paths, context) :=
    match path with
    | some p => ([p], "Failed to load config from " ++ p)
    | none => (settingsFiles, "Failed to extract configuration from figment")
  match (layered? fs env paths).bind Settings.ofJson? with
  | none => .error (.unreadable context)
  | some settings => settings.check.mapError .invalid

end HarnessRepair
