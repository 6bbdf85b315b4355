import HarnessRepair.Shell.Pattern
import HarnessRepair.Shell.Tool.Basic
import HarnessRepair.Text.Numeral

/-!
# Tools for files and directories

Making, removing, copying and listing them.

## Main definitions

* `makeDirectories`, `removeDirectories`, `removeFiles`, `touchFiles`, `copyFiles`, `moveFiles`,
  `linkFiles` — changes.
* `changeModes` — the rights of files.
* `listFiles`, `findFiles`, `describeFiles` — what there is.
* `baseName`, `directoryName` — parts of paths.
-/

namespace HarnessRepair.Shell

open Work

/-! ### Directories -/

/-- The paths to a path, one step after the other. -/
def pathsTo (path : String) : List String :=
  let pieces := Text.splitOnChar '/' path
  ((List.range pieces.length).map fun n => "/".intercalate (pieces.take (n + 1))).filter fun p =>
    !p.isEmpty && p.toList.getLast? != some '/'

/-- Makes the directories to a path, with what is told of each. -/
def makeAll (tells : Bool) : List String → Work Unit
  | [] => pure ()
  | path :: rest => do
    let fs := (← get).files
    let place ← locate path
    match fs.find? place with
    | some .dir => makeAll tells rest
    | some _ =>
      complain ("cannot create directory " ++ inQuotes path ++ ": " ++
        reason (if rest.isEmpty then .alreadyExists else .notDirectory))
      fail 1
    | none =>
      match fs.makeDir place with
      | .ok fs =>
        setFiles fs
        if tells then printLine ("mkdir: created directory " ++ inQuotes path)
        makeAll tells rest
      | .error e =>
        complain ("cannot create directory " ++ inQuotes path ++ ": " ++ reason e)
        fail 1

/-- Makes directories, with those on the way if asked to. -/
def makeDirectories : Tool := do
  let (choices, operands) ← optionsAndOperands 1
    ⟨"pvZ", "m", [("parents", 'p'), ("verbose", 'v'), ("mode", 'm')]⟩
  let tells := isChosen choices 'v'
  operands.forM fun path => do
    if isChosen choices 'p' && !path.isEmpty then makeAll tells (pathsTo path)
    else
      match (← get).files.makeDir (← locate path) with
      | .ok fs =>
        setFiles fs
        if tells then printLine ("mkdir: created directory " ++ inQuotes path)
      | .error e =>
        complain ("cannot create directory " ++ inQuotes path ++ ": " ++ reason e)
        fail 1

/-- Removes an empty directory; false if that is not possible. -/
def removeDirectory (path : String) : Work Bool := do
  let fs := (← get).files
  let refuse (why : String) : Work Bool := do
    complain ("failed to remove " ++ inQuotes path ++ ": " ++ why)
    fail 1
    return false
  match fs.resolve (← locate path) with
  | .error e => refuse (reason e)
  | .ok place =>
    match fs.node? place with
    | none => refuse (reason .notFound)
    | some .dir =>
      if (namesIn fs place).isEmpty && place != fs.workingDir then
        setFiles (fs.erase place)
        return true
      else refuse "Directory not empty"
    | some _ => refuse (reason .notDirectory)

/-- Removes directories from the last on as long as that is possible. -/
def removeWhilePossible : List String → Work Unit
  | [] => pure ()
  | path :: rest => do if ← removeDirectory path then removeWhilePossible rest

/-- Removes empty directories, with those that they stand in if asked to. -/
def removeDirectories : Tool := do
  let (choices, operands) ← optionsAndOperands 1 ⟨"pv", "", [("parents", 'p'), ("verbose", 'v')]⟩
  operands.forM fun path =>
    if isChosen choices 'p' then removeWhilePossible (pathsTo path).reverse
    else discard (removeDirectory path)

/-! ### Removal -/

/-- The modes without those at a place and below it. -/
def withoutModes (modes : List (Place × Nat)) (place : Place) : List (Place × Nat) :=
  modes.filter fun (p, _) => !place.isPrefixOf p

/-- Removes what stands at a place and below it. -/
def eraseAt (place : Place) : Work Unit :=
  modify fun b =>
    { b with files := b.files.eraseTree place, modes := withoutModes b.modes place }

/-- The last piece of a path, slashes behind it aside. -/
def lastPiece (path : String) : String :=
  ((Text.splitOnChar '/' path).filter (!·.isEmpty)).getLastD ""

/-- Removes files, and directories if asked to. -/
def removeFiles : Tool := do
  let (choices, operands) ← options 1
    ⟨"rRfdivI", "", [("recursive", 'r'), ("force", 'f'), ("dir", 'd'), ("verbose", 'v')]⟩
  let deep := isChosen choices 'r' || isChosen choices 'R'
  let quiet := isChosen choices 'f'
  if operands.isEmpty && !quiet then misused 1 "missing operand"
  operands.forM fun path => do
    let refuse (why : String) : Work Unit := do
      complain ("cannot remove " ++ inQuotes path ++ ": " ++ why)
      fail 1
    let last := lastPiece path
    if deep && (last == "." || last == "..") then
      complain ("refusing to remove '.' or '..' directory: skipping " ++ inQuotes path)
      fail 1
    else
      let fs := (← get).files
      let whole ← locate path
      match fs.resolve whole with
      | .error e =>
        if !(quiet && (e == .notFound || e == .notDirectory)) then refuse (reason e)
      | .ok place =>
        match fs.node? place with
        | none => if !quiet then refuse (reason .notFound)
        | some .dir =>
          if deep then
            eraseAt place
            if isChosen choices 'v' then printLine ("removed directory " ++ inQuotes path)
          else if isChosen choices 'd' then
            if (namesIn fs place).isEmpty then eraseAt place else refuse "Directory not empty"
          else refuse (reason .isDirectory)
        | some _ =>
          if FileSystem.wantsDirectory whole then refuse (reason .notDirectory)
          else
            eraseAt place
            if isChosen choices 'v' then printLine ("removed " ++ inQuotes path)

/-- Makes empty files where there are none. -/
def touchFiles : Tool := do
  let (choices, operands) ← options 1
    ⟨"acmhf", "drt", [("no-create", 'c'), ("date", 'd'), ("reference", 'r')]⟩
  if operands.isEmpty then misused 1 "missing file operand"
  operands.forM fun path => do
    let fs := (← get).files
    let whole ← locate path
    if (fs.find? whole).isNone && !isOutsideDirectory (← read).directory path then
      match fs.writable whole with
      | .ok place => if !isChosen choices 'c' then setFiles (fs.put place (.file (.text "")))
      | .error e =>
        if !(isChosen choices 'c' && e == .notFound) then
          complain ("cannot touch " ++ inQuotes path ++ ": " ++ reason e)
          fail 1

/-! ### Copies -/

/-- What stands at a place and below it, as it stands at another place. -/
def moved {α : Type} (entries : List (Place × α)) (source target : Place) : List (Place × α) :=
  entries.filterMap fun (p, a) =>
    if source.isPrefixOf p then some (target ++ p.drop source.length, a) else none

/-- Puts what stands at a place at another place too. -/
def copyAt (source target : Place) : Work Unit :=
  modify fun b =>
    let files := (moved b.files.entries source target).foldl (fun fs (p, n) => fs.put p n) b.files
    { b with
      files := files
      modes := moved b.modes source target ++ withoutModes b.modes target }

/-- How files get to a new place. -/
inductive Transfer where
  | copy
  | move
  | link
  deriving DecidableEq, Repr

/-- What is told of a file that cannot get to a new place. -/
def Transfer.refusal (t : Transfer) (source target : String) : String :=
  match t with
  | .copy => "cannot create regular file " ++ inQuotes target
  | .move => "cannot move " ++ inQuotes source ++ " to " ++ inQuotes target
  | .link => "failed to create hard link " ++ inQuotes target

/-- What is told of a file that is not there. -/
def Transfer.absence (t : Transfer) (source : String) : String :=
  match t with
  | .link => "failed to access " ++ inQuotes source
  | _ => "cannot stat " ++ inQuotes source

/-- Brings what a path leads to to a path. -/
def transfer (t : Transfer) (choices : List Choice) (source target : String) : Work Unit := do
  let refuse (text : String) : Work Unit := do
    complain text
    fail 1
  let deep := t == .move || ['r', 'R', 'a'].any (isChosen choices)
  let fs := (← get).files
  let sourcePath ← locate source
  match fs.read sourcePath, fs.place? sourcePath with
  | .error e, none => refuse (t.absence source ++ ": " ++ reason e)
  | _, none => refuse (t.absence source ++ ": " ++ reason .notFound)
  | _, some origin =>
    let isDir := fs.node? origin == some .dir
    if isDir && t == .link then refuse (source ++ ": hard link not allowed for directory")
    else if isDir && !deep then
      refuse ("-r not specified; omitting directory " ++ inQuotes source)
    else
      let goal ← locate target
      match fs.resolve goal with
      | .error .notDirectory =>
        let front :=
          if t = .copy then "cannot stat " ++ inQuotes target else t.refusal source target
        refuse (front ++ ": " ++ reason .notDirectory)
      | .error e => refuse (t.refusal source target ++ ": " ++ reason e)
      | .ok goalPlace =>
        let held := fs.node? goalPlace
        if origin = goalPlace then
          refuse (inQuotes source ++ " and " ++ inQuotes target ++ " are the same file")
        else if isDir && origin.isPrefixOf goalPlace then
          refuse (match t with
            | .move =>
              "cannot move " ++ inQuotes source ++ " to a subdirectory of itself, " ++
                inQuotes target
            | _ =>
              "cannot copy a directory, " ++ inQuotes source ++ ", into itself, " ++
                inQuotes target)
        else
          match held with
          | some .dir =>
            if !isDir then
              refuse ("cannot overwrite directory " ++ inQuotes target ++ " with non-directory")
            else if t == .move && !(namesIn fs goalPlace).isEmpty then
              refuse (t.refusal source target ++ ": Directory not empty")
            else carry origin goalPlace
          | some _ =>
            if isDir then
              refuse ("cannot overwrite non-directory " ++ inQuotes target ++ " with directory " ++
                inQuotes source)
            else if FileSystem.wantsDirectory goal then
              refuse (t.refusal source target ++ ": " ++ reason .notDirectory)
            else if t == .link && !isChosen choices 'f' then
              refuse (t.refusal source target ++ ": " ++ reason .alreadyExists)
            else if !isChosen choices 'n' then carry origin goalPlace
          | none =>
            if fs.node? goalPlace.dropLast != some .dir then
              refuse (t.refusal source target ++ ": " ++ reason .notFound)
            else if FileSystem.wantsDirectory goal && !isDir then
              refuse (t.refusal source target ++ ": " ++ reason .notDirectory)
            else carry origin goalPlace
where
  /-- Copies or moves from one place to another. -/
  carry (origin goal : Place) : Work Unit := do
    copyAt origin goal
    if t = .move then eraseAt origin
    if isChosen choices 'v' then
      printLine ((if t = .move then "renamed " else "") ++ inQuotes source ++ " -> " ++
        inQuotes target)

/-- Brings files to new places. -/
def transferAll (t : Transfer) (table : OptionTable) : Tool := do
  let (choices, operands) ← options 1 table
  let into := chosen? choices 't'
  match operands, into with
  | [], _ => misused 1 "missing file operand"
  | [one], none =>
    if t = .link then finish choices [one] (lastPiece one)
    else misused 1 ("missing destination file operand after " ++ inQuotes one)
  | operands, some directory => finish choices operands directory
  | operands, none => finish choices operands.dropLast (operands.getLastD "")
where
  /-- Brings files to a target, or into it. -/
  finish (choices : List Choice) (sources : List String) (target : String) : Work Unit := do
    let isDir := (← get).files.isDir (← locate target) && !isChosen choices 'T'
    if 1 < sources.length && !isDir then
      let fs := (← get).files
      let why := match fs.resolve (← locate target) with
        | .error e => e
        | .ok place => if (fs.node? place).isNone then .notFound else .notDirectory
      giveUp 1 ("target " ++ inQuotes target ++ ": " ++ reason why)
    sources.forM fun source =>
      let inside :=
        if target.toList.getLast? = some '/' then target ++ lastPiece source
        else target ++ "/" ++ lastPiece source
      transfer t choices source (if isDir then inside else target)

/-- Copies files. -/
def copyFiles : Tool :=
  transferAll .copy
    ⟨"rRafpvniuTdPLx", "t",
      [("recursive", 'r'), ("archive", 'a'), ("force", 'f'), ("verbose", 'v'),
        ("no-clobber", 'n'), ("preserve", 'p'), ("target-directory", 't')]⟩

/-- Moves files. -/
def moveFiles : Tool :=
  transferAll .move
    ⟨"fvniuT", "t",
      [("force", 'f'), ("verbose", 'v'), ("no-clobber", 'n'), ("target-directory", 't')]⟩

/-- Gives files further names. -/
def linkFiles : Tool :=
  transferAll .link ⟨"sfvnT", "t", [("symbolic", 's'), ("force", 'f'), ("verbose", 'v')]⟩

/-! ### Rights -/

/-- The usual rights of a file or a directory. -/
def usualMode (n : Node) : Nat :=
  match n with
  | .dir => 0o755
  | .file _ => 0o644
  | .link _ => 0o777

/-- The rights at a place. -/
def modeAt (fs : FileSystem) (modes : List (Place × Nat)) (place : Place) : Nat :=
  (modes.lookup place).getD (((fs.node? place).map usualMode).getD 0)

/-- The number of an octal text of rights. -/
def octalMode? (s : String) : Option Nat :=
  let cs := s.toList
  if cs.isEmpty || !cs.all (fun c => '0' ≤ c && c ≤ '7') then none
  else
    let n := cs.foldl (fun n c => n * 8 + (c.toNat - 48)) 0
    if n ≤ 0o7777 then some n else none

/-- The rights that letters stand for, of one kind of user. -/
def letterBits (old : Nat) (c : Char) : Option Nat :=
  if c = 'r' then some 4
  else if c = 'w' then some 2
  else if c = 'x' then some 1
  else if c = 'X' then some (if Nat.land old 0o111 = 0 then 0 else 1)
  else if c = 's' ∨ c = 't' then some 0
  else none

/-- The rights after one change such as `u+x`; without users the mask holds some back. -/
def changeMode? (mask old : Nat) (clause : List Char) : Option Nat := do
  let users := clause.takeWhile fun c => ['u', 'g', 'o', 'a'].contains c
  let sign :: letters := clause.drop users.length | none
  if !(['+', '-', '='].contains sign) then none
  let all := users.isEmpty || users.contains 'a'
  let shifts := (if all || users.contains 'u' then [64] else []) ++
    (if all || users.contains 'g' then [8] else []) ++
      (if all || users.contains 'o' then [1] else [])
  let bits ← letters.mapM (letterBits old)
  let one := bits.foldl Nat.lor 0
  let wanted := shifts.foldl (fun n shift => Nat.lor n (one * shift)) 0
  let wanted := if users.isEmpty then wanted - Nat.land wanted mask else wanted
  let touched := shifts.foldl (fun n shift => Nat.lor n (7 * shift)) 0
  if sign = '+' then some (Nat.lor old wanted)
  else if sign = '-' then some (old - Nat.land old wanted)
  else some (Nat.lor (old - Nat.land old touched) wanted)

/-- The rights that a text asks for. -/
def modeOf? (mask old : Nat) (s : String) : Option Nat :=
  match octalMode? s with
  | some n => some n
  | none =>
    (Text.splitOnChar ',' s).foldl
      (fun mode clause => mode.bind fun m => changeMode? mask m clause.toList)
      (some old)

/-- Changes the rights of files. -/
def changeModes : Tool := do
  let c ← read
  -- A word that takes rights away looks like options.
  let isTaking (s : String) : Bool :=
    match s.toList with
    | '-' :: c :: _ => ['r', 'w', 'x', 'X', 's', 't'].contains c
    | _ => false
  let words := c.args.filter fun a => !(["-R", "-v", "-f", "-c", "--"].contains a)
  let deep := c.args.contains "-R"
  match words with
  | [] => misused 1 "missing operand"
  | mode :: paths =>
    if mode.toList.head? = some '-' ∧ !isTaking mode then
      misused 1 ("invalid option -- '" ++ String.ofList ((mode.toList.drop 1).take 1) ++ "'")
    if paths.isEmpty then misused 1 ("missing operand after " ++ inQuotes mode)
    if (modeOf? 0o22 0 mode).isNone then misused 1 ("invalid mode: " ++ inQuotes mode)
    paths.forM fun path => do
      let b ← get
      match b.files.place? (← locate path) with
      | none =>
        complain ("cannot access " ++ inQuotes path ++ ": " ++ reason .notFound)
        fail 1
      | some place =>
        let places := b.files.entries.filterMap fun (p, _) =>
          if p = place || (deep && place.isPrefixOf p) then some p else none
        let modes := places.filterMap fun p =>
          (modeOf? 0o22 (modeAt b.files b.modes p) mode).map (p, ·)
        let others := b.modes.filter fun m => !places.contains m.1
        set { b with modes := modes ++ others }

/-! ### What there is -/

/-- A name as it is listed, with a sign for its kind if asked for. -/
def listedName (choices : List Choice) (b : Bench) (place : Place) (name : String) : String :=
  match b.files.node? place with
  | some .dir => if isChosen choices 'F' || isChosen choices 'p' then name ++ "/" else name
  | _ =>
    if isChosen choices 'F' && Nat.land (modeAt b.files b.modes place) 0o111 != 0 then name ++ "*"
    else name

/-- Names one behind another, as options ask for. -/
def listedLine (choices : List Choice) (names : List String) : String :=
  let ended (s : String) : String := if names.isEmpty then s else s ++ "\n"
  if isChosen choices '1' then String.join (names.map (· ++ "\n"))
  else if isChosen choices 'm' then ended (", ".intercalate names)
  else if isChosen choices 'C' || isChosen choices 'x' then ended ("  ".intercalate names)
  else String.join (names.map (· ++ "\n"))

/-- The names in a directory that are listed. -/
def listedNames (choices : List Choice) (fs : FileSystem) (place : Place) : List String :=
  let names := (namesIn fs place).map Text.spread
  let shown :=
    if isChosen choices 'a' then ["."] ++ [".."] ++ names
    else if isChosen choices 'A' then names
    else names.filter fun name => name.toList.head? != some '.'
  let sorted := shown.mergeSort fun a b => decide (a ≤ b)
  if isChosen choices 'r' then sorted.reverse else sorted

/-- The listing of a directory, and of those in it if asked for; each comes with its
path. -/
def listDirectory (choices : List Choice) (b : Bench) :
    Nat → String → Place → List (String × String)
  | 0, _, _ => []
  | fuel + 1, path, place =>
    let names := listedNames choices b.files place
    let inner (name : String) : Place :=
      if name = "." then place
      else if name = ".." then place.dropLast
      else place ++ [Text.gather name]
    let here := listedLine choices (names.map fun n => listedName choices b (inner n) n)
    let deeper :=
      if isChosen choices 'R' then
        names.flatMap fun n =>
          if n = "." ∨ n = ".." ∨ b.files.node? (inner n) ≠ some .dir then []
          else listDirectory choices b fuel (path ++ "/" ++ n) (inner n)
      else []
    (path, here) :: deeper

/-- Lists files and the names in directories. -/
def listFiles : Tool := do
  let (choices, operands) ← options 2
    ⟨"1aArRdFpmCxtSUfhklgnoiqsuc", "wI",
      [("all", 'a'), ("almost-all", 'A'), ("reverse", 'r'), ("recursive", 'R'), ("directory", 'd'),
        ("classify", 'F'), ("color", 'u')]⟩
  let operands := if operands.isEmpty then ["."] else operands
  let b ← get
  let sorted := operands.mergeSort fun a b => decide (a ≤ b)
  let sorted := if isChosen choices 'r' then sorted.reverse else sorted
  let found ← sorted.mapM fun path => do
    let whole ← locate path
    match b.files.place? whole with
    | some place => return some (path, place)
    | none =>
      let e := match b.files.read whole with
        | .error e => e
        | .ok _ => .notFound
      complain ("cannot access " ++ inQuotes path ++ ": " ++ reason e)
      fail 2
      return none
  let found := found.filterMap id
  let (directories, plain) := found.partition fun (_, place) =>
    b.files.node? place == some .dir && !isChosen choices 'd'
  let names := listedLine choices (plain.map fun (path, place) => listedName choices b place path)
  let listings := directories.flatMap fun (path, place) => listDirectory choices b 64 path place
  let headed := 1 < operands.length || isChosen choices 'R'
  let blocks := listings.map fun (path, text) => if headed then path ++ ":\n" ++ text else text
  let all := (if plain.isEmpty then [] else [names]) ++ blocks
  printText ("\n".intercalate all)

/-- What is looked for among files. -/
inductive Search where
  | name (glob : List Glob)
  | type (directory : Bool)
  | empty
  deriving DecidableEq, Repr

/-- What a search asks for, and how deep it goes. -/
structure SearchPlan where
  tests : List (Search × Bool) := []
  least : Nat := 0
  most : Nat := 64
  removes : Bool := false

/-- The search that words ask for. -/
def readSearch : Nat → Bool → SearchPlan → List String → Work SearchPlan
  | 0, _, p, _ => return p
  | _, _, p, [] => return p
  | fuel + 1, negated, p, word :: rest => do
    let test (s : Search) (rest : List String) : Work SearchPlan :=
      readSearch fuel false { p with tests := p.tests ++ [(s, negated)] } rest
    let pattern (s : String) : List Glob := globsOf (s.toList.map (·, false))
    match word, rest with
    | "-print", rest | "-a", rest => readSearch fuel negated p rest
    | "!", rest | "-not", rest => readSearch fuel (!negated) p rest
    | "-delete", rest => readSearch fuel false { p with removes := true } rest
    | "-empty", rest => test .empty rest
    | "-name", s :: rest => test (.name (pattern s)) rest
    | "-type", "f" :: rest => test (.type false) rest
    | "-type", "d" :: rest => test (.type true) rest
    | "-type", s :: _ => giveUp 1 ("Unknown argument to -type: " ++ s)
    | "-maxdepth", n :: rest =>
      readSearch fuel negated { p with most := (Text.natOfDigits? n.toList).getD 64 } rest
    | "-mindepth", n :: rest =>
      readSearch fuel negated { p with least := (Text.natOfDigits? n.toList).getD 0 } rest
    | word, [] =>
      if ["-name", "-type", "-maxdepth", "-mindepth"].contains word then
        giveUp 1 ("missing argument to \x60" ++ word ++ "'")
      giveUp 1 ("unknown predicate \x60" ++ word ++ "'")
    | word, _ => giveUp 1 ("unknown predicate \x60" ++ word ++ "'")

/-- Whether what stands at a place is looked for. -/
def SearchPlan.accepts (p : SearchPlan) (fs : FileSystem) (name : String) (place : Place) : Bool :=
  p.tests.all fun (s, negated) =>
    (match s with
      | .name glob => fits glob name.toList
      | .type directory => (fs.node? place == some .dir) == directory
      | .empty =>
        match fs.node? place with
        | some (.file c) => c.bytes.isEmpty
        | _ => (namesIn fs place).isEmpty) != negated

/-- The paths below a path that are looked for, with their places. -/
def SearchPlan.below (p : SearchPlan) (fs : FileSystem) :
    Nat → Nat → String → String → Place → List (String × Place)
  | 0, _, _, _, _ => []
  | fuel + 1, depth, path, name, place =>
    let here := if p.least ≤ depth && p.accepts fs name place then [(path, place)] else []
    let inner :=
      if depth < p.most && fs.node? place == some .dir then
        (namesIn fs place).flatMap fun n =>
          let n := Text.spread n
          let next := if path.toList.getLast? = some '/' then path ++ n else path ++ "/" ++ n
          p.below fs fuel (depth + 1) next n (place ++ [Text.gather n])
      else []
    here ++ inner

/-- Finds files below paths. -/
def findFiles : Tool := do
  let c ← read
  let isPath (s : String) : Bool :=
    match s.toList with
    | '-' :: _ | '!' :: _ | '(' :: _ => false
    | _ => true
  let paths := c.args.takeWhile isPath
  let plan ← readSearch (c.args.length + 1) false {} (c.args.drop paths.length)
  (if paths.isEmpty then ["."] else paths).forM fun path => do
    let fs := (← get).files
    match fs.place? (← locate path) with
    | none =>
      complain (inQuotes path ++ ": " ++ reason .notFound)
      fail 1
    | some place =>
      let found := plan.below fs 64 0 path (lastPiece path) place
      if plan.removes then found.forM fun (_, place) => eraseAt place
      else found.forM fun (path, _) => printLine path

/-- The text of a format in which letters behind percent signs stand for facts. -/
def fillFacts (fact : Char → String) : List Char → String
  | '%' :: c :: rest => fact c ++ fillFacts fact rest
  | c :: rest => String.singleton c ++ fillFacts fact rest
  | [] => ""

/-- Tells of files what a format asks for. -/
def describeFiles : Tool := do
  let (choices, operands) ← optionsAndOperands 1
    ⟨"Lft", "c", [("format", 'c'), ("printf", 'c')]⟩
  operands.forM fun path => do
    let b ← get
    match b.files.place? (← locate path) with
    | none =>
      complain ("cannot statx " ++ inQuotes path ++ ": " ++ reason .notFound)
      fail 1
    | some place =>
      let size := match b.files.node? place with
        | some (.file c) => c.bytes.length
        | _ => 4096
      let isDir := b.files.node? place == some .dir
      let kind :=
        if isDir then "directory" else if size = 0 then "regular empty file" else "regular file"
      let fact (c : Char) : String :=
        if c = 'n' then path
        else if c = 's' then toString size
        else if c = 'a' then String.ofList (Nat.toDigits 8 (modeAt b.files b.modes place))
        else if c = 'F' then kind
        else if c = 'U' ∨ c = 'G' then "root"
        else if c = 'u' ∨ c = 'g' then "0"
        else if c = 'h' then "1"
        else if c = '%' then "%"
        else "?"
      printLine (fillFacts fact ((chosen? choices 'c').getD "%n").toList)

/-! ### Parts of paths -/

/-- A path without slashes behind it. -/
def withoutSlashes (path : String) : String :=
  let kept := (path.toList.reverse.dropWhile (· == '/')).reverse
  if kept.isEmpty && !path.isEmpty then "/" else String.ofList kept

/-- The last name of a path without an ending. -/
def lastName (path ending : String) : String :=
  let whole := withoutSlashes path
  let name := if whole = "/" then whole else (Text.splitOnChar '/' whole).getLastD ""
  if name = ending then name
  else
    match Text.stripSuffix? ending.toList name.toList with
    | some front => String.ofList front
    | none => name

/-- Writes the last names of paths. -/
def baseName : Tool := do
  let (choices, operands) ← optionsAndOperands 1
    ⟨"az", "s", [("suffix", 's'), ("multiple", 'a')]⟩
  let ending := chosen? choices 's'
  if isChosen choices 'a' || ending.isSome then
    operands.forM fun path => printLine (lastName path (ending.getD ""))
  else
    match operands with
    | [path] => printLine (lastName path "")
    | [path, ending] => printLine (lastName path ending)
    | operands => misused 1 ("extra operand " ++ inQuotes (operands.getD 2 ""))

/-- The path of the directory of a path. -/
def directoryOf (path : String) : String :=
  let whole := (withoutSlashes path).toList.reverse.dropWhile (· != '/')
  if whole.isEmpty then "." else withoutSlashes (String.ofList whole.reverse)

/-- Writes the directories of paths. -/
def directoryName : Tool := do
  let (_, operands) ← optionsAndOperands 1 ⟨"z", "", []⟩
  operands.forM fun path => printLine (directoryOf path)

/-- Writes paths from the root; for `readlink` only if that is asked for. -/
def realPath : Tool := do
  let (choices, operands) ← optionsAndOperands 1 ⟨"fmenqsz", "", []⟩
  let c ← read
  if c.name = "readlink" ∧ !(['f', 'm', 'e'].any (isChosen choices)) then
    fail 1
    stop
  operands.forM fun path => do
    match (← get).files.resolve (← locate path) with
    | .ok place => printLine ("/".intercalate (runDirectory :: place.map Text.spread))
    | .error e =>
      if isOutsideDirectory c.directory path then printLine (logicalPath c.directory path)
      else
        if c.name ≠ "readlink" then complain (shownName path ++ ": " ++ reason e)
        fail 1

end HarnessRepair.Shell
