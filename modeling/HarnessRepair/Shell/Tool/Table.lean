import HarnessRepair.Shell.Condition
import HarnessRepair.Shell.Format
import HarnessRepair.Shell.Tool.Calculate
import HarnessRepair.Shell.Tool.Compare
import HarnessRepair.Shell.Tool.Edit
import HarnessRepair.Shell.Tool.Files
import HarnessRepair.Shell.Tool.Lines
import HarnessRepair.Shell.Tool.Search
import HarnessRepair.Shell.Tool.Translate

/-!
# The tools by name

## Main definitions

* `tool?` — the tool with a name.
* `systemProgram?` — the program that a path of the system leads to.
* `questionsAt` — what can be asked of files in a directory.
-/

namespace HarnessRepair.Shell

open Work

/-! ### Small tools -/

/-- Writes its arguments. -/
def writeWords : Tool := do
  let args := (← read).args
  let letters := args.takeWhile fun a =>
    match a.toList with
    | '-' :: c :: cs => (c :: cs).all fun c => c == 'n' || c == 'e' || c == 'E'
    | _ => false
  let words := args.drop letters.length
  let all := letters.flatMap (·.toList)
  let escapes := (all.filter fun c => c == 'e' || c == 'E').getLast? == some 'e'
  let (body, stops) :=
    if escapes then joinEscaped words else ((" ".intercalate words).toList, false)
  printText (String.ofList (if stops || all.contains 'n' then body else body ++ ['\n']))

/-- Writes arguments by a format. -/
def writeFormatted : Tool := do
  match (← read).args with
  | [] => misused 1 "missing operand"
  | format :: args =>
    let p := printf format args
    p.warnings.forM complain
    if !p.warnings.isEmpty then fail 1
    printText (String.ofList p.output)
    if let some text := p.fault then
      complain text
      fail 1

/-- Writes variables, all of them or those with some names. -/
def writeVariables : Tool := do
  let c ← read
  if c.args.isEmpty then c.environment.forM fun (name, value) => printLine (name ++ "=" ++ value)
  else
    c.args.forM fun name =>
      match c.environment.lookup name with
      | some value => printLine value
      | none => fail 1

/-- Writes a text that does not depend on anything. -/
def always (text : String) : Tool := printLine text

/-- Writes facts on the system. -/
def systemFacts : Tool := do
  let (choices, _) ← options 1 ⟨"asnrvmpio", "", []⟩
  let given (c : Char) : Bool := isChosen choices c
  let facts := (if choices.isEmpty || given 's' then ["Linux"] else []) ++
    (if given 'm' then ["x86_64"] else []) ++ (if given 'o' then ["GNU/Linux"] else [])
  printLine (" ".intercalate facts)

/-- Tells that the input is no terminal. -/
def terminalName : Tool := do
  printLine "not a tty"
  fail 1

/-- Writes facts on the user. -/
def userFacts : Tool := do
  let (choices, _) ← options 1 ⟨"ugnGr", "", []⟩
  if choices.isEmpty then printLine "uid=0(root) gid=0(root) groups=0(root)"
  else printLine (if isChosen choices 'n' then "root" else "0")

/-- Bytes in columns. -/
def dumpBytes : Tool := do
  let (choices, operands) ← options 1 ⟨"cvxb", "Atjw", []⟩
  let all ← readAll operands 1
  let bs := all.flatMap (·.2)
  let kind := if isChosen choices 'c' then "c" else (chosen? choices 't').getD "o2"
  let digits (base width n : Nat) : String :=
    let ds := Nat.toDigits base n
    String.ofList (List.replicate (width - ds.length) '0' ++ ds)
  let char (b : UInt8) : String :=
    let n := b.toNat
    match [(0, "\\0"), (7, "\\a"), (8, "\\b"), (9, "\\t"), (10, "\\n"), (11, "\\v"), (12, "\\f"),
      (13, "\\r")].lookup n with
    | some s => s
    | none => if 32 ≤ n ∧ n < 127 then String.singleton (Char.ofNat n) else digits 8 3 n
  let items (row : List UInt8) : String :=
    if kind = "c" then String.join (row.map fun b => padFront 4 (char b))
    else if kind = "x1" then String.join (row.map fun b => " " ++ digits 16 2 b.toNat)
    else if kind = "o1" then String.join (row.map fun b => " " ++ digits 8 3 b.toNat)
    else if kind = "d1" ∨ kind = "u1" then
      String.join (row.map fun b => padFront 4 (toString b.toNat))
    else
      String.join ((chunks 2 (row.length + 1) row).map fun pair =>
        " " ++ digits 8 6 ((pair.headD 0).toNat + 256 * (pair.getD 1 0).toNat))
  let plain := chosen? choices 'A' == some "n"
  let front (n : Nat) : String := if plain then "" else digits 8 7 n
  (chunks 16 (bs.length + 1) bs).zipIdx.forM fun (row, i) =>
    printLine (front (16 * i) ++ items row)
  if !plain then printLine (front bs.length)

/-! ### Names -/

/-- The tool with a name. -/
def tool? (name : String) : Option Tool :=
  [("cat", concatenate), ("head", firstLines), ("tail", lastLines), ("wc", countAll),
    ("tac", reverseLines), ("rev", reverseTexts), ("nl", numberLines), ("sort", sortLines),
    ("uniq", mergeRepeats), ("cut", cutLines), ("paste", pasteLines), ("fold", foldLines),
    ("tee", copyInput), ("seq", countUp), ("mkdir", makeDirectories), ("rmdir", removeDirectories),
    ("rm", removeFiles), ("touch", touchFiles), ("cp", copyFiles), ("mv", moveFiles),
    ("ln", linkFiles), ("chmod", changeModes), ("ls", listFiles), ("find", findFiles),
    ("stat", describeFiles), ("basename", baseName), ("dirname", directoryName),
    ("realpath", realPath), ("readlink", realPath), ("grep", searchLines 'G'),
    ("egrep", searchLines 'E'), ("fgrep", searchLines 'F'), ("sed", editLines),
    ("tr", translateBytes), ("expr", calculator), ("cmp", compareBytes), ("diff", compareLines),
    ("echo", writeWords), ("printf", writeFormatted), ("printenv", writeVariables),
    ("true", pure ()), ("false", fail 1), ("sync", pure ()), ("whoami", always "root"),
    ("uname", systemFacts), ("arch", always "x86_64"), ("nproc", always "1"), ("id", userFacts),
    ("od", dumpBytes), ("tty", terminalName)].lookup name

/-- The programs that run others, or that take their time. -/
def runningPrograms : List String :=
  ["sh", "dash", "bash", "sleep", "yes", "env", "xargs", "timeout", "nohup", "nice", "setsid",
    "stdbuf", "kill", "test", "[", "which", "pwd", "date"]

/-- Whether there is a program with a name. -/
def isProgramName (name : String) : Bool := (tool? name).isSome || runningPrograms.contains name

/-- The directories of programs. -/
def programDirectories : List String := ["/usr/bin", "/bin"]

/-- The program that a path of the system leads to. -/
def systemProgram? (directory path : String) : Option String :=
  if !path.toList.contains '/' then none
  else
    let pieces := Text.splitOnChar '/' (logicalPath directory path)
    let name := pieces.getLastD ""
    if programDirectories.contains ("/".intercalate pieces.dropLast) && isProgramName name then
      some name
    else none

/-- Whether files at a path can be run. -/
def canRun (fs : FileSystem) (modes : List (Place × Nat)) (place : Place) : Bool :=
  Nat.land (modeAt fs modes place) 0o111 != 0

/-- What can be asked of files in a directory. -/
def questionsAt (fs : FileSystem) (modes : List (Place × Nat)) (directory : String) :
    FileQuestion :=
  { one := fun op path =>
      let place := placeIn? fs directory path
      let node := place.bind fs.node?
      let program := (systemProgram? directory path).isSome
      let device := path == "/dev/null" || path == "/dev/zero" || path == "/dev/tty" ||
        path == "/dev/full"
      let outside := isOutsideDirectory directory path
      let isDir := node == some .dir || outside
      let there := place.isSome || outside || program || device
      if op = "-d" then isDir
      else if op = "-f" then (place.isSome && node != some .dir) || program
      else if op = "-c" then device
      else if op = "-s" then
        isDir || program ||
          match node with
          | some (.file c) => !c.bytes.isEmpty
          | _ => false
      else if op = "-x" then
        isDir || program || place.any (canRun fs modes)
      else if ["-e", "-r", "-w", "-O", "-G"].contains op then there
      else false
    two := fun op a b =>
      op == "-ef" && (placeIn? fs directory a).isSome &&
        placeIn? fs directory a == placeIn? fs directory b }

end HarnessRepair.Shell
