import HarnessRepair.Shell.Action
import HarnessRepair.Shell.Arithmetic

/-!
# Expansion of words

A word becomes a row of cells: its texts as they stand, its expansions by their values.
From the cells come fields, a single text, or the marks of a pattern.

## Main definitions

* `Manner` — how the cells of a word are used.
* `expandPieces` — the cells of a word.
* `expandFields`, `expandText`, `expandMarks` — what the cells make.
-/

namespace HarnessRepair.Shell

open Shell.Action

/-- How the cells of a word are used. -/
structure Manner where
  /-- What comes from expansions is split into fields. -/
  splits : Bool := false
  /-- The word stands in an expansion itself. -/
  nested : Bool := false
  /-- A tilde that comes next stands for a directory. -/
  tilde : Bool := true
  /-- A tilde behind a colon stands for a directory. -/
  colons : Bool := false

/-- The directories of users. -/
def userDirectories : List (String × String) :=
  [("root", "/root"), ("daemon", "/usr/sbin"), ("bin", "/bin"), ("sys", "/dev"),
    ("sync", "/bin"), ("games", "/usr/games"), ("man", "/var/cache/man"),
    ("lp", "/var/spool/lpd"), ("mail", "/var/mail"), ("news", "/var/spool/news"),
    ("www-data", "/var/www"), ("backup", "/var/backups"), ("nobody", "/nonexistent")]

/-- The directory that a tilde in front of a name stands for. -/
def tildeDirectory? (p : Process) (name : String) : Option String :=
  if name.isEmpty then p.get? "HOME" else userDirectories.lookup name

/-- The cells of a text without quotes. -/
def plainCells (m : Manner) (offset : Nat) (cs : List Char) : List Cell :=
  cs.map fun c => .byte c false (if m.nested && m.splits then some offset else none)

/-- The cells of a text without quotes, in front of a tilde of which one may stand; `last`
if no other piece comes behind the text. -/
def tildeCells (p : Process) (m : Manner) (offset : Nat) (last : Bool) :
    Nat → Bool → List Char → List Cell
  | 0, _, cs => plainCells m offset cs
  | _, _, [] => []
  | fuel + 1, here, c :: rest =>
    let ends (c : Char) : Bool := c == '/' || (m.colons && c == ':')
    if here && c == '~' then
      let name := rest.takeWhile fun c => !ends c
      let behind := rest.drop name.length
      let found :=
        if behind.isEmpty && !last then none else tildeDirectory? p (String.ofList name)
      match found with
      | some directory =>
        Cell.ofText directory true none ++ tildeCells p m offset last fuel false behind
      | none => plainCells m offset ['~'] ++ tildeCells p m offset last fuel false rest
    else
      plainCells m offset [c] ++ tildeCells p m offset last fuel (m.colons && c == ':') rest

/-- A text between others, joined by the first separator. -/
def joinedArguments (p : Process) : String :=
  let separator := match p.get? "IFS" with
    | some s => String.ofList (s.toList.take 1)
    | none => " "
  separator.intercalate p.arguments

/-- The cells of all arguments that stay apart. -/
def argumentCells (quoted : Bool) (offset : Nat) : List String → List Cell
  | [] => []
  | [a] => Cell.ofText a quoted (some offset)
  | a :: as =>
    Cell.ofText a quoted (some offset) ++ .cut quoted offset :: argumentCells quoted offset as

/-- Whether a parameter stands for all arguments. -/
def isAllArguments (name : String) : Bool := name == "@" || name == "*"

/-- The value of a parameter as one text; none if it is not set. -/
def parameterText? (s : State) (name : String) : Option String :=
  if isAllArguments name then some (joinedArguments s.process) else s.parameter? name

/-- The cells of a text that comes from an expansion. -/
def valueCells (quoted : Bool) (offset : Nat) (s : String) : List Cell :=
  Cell.ofText s quoted (if quoted then none else some offset)

/-- The cells of the value of a parameter. -/
def parameterCells (s : State) (m : Manner) (offset : Nat) (name : String) (quoted : Bool) :
    List Cell :=
  if isAllArguments name && m.splits && (!quoted || name == "@") then
    argumentCells quoted offset s.process.arguments
  else valueCells quoted offset ((parameterText? s name).getD "")

/-- A text of bytes without zeros among them and without line ends behind it. -/
def outputText (bs : List UInt8) : String :=
  Text.ofBytes ((bs.filter (· != 0)).reverse.dropWhile (· == 10)).reverse

/-- Tells that a parameter is not set. -/
def notSet {α : Type} (name : String) : Action α := raise (name ++ ": parameter not set")

/-- The value of an arithmetic expression. -/
def evaluateSum (expression : String) : Action Int := do
  let s ← get
  match sumOf (fun name => s.parameter? name) expression with
  | .ok (n, assigned) =>
    assigned.reverse.forM fun a => assign a.1 a.2
    return n
  | .error e => raise (e.message expression)

mutual

/-- The cells of the pieces of a word, behind so many other cells.  `inner` runs the
scripts in the word and gives what they write. -/
def expandPieces (inner : Script → Action (List UInt8)) :
    Nat → Manner → Nat → List Piece → Action (List Cell)
  | 0, _, _, _ => throw (.killed 11)
  | _, _, _, [] => return []
  | fuel + 1, m, offset, p :: ps => do
    let first ← match p with
      | .text s true => pure (if s.isEmpty then [Cell.quotes] else Cell.ofText s true none)
      | .text s false =>
        pure (tildeCells (← process) m offset ps.isEmpty (s.length + 1) m.tilde s.toList)
      | .parameter name expansion operand quoted =>
        expandParameter inner fuel m offset name expansion operand quoted
      | .output script quoted =>
        let bs ← inner script
        pure (valueCells quoted offset (outputText bs))
      | .sum expression quoted =>
        let cells ← expandPieces inner fuel { tilde := false } 0 expression
        let n ← evaluateSum (textOf cells)
        pure (valueCells quoted offset (toString n))
    let tilde := match p with
      | .text s false => m.colons && s.toList.getLast? == some ':'
      | _ => false
    return first ++ (← expandPieces inner fuel { m with tilde := tilde } (offset + first.length) ps)

/-- The cells that a parameter expands to. -/
def expandParameter (inner : Script → Action (List UInt8)) :
    Nat → Manner → Nat → String → Expansion → List Piece → Bool → Action (List Cell)
  | 0, _, _, _, _, _, _ => throw (.killed 11)
  | fuel + 1, m, offset, name, expansion, operand, quoted => do
    if expansion = .meaningless then raise "Bad substitution"
    let s ← get
    let found := parameterText? s name
    let given (blankToo : Bool) : Bool := found.any fun v => !(blankToo && v.isEmpty)
    let value := parameterCells s m offset name quoted
    let instead : Action (List Cell) :=
      expandPieces inner fuel { m with nested := true, tilde := true } offset operand
    let operandCells : Action (List Cell) :=
      expandPieces inner fuel {} 0 operand
    let demand : Action Unit := do
      if found.isNone && s.process.options.needsParameters && !isAllArguments name then notSet name
    match expansion with
    | .value =>
      demand
      return value
    | .length =>
      demand
      return valueCells quoted offset (toString (found.getD "").length)
    | .orDefault blankToo => if given blankToo then return value else instead
    | .ifSet blankToo => if given blankToo then instead else return []
    | .assigning blankToo =>
      if given blankToo then return value
      let text := textOf (← operandCells)
      if !isName name then raise (name ++ ": bad variable name")
      assign name text
      return parameterCells (← get) m offset name quoted
    | .orFail blankToo =>
      if given blankToo then return value
      if operand.isEmpty then
        raise (name ++ ": parameter not set" ++ if blankToo then " or null" else "")
      raise (name ++ ": " ++ textOf (← operandCells))
    | .withoutStart longest =>
      demand
      let gs := globsOf (marksOf (← operandCells))
      return valueCells quoted offset
        (String.ofList (withoutStart longest gs (found.getD "").toList))
    | .withoutEnd longest =>
      demand
      let gs := globsOf (marksOf (← operandCells))
      return valueCells quoted offset
        (String.ofList (withoutEnd longest gs (found.getD "").toList))
    | .meaningless => raise "Bad substitution"

end

/-- The text of a word that is not split; with `colons` a tilde may stand behind them. -/
def expandText (inner : Script → Action (List UInt8)) (fuel : Nat) (colons : Bool) (w : Word) :
    Action String := do
  return textOf (← expandPieces inner fuel { colons := colons } 0 w)

/-- The marks of a word that is a pattern. -/
def expandMarks (inner : Script → Action (List UInt8)) (fuel : Nat) (w : Word) :
    Action (List Mark) := do
  return marksOf (← expandPieces inner fuel {} 0 w)

/-- The fields of a word, with the paths that patterns stand for. -/
def expandFields (inner : Script → Action (List UInt8)) (fuel : Nat) (w : Word) :
    Action (List String) := do
  let cells ← expandPieces inner fuel { splits := true } 0 w
  let s ← get
  let p := s.process
  return fieldsOf s.machine.files p.directory p.separators (!p.options.plainPatterns) cells

end HarnessRepair.Shell
