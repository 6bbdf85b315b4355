import HarnessRepair.Shell.Tool.Basic
import HarnessRepair.Shell.Tool.Expression

/-!
# Searching for lines

`grep` writes the lines in which one of some expressions matches.

## Main definitions

* `Wanted` — what is looked for.
* `searchLines` — the tool.
-/

namespace HarnessRepair.Shell

open Work

/-- What is looked for in lines. -/
structure Wanted where
  regexes : List Regex
  folds : Bool
  wholeWords : Bool
  wholeLines : Bool

namespace Wanted

/-- Whether a match counts. -/
def accepts (p : Wanted) (text : Array Char) (m : Match) : Bool :=
  let s : Subject := ⟨text, false⟩
  if p.wholeLines then m.start == 0 && m.stop == text.size
  else if p.wholeWords then !s.wordBefore m.start && !s.wordAt m.stop
  else true

/-- The first match of an expression that counts. -/
def firstOf (p : Wanted) (text : Array Char) (r : Regex) : Nat → Nat → Option Match
  | 0, _ => none
  | fuel + 1, start =>
    match r.find? p.folds text start with
    | none => none
    | some m =>
      if p.accepts text m then some m
      else if m.start < text.size then p.firstOf text r fuel (m.start + 1)
      else none

/-- The first match from a position on, the longest of those. -/
def find? (p : Wanted) (text : Array Char) (start : Nat) : Option Match :=
  (p.regexes.filterMap fun r => p.firstOf text r (text.size + 2) start).foldl
    (fun best m =>
      match best with
      | none => some m
      | some b =>
        if m.start < b.start || (m.start == b.start && b.stop < m.stop) then some m else some b)
    none

/-- The matches in a line that hold something. -/
def all (p : Wanted) (text : Array Char) : Nat → Nat → List Match
  | 0, _ => []
  | fuel + 1, start =>
    match p.find? text start with
    | none => []
    | some m =>
      if m.stop = m.start then
        if m.start < text.size then p.all text fuel (m.start + 1) else []
      else m :: p.all text fuel m.stop

end Wanted

/-- An expression for a text that stands for itself. -/
def literalRegex (s : String) : Regex :=
  s.toList.foldr (fun c r => .seq (.char c) r) .empty

/-- Which of some lines are shown, by their numbers from one: those that match, and so
many in front and behind. -/
def withContext (before after count : Nat) (matching : List Nat) (n : Nat) : Bool :=
  n ≤ count && matching.any fun m => m ≤ n + before && n ≤ m + after

/-- What is done with the lines of one file. -/
structure SearchReport where
  choices : List Choice
  before : Nat
  after : Nat
  most : Option Nat
  /-- Lines come with the name of their file. -/
  named : Bool

/-- The front of a line that is shown. -/
def SearchReport.front (r : SearchReport) (name : String) (n offset : Nat) (sign : String) :
    String :=
  (if r.named then name ++ sign else "") ++
    (if isChosen r.choices 'n' then toString n ++ sign else "") ++
    (if isChosen r.choices 'b' then toString offset ++ sign else "")

/-- Looks through the lines of a file; whether one is chosen. -/
def SearchReport.search (r : SearchReport) (p : Wanted) (name : String) (bs : List UInt8) :
    Work Bool := do
  let lines := textLines bs
  let inverted := isChosen r.choices 'v'
  let chosen := lines.zipIdx.filterMap fun (line, i) =>
    if (p.find? line.toList.toArray 0).isSome != inverted then some (i + 1) else none
  let chosen := match r.most with
    | some m => chosen.take m
    | none => chosen
  let matched := !chosen.isEmpty
  if isChosen r.choices 'q' then return matched
  if isChosen r.choices 'l' then
    if matched then printLine name
    return matched
  if isChosen r.choices 'L' then
    if !matched then printLine name
    return matched
  if isChosen r.choices 'c' then
    printLine ((if r.named then name ++ ":" else "") ++ toString chosen.length)
    return matched
  if bs.contains 0 && !isChosen r.choices 'a' then
    if matched then complain (name ++ ": binary file matches")
    return matched
  let offsets := (lines.foldl (fun (all, offset) line => (all ++ [offset], offset + line.length + 1))
    (([], 0) : List Nat × Nat)).1
  let shown := (List.range lines.length).filterMap fun i =>
    if withContext r.before r.after lines.length chosen (i + 1) then some (i + 1) else none
  go p lines offsets chosen 0 shown
  return matched
where
  /-- Writes lines, with a dash between stretches that are apart. -/
  go (p : Wanted) (lines : List String) (offsets chosen : List Nat) : Nat → List Nat → Work Unit
    | _, [] => pure ()
    | last, n :: rest => do
      if 0 < r.before + r.after && 0 < last && last + 1 < n then printLine "--"
      let line := lines.getD (n - 1) ""
      let offset := offsets.getD (n - 1) 0
      if isChosen r.choices 'o' then
        if !isChosen r.choices 'v' then
          let text := line.toList.toArray
          (p.all text (text.size + 2) 0).forM fun m =>
            printLine (r.front name n (offset + m.start) ":" ++ String.ofList (m.textOf text 0))
      else
        printLine (r.front name n offset (if chosen.contains n then ":" else "-") ++ line)
      go p lines offsets chosen n rest

/-- The files in a directory and below it. -/
def filesBelow (fs : FileSystem) (path : String) (place : Place) : List String :=
  fs.entries.filterMap fun (p, n) =>
    match n with
    | .file _ =>
      if place.isPrefixOf p then
        let rest := "/".intercalate ((p.drop place.length).map Text.spread)
        some (if path.isEmpty then rest else path ++ "/" ++ rest)
      else none
    | _ => none

/-- Shows how to call the tool. -/
def searchUsage {α : Type} : Work α := do
  announce "Usage: grep [OPTION]... PATTERNS [FILE]..."
  announce "Try 'grep --help' for more information."
  fail 2
  stop

/-- Searches files for lines. -/
def searchLines (kind : Char) : Tool := do
  let c ← read
  -- A number behind a dash asks for context.
  let args := c.args.map fun a =>
    match a.toList with
    | '-' :: ds => if !ds.isEmpty && ds.all Char.isDigit then "-C" ++ String.ofList ds else a
    | _ => a
  let table : OptionTable :=
    ⟨"cqvinolLwxFEGPrRhHsayIUTzub", "efmABC",
      [("count", 'c'), ("quiet", 'q'), ("silent", 'q'), ("invert-match", 'v'),
        ("ignore-case", 'i'), ("line-number", 'n'), ("only-matching", 'o'),
        ("files-with-matches", 'l'), ("files-without-match", 'L'), ("word-regexp", 'w'),
        ("line-regexp", 'x'), ("fixed-strings", 'F'), ("extended-regexp", 'E'),
        ("basic-regexp", 'G'), ("recursive", 'r'), ("no-filename", 'h'), ("with-filename", 'H'),
        ("no-messages", 's'), ("text", 'a'), ("regexp", 'e'), ("file", 'f'), ("max-count", 'm'),
        ("after-context", 'A'), ("before-context", 'B'), ("context", 'C'), ("byte-offset", 'b'),
        ("color", 'T'), ("colour", 'T')]⟩
  let (choices, operands) ← match readOptions table args with
    | .ok found => pure found
    | .error e => do
      complain e
      searchUsage
  let given := choices.filter fun o => o.1 == 'e'
  let files := choices.filter fun o => o.1 == 'f'
  let (texts, operands) ←
    if given.isEmpty && files.isEmpty then
      match operands with
      | [] => searchUsage
      | text :: rest => pure ([text], rest)
    else pure (given.map (·.2), operands)
  let more ← files.mapM fun (_, path) => do
    match ← readFile path with
    | .ok bs => return textLines bs
    | .error e => giveUp 2 (path ++ ": " ++ reason e)
  let texts := texts.flatMap (Text.splitOnChar '\n') ++ more.flatten
  let kinds := choices.filter fun o => ['F', 'E', 'G', 'P'].contains o.1
  let kind := (kinds.getLast?.map (·.1)).getD kind
  let regexes ← texts.mapM fun text =>
    if kind = 'F' then pure (literalRegex text)
    else
      let dialect := if kind = 'G' then Dialect.basicLenient else .extendedLenient
      match readRegexNoting dialect text with
      | .ok (r, idle) => do
        idle.forM fun sign => complain ("warning: " ++ sign ++ " at start of expression")
        pure r
      | .error e => giveUp 2 e.message
  let number (o : Char) : Work (Option Nat) := do
    match chosen? choices o with
    | none => return none
    | some s =>
      match Text.natOfDigits? s.toList with
      | some n => return some n
      | none =>
        giveUp 2 (if o = 'm' then "invalid max count" else s ++ ": invalid context length argument")
  let around ← number 'C'
  let before ← number 'B'
  let after ← number 'A'
  let most ← number 'm'
  let deep := isChosen choices 'r' || isChosen choices 'R'
  let fs := (← get).files
  let operands := if operands.isEmpty then [if deep then "." else "-"] else operands
  let paths := operands.flatMap fun path =>
    match fs.place? (pathIn c.directory path) with
    | some place =>
      if deep && fs.node? place == some .dir then
        filesBelow fs (if c.args.contains path then path else "") place
      else [path]
    | none => [path]
  let p : Wanted :=
    ⟨regexes, isChosen choices 'i' || isChosen choices 'y', isChosen choices 'w',
      isChosen choices 'x'⟩
  let r : SearchReport :=
    { choices := choices
      before := (before.or around).getD 0
      after := (after.or around).getD 0
      most := most
      named := isChosen choices 'H' || ((1 < operands.length || deep) && !isChosen choices 'h') }
  let results ← paths.mapM fun path => do
    let name := if path = "-" then "(standard input)" else path
    match ← readFile path with
    | .ok bs => return (← r.search p name bs, false)
    | .error e =>
      if !isChosen choices 's' then complain (name ++ ": " ++ reason e)
      return (false, true)
  let found := results.any (·.1)
  let failed := results.any (·.2)
  let found := if isChosen choices 'L' then !found else found
  fail (if found && (isChosen choices 'q' || !failed) then 0 else if failed then 2 else 1)

end HarnessRepair.Shell
