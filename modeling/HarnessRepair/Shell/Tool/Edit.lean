import HarnessRepair.Shell.Tool.Basic
import HarnessRepair.Shell.Tool.EditScript

/-!
# Editing lines

`sed` runs a script of one-letter commands on each line.

## Main definitions

* `EditOutput` — what is written to a file.
* `Editing` — the state of a run.
* `Editing.runLines` — the run.
* `editLines` — the tool.
-/

namespace HarnessRepair.Shell

open Work

/-! ### Running -/

/-- What is written to a file. -/
structure EditOutput where
  /-- The parts, the last one first. -/
  parts : List (List UInt8) := []
  /-- The last line has no end, which has to come before anything else. -/
  unended : Bool := false

/-- The output with an end of its last line. -/
def EditOutput.closed (o : EditOutput) (separator : String) : EditOutput :=
  if o.unended then { o with parts := Text.toBytes separator :: o.parts, unended := false } else o

/-- The output with more bytes behind a whole line. -/
def EditOutput.put (o : EditOutput) (separator : String) (bs : List UInt8) : EditOutput :=
  let o := o.closed separator
  { o with parts := bs :: o.parts }

/-- The output with a line more, which has an end if `ended`. -/
def EditOutput.putLine (o : EditOutput) (separator text : String) (ended : Bool) : EditOutput :=
  { o.put separator (Text.toBytes (if ended then text ++ separator else text)) with
    unended := !ended }

/-- All that has been written. -/
def EditOutput.bytes (o : EditOutput) : List UInt8 := o.parts.reverse.flatten

/-- The state of a run. -/
structure Editing where
  /-- The lines that are left, each with its file and whether a separator ends it. -/
  rest : List (String × String × Bool)
  /-- What ends a line. -/
  separator : String := "\n"
  /-- How wide lines are spelled out. -/
  width : Nat := 70
  pattern : String := ""
  file : String := "-"
  ended : Bool := true
  hold : String := ""
  holdEnded : Bool := true
  line : Nat := 0
  /-- The ranges that are open, by the number of their command, with their last line. -/
  ranges : List (Nat × Option Nat) := []
  /-- What comes behind the line at hand. -/
  queue : List (List UInt8) := []
  replaced : Bool := false
  lastRegex : Option (Regex × Bool) := none
  output : EditOutput := {}
  /-- What is written to files by their names. -/
  files : List (String × EditOutput) := []
  /-- How many lines have been taken of files that are read line by line. -/
  taken : List (String × Nat) := []
  status : Nat := 0
  quiet : Bool
  /-- The output replaces the file at hand. -/
  inPlace : Bool := false
  /-- No file comes after the one at hand. -/
  isDone : Bool := false

namespace Editing

/-- The state with a text as more output. -/
def emit (e : Editing) (text : String) : Editing :=
  { e with output := e.output.put e.separator (Text.toBytes text) }

/-- The state with the line at hand written. -/
def emitPattern (e : Editing) : Editing :=
  { e with output := e.output.putLine e.separator e.pattern e.ended }

/-- The state with a line written to a file by its name; `ended` if its end is.  The standard
output has a name too: what goes there mixes with the output, but whether a line has its end
is known of each apart. -/
def writeLine (e : Editing) (path : String) (text : String) (ended : Bool) : Editing :=
  let old := (e.files.lookup path).getD {}
  let new := old.putLine e.separator text ended
  let more := new.parts.take (new.parts.length - old.parts.length)
  let output :=
    if path = "/dev/stdout" && !e.inPlace then { e.output with parts := more ++ e.output.parts }
    else e.output
  { e with output := output, files := (path, new) :: e.files.filter (·.1 != path) }

/-- The state with what comes behind the line written. -/
def flush (e : Editing) : Editing :=
  { e with
    output := e.queue.foldl (fun o bs => o.put e.separator bs) e.output
    queue := [] }

/-- The expression to match, and whether the size of letters counts; an empty one stands for
the last. -/
def regexOr (e : Editing) (r : Option Regex) (folds : Bool) : Option (Regex × Bool) :=
  match r with
  | some r => some (r, folds)
  | none => e.lastRegex

/-- Whether an address is that of the line at hand. -/
def isAt (e : Editing) (a : Address) : Bool × Editing :=
  match a with
  | .line n => (e.line == n, e)
  | .step first each =>
    (if each = 0 then e.line == first else first ≤ e.line && (e.line - first) % each == 0, e)
  | .last => (e.rest.isEmpty, e)
  | .matching r folds =>
    match e.regexOr r folds with
    | some (r, folds) =>
      ((r.find? folds e.pattern.toList.toArray 0).isSome, { e with lastRegex := some (r, folds) })
    | none => (false, e)
  | .further _ | .multiple _ => (false, e)

/-- Whether a command with a number is for the line at hand. -/
def selects (e : Editing) (index : Nat) (c : EditCommand) : Bool × Editing :=
  match c.first, c.second with
  | none, _ => (!c.inverted, e)
  | some a, none =>
    let (b, e) := e.isAt a
    (b != c.inverted, e)
  | some a, some z =>
    let close (e : Editing) : Editing := { e with ranges := e.ranges.filter (·.1 != index) }
    let reopen (e : Editing) (last : Option Nat) : Editing :=
      { close e with ranges := (index, last) :: (close e).ranges }
    match e.ranges.lookup index with
    | some (some last) =>
      let e := if last ≤ e.line then close e else e
      ((e.line ≤ last) != c.inverted, e)
    | some none =>
      let (b, e) := e.isAt z
      (!c.inverted, if b then close e else e)
    | none =>
      let zero := match a with
        | .line 0 => e.line == 1
        | _ => false
      if zero then
        let (b, e) := e.isAt z
        (!c.inverted, if b then e else reopen e none)
      else
        let (b, e) := e.isAt a
        if !b then (c.inverted, e)
        else
          let e := match z with
            | .line n => if e.line < n then reopen e (some n) else e
            | .further n => if 0 < n then reopen e (some (e.line + n)) else e
            | .multiple n =>
              if n = 0 then e else reopen e (some ((e.line / n + 1) * n))
            | .last => if e.rest.isEmpty then e else reopen e none
            | _ => reopen e none
          (!c.inverted, e)

/-- Texts with their letters changed as parts in between ask for. -/
def substituted (m : Match) (text : Array Char) : List Substitute → Char → Char → List Char
  | [], _, _ => []
  | .letters mode :: rest, lasting, _ =>
    if mode = 'u' ∨ mode = 'l' then substituted m text rest lasting mode
    else substituted m text rest mode 'E'
  | part :: rest, lasting, once =>
    let cs := match part with
      | .text s => s.toList
      | .group n => m.textOf text n
      | .letters _ => []
    let cs :=
      if lasting = 'U' then cs.map Char.toUpper
      else if lasting = 'L' then cs.map Char.toLower
      else cs
    match cs with
    | [] => substituted m text rest lasting once
    | c :: more =>
      let c := if once = 'u' then c.toUpper else if once = 'l' then c.toLower else c
      c :: more ++ substituted m text rest lasting 'E'

/-- A text with matches replaced, from a position on; `count` matches have been seen, and
one that ended here has been replaced if `touched`.  The answer says whether one was. -/
def replaceFrom (r : Replacement) (regex : Regex) (folds : Bool) (text : Array Char) :
    Nat → Nat → Nat → Bool → List Char × Bool
  | 0, start, _, _ => ((text.extract start text.size).toList, false)
  | fuel + 1, start, count, touched =>
    match regex.find? folds text start with
    | none => ((text.extract start text.size).toList, false)
    | some m =>
      if m.stop = m.start && m.start = start && touched then
        match text[start]? with
        | some c =>
          let (rest, b) := replaceFrom r regex folds text fuel (start + 1) count false
          (c :: rest, b)
        | none => ([], false)
      else
        let count := count + 1
        let front := (text.extract start m.start).toList
        let wanted := r.number.getD 1
        let here := wanted == count || (r.everywhere && wanted ≤ count)
        let body := if here then substituted m text r.parts 'E' 'E' else m.textOf text 0
        if here && !r.everywhere then
          (front ++ body ++ (text.extract m.stop text.size).toList, true)
        else if m.stop = m.start then
          match text[m.stop]? with
          | some c =>
            let (rest, b) := replaceFrom r regex folds text fuel (m.stop + 1) count false
            (front ++ body ++ c :: rest, b || here)
          | none => (front ++ body, here)
        else
          let (rest, b) := replaceFrom r regex folds text fuel m.stop count true
          (front ++ body ++ rest, b || here)

/-- The state after a replacement. -/
def replace (e : Editing) (r : Replacement) : Editing :=
  match e.regexOr r.regex r.folds with
  | none => e
  | some (regex, folds) =>
    let text := e.pattern.toList.toArray
    let (cs, b) := replaceFrom r regex folds text (text.size + 2) 0 0 false
    let e := { e with lastRegex := some (regex, folds) }
    if !b then e
    else
      let e := { e with pattern := String.ofList cs, replaced := true }
      let e := if r.prints then e.emitPattern else e
      match r.file with
      | some path => e.writeLine path e.pattern e.ended
      | none => e

/-- A byte as it is spelled out. -/
def spelledByte (c : Char) : String :=
  match [('\\', "\\\\"), ('\x07', "\\a"), ('\x08', "\\b"), ('\x0c', "\\f"), ('\n', "\\n"),
    ('\x0d', "\\r"), ('\t', "\\t"), ('\x0b', "\\v")].lookup c with
  | some t => t
  | none =>
    let n := c.toNat
    if 32 ≤ n ∧ n < 127 then String.singleton c
    else
      let ds := Nat.toDigits 8 n
      "\\" ++ String.ofList (List.replicate (3 - ds.length) '0' ++ ds)

/-- The text of a line in which all that is no letter is written out, in lines of at most a
width with a backslash behind all but the last; of any width for zero. -/
def spelledOut (width : Nat) (s : String) : String :=
  let (text, _) := s.toList.foldl
    (fun (text, column) c =>
      let t := spelledByte c
      if width ≠ 0 ∧ width - 1 < column + t.length then (text ++ "\\\n" ++ t, t.length)
      else (text ++ t, column + t.length))
    ("", 0)
  text ++ "$\n"

/-- How the script goes on. -/
inductive Step where
  | onward
  | jump (label : String)
  /-- To the end of the braces that start here. -/
  | skip
  /-- The next line, with the one at hand written if asked for. -/
  | cycle (writes : Bool)
  /-- The script again, with what is left of the line at hand. -/
  | restart
  | quit (writes : Bool)
  /-- The end, with the line at hand written to its end. -/
  | leave

/-- The next line in place of the one at hand; none if there is none. -/
def advance (e : Editing) : Option Editing :=
  match e.rest with
  | (file, s, ended) :: rest =>
    some { e with rest := rest, pattern := s, file := file, ended := ended, line := e.line + 1 }
  | [] => none

/-- The part of a text in front of its first line feed. -/
def firstPart (s : String) : String := String.ofList (s.toList.takeWhile (· != '\n'))

/-- Whether the first line of the text at hand has an end. -/
def firstEnded (e : Editing) : Bool := e.ended || e.pattern.toList.contains '\n'

/-- What a command with one letter does. -/
def plain (e : Editing) (c : Char) : Step × Editing :=
  if c = '=' then (.onward, e.emit (toString e.line ++ "\n"))
  else if c = 'd' then (.cycle false, e)
  else if c = 'D' then
    if e.pattern.toList.contains '\n' then
      let left := e.pattern.toList.drop ((firstPart e.pattern).length + 1)
      (.restart, { e with pattern := String.ofList left })
    else (.cycle false, e)
  else if c = 'g' then (.onward, { e with pattern := e.hold, ended := e.holdEnded })
  else if c = 'G' then
    (.onward, { e with pattern := e.pattern ++ "\n" ++ e.hold, ended := e.holdEnded })
  else if c = 'h' then (.onward, { e with hold := e.pattern, holdEnded := e.ended })
  else if c = 'H' then
    (.onward, { e with hold := e.hold ++ "\n" ++ e.pattern, holdEnded := e.ended })
  else if c = 'x' then
    (.onward,
      { e with pattern := e.hold, ended := e.holdEnded, hold := e.pattern, holdEnded := e.ended })
  else if c = 'p' then (.onward, e.emitPattern)
  else if c = 'P' then
    (.onward, { e with output := e.output.putLine e.separator (firstPart e.pattern) e.firstEnded })
  else if c = 'z' then (.onward, { e with pattern := "" })
  else if c = 'n' then
    if e.rest.isEmpty then (.quit true, e)
    else
      let e := (if e.quiet then e else e.emitPattern).flush
      (.onward, e.advance.getD e)
  else if c = 'N' then
    let e := e.flush
    match e.advance with
    | some f => (.onward, { f with pattern := e.pattern ++ "\n" ++ f.pattern })
    | none => (.quit true, e)
  else (.onward, e.emit (e.file ++ "\n"))

/-- What a command does. -/
def act (read : String → List UInt8) (e : Editing) (c : EditCommand) : Step × Editing :=
  match c.action with
  | .replace r => (.onward, e.replace r)
  | .translate source target =>
    let pairs := source.zip target
    let text := e.pattern.toList.map fun c => (pairs.lookup c).getD c
    (.onward, { e with pattern := String.ofList text })
  | .append text => (.onward, { e with queue := e.queue ++ [Text.toBytes text] })
  | .insert text => (.onward, e.emit text)
  | .change text =>
    let last := c.second.isNone || c.inverted || e.ranges.isEmpty
    (.cycle false, if last then e.emit text else e)
  | .branch letter label =>
    if letter = 'b' then (.jump label, e)
    else if (letter = 't') = e.replaced then (.jump label, { e with replaced := false })
    else (.onward, { e with replaced := false })
  | .readFile path => (.onward, { e with queue := e.queue ++ [read path] })
  | .readLine path =>
    let n := (e.taken.lookup path).getD 0
    let e := { e with taken := (path, n + 1) :: e.taken.filter (·.1 != path) }
    match (byteLines (read path))[n]? with
    | some line =>
      let line := if line.getLast? = some 10 then line else line ++ [10]
      (.onward, { e with queue := e.queue ++ [line] })
    | none => (.onward, e)
  | .writeFile whole path =>
    (.onward,
      if whole then e.writeLine path e.pattern e.ended
      else e.writeLine path (firstPart e.pattern) e.firstEnded)
  | .spell width => (.onward, e.emit (spelledOut (width.getD e.width) e.pattern))
  | .quit quietly status =>
    let e := { e with status := status, isDone := true }
    if quietly then (.quit false, { e with queue := [] }) else (.leave, e)
  | .openBrace | .closeBrace | .label _ => (.onward, e)
  | .plain letter => plain e letter

/-- The commands behind the braces that are open. -/
def behindBraces : Nat → List (Nat × EditCommand) → List (Nat × EditCommand)
  | _, [] => []
  | depth, (_, c) :: rest =>
    match c.action with
    | .openBrace => behindBraces (depth + 1) rest
    | .closeBrace => if depth = 0 then rest else behindBraces (depth - 1) rest
    | _ => behindBraces depth rest

/-- The commands behind a label. -/
def behindLabel (label : String) (all : List (Nat × EditCommand)) : List (Nat × EditCommand) :=
  (all.dropWhile fun (_, c) =>
    match c.action with
    | .label name => name != label
    | _ => true).drop 1

/-- Runs commands on the line at hand. -/
def runCommands (read : String → List UInt8) (all : List (Nat × EditCommand)) :
    Nat → List (Nat × EditCommand) → Editing → Step × Editing
  | 0, _, e => (.quit false, e)
  | _, [], e => (.cycle true, e)
  | fuel + 1, (index, c) :: rest, e =>
    let (selected, e) := e.selects index c
    if !selected then
      match c.action with
      | .openBrace => runCommands read all fuel (behindBraces 0 rest) e
      | _ => runCommands read all fuel rest e
    else
      match act read e c with
      | (.onward, e) => runCommands read all fuel rest e
      | (.jump label, e) =>
        if label.isEmpty then (.cycle true, e)
        else runCommands read all fuel (behindLabel label all) e
      | done => done

/-- Runs a script on all lines. -/
def runLines (read : String → List UInt8) (all : List (Nat × EditCommand)) :
    Nat → Bool → Editing → Editing
  | 0, _, e => e
  | fuel + 1, again, e =>
    match if again then some e else e.advance with
    | none => e
    | some e =>
      let finish (writes : Bool) (e : Editing) : Editing :=
        (if writes && !e.quiet then e.emitPattern else e).flush
      match runCommands read all 100000 all { e with replaced := again && e.replaced } with
      | (.quit writes, e) => finish writes e
      | (.leave, e) =>
        let e := finish true e
        { e with output := e.output.closed e.separator }
      | (.restart, e) => runLines read all fuel true (finish false e)
      | (.cycle writes, e) => runLines read all fuel false (finish writes e)
      | (_, e) => runLines read all fuel false (finish true e)

end Editing

/-- The labels that a script jumps to without having them. -/
def missingLabel? (script : List EditCommand) : Option String :=
  let labels := script.filterMap fun c =>
    match c.action with
    | .label name => some name
    | _ => none
  script.findSome? fun c =>
    match c.action with
    | .branch _ name => if name.isEmpty || labels.contains name then none else some name
    | _ => none

/-- Shows how to call the tool. -/
def showEditUsage {α : Type} : Work α := do
  announce "Usage: sed [OPTION]... \x7bscript-only-if-no-other-script\x7d [input-file]..."
  fail 1
  stop

/-- The options of the tool. -/
def editOptions : OptionTable :=
  ⟨"nErszubVi", "efli",
    [("quiet", 'n'), ("silent", 'n'), ("regexp-extended", 'E'), ("expression", 'e'),
      ("file", 'f'), ("line-length", 'l'), ("separate", 's'), ("null-data", 'z'),
      ("zero-terminated", 'z'), ("unbuffered", 'u'), ("posix", 'b'), ("version", 'V'),
      ("in-place", 'i')]⟩

/-- The files that a script writes to. -/
def writtenPaths (script : List EditCommand) : List String :=
  script.filterMap fun c =>
    match c.action with
    | .writeFile _ path => some path
    | .replace r => r.file
    | _ => none

/-- Where the copy of a file goes that is edited in place: a name with a star stands for the
whole name, and any other is its ending. -/
def copyPath (ending path : String) : String :=
  let parts := Text.splitOnChar '/' path
  let name := parts.getLastD ""
  let front := "/".intercalate (parts.dropLast ++ [""])
  if !ending.toList.contains '*' then path ++ ending
  else
    let whole := name.intercalate (Text.splitOnChar '*' ending)
    if whole.toList.contains '/' then whole else front ++ whole

/-- A file that is edited: its path, and its bytes unless it cannot be read. -/
structure EditedFile where
  path : String
  content : Except IoError (List UInt8)

namespace EditedFile

/-- The lines of a file. -/
def lines (separator : UInt8) (s : EditedFile) : List (String × String × Bool) :=
  (piecesAt separator (s.content.toOption.getD [])).map fun line =>
    let ended := line.getLast? == some separator
    (s.path, Text.ofBytes (if ended then line.dropLast else line), ended)

/-- Tells of a file that cannot be read. -/
def tellFault (inPlace : Bool) (s : EditedFile) : Work Unit := do
  match s.content with
  | .ok _ => return
  | .error .isDirectory =>
    if inPlace then giveUp 4 ("couldn't edit " ++ s.path ++ ": not a regular file")
    complain ("read error on " ++ (if s.path = "-" then "stdin" else s.path) ++ ": " ++
      reason .isDirectory)
    fail 2
  | .error e =>
    complain ("can't read " ++ s.path ++ ": " ++ reason e)
    fail 2

end EditedFile

/-- Edits lines. -/
def editLines : Tool := fun c => do
  match readOptions editOptions c.args with
  | .ok (choices, operands) => (work choices operands).run c
  | .error e => (do complain e; showEditUsage : Work Unit).run c
where
  /-- The work on some operands. -/
  work (choices : List Choice) (operands : List String) : Work Unit := do
    if isChosen choices 'V' then
      printLine "sed (GNU sed) 4.9"
      stop
    let scripts ← (choices.filter fun o => o.1 == 'e' || o.1 == 'f').mapM fun (kind, text) => do
      if kind = 'e' then return text
      match ← readFile text with
      | .ok bs => return "\n".intercalate (textLines bs)
      | .error e => giveUp 4 ("couldn't open file " ++ text ++ ": " ++ reason e)
    let (text, operands) ← match scripts, operands with
      | [], text :: rest => pure (text, rest)
      | [], [] => showEditUsage
      | scripts, operands => pure ("\n".intercalate scripts, operands)
    let extended := isChosen choices 'E' || isChosen choices 'r'
    let script ← match readEdits extended text with
      | .ok script => pure script
      | .error e =>
        let front := match e.position with
          | some n => "-e expression #1, char " ++ toString n ++ ": "
          | none => ""
        giveUp 1 (front ++ e.reason)
    if let some label := missingLabel? script then
      giveUp 4 ("can't find label for jump to \x60" ++ label ++ "'")
    let inPlace := isChosen choices 'i'
    if inPlace && operands.isEmpty then giveUp 4 "no input files"
    let sources ← (if operands.isEmpty then ["-"] else operands).mapM fun path => do
      if inPlace && path = "-" then return (⟨path, .error .notFound⟩ : EditedFile)
      return ⟨path, ← readFile path⟩
    let b ← get
    let directory := (← read).directory
    let read (path : String) : List UInt8 :=
      ((b.files.read (pathIn directory path)).toOption.map Content.bytes).getD []
    let separator : UInt8 := if isChosen choices 'z' then 0 else 10
    let start : Editing :=
      { rest := []
        separator := String.singleton (Char.ofNat separator.toNat)
        width := ((chosen? choices 'l').bind fun s => Text.natOfDigits? s.toList).getD 70
        files := (writtenPaths script).eraseDups.map fun path => (path, {})
        inPlace := inPlace
        -- A mark in the first line of a script is as good as the option.
        quiet := isChosen choices 'n' || (Text.stripPrefix? "#n".toList text.toList).isSome }
    let numbered := script.zipIdx.map fun (c, i) => (i, c)
    let run (e : Editing) (lines : List (String × String × Bool)) : Editing :=
      Editing.runLines read numbered 1000000 false
        { e with
          rest := lines, line := 0, ranges := [], hold := "", holdEnded := true, taken := [] }
    let e ← if inPlace || isChosen choices 's' then
        sources.foldlM
          (fun (e : Editing) source => do
            if e.isDone then return e
            source.tellFault inPlace
            let bs ← match source.content with
              | .ok bs => pure bs
              | .error _ => return e
            let e := run e (source.lines separator)
            if !inPlace then return e
            let ending := (chosen? choices 'i').getD ""
            if !ending.isEmpty then discard (writeFile (copyPath ending source.path) bs)
            discard (writeFile source.path e.output.bytes)
            return { e with output := {} })
          start
      else
        let e := run start (sources.flatMap (·.lines separator))
        -- Files behind the last line that has been read are never opened.
        let count := (sources.flatMap (·.lines separator)).length - e.rest.length
        discard <| sources.foldlM
          (fun n source => do
            if !e.isDone || n < count then source.tellFault false
            return n + (source.lines separator).length)
          0
        pure e
    print e.output.bytes
    if e.status ≠ 0 then fail e.status
    e.files.forM fun (path, o) => do
      if path = "/dev/stdout" then
        if inPlace then print o.bytes
      else if path = "/dev/stderr" then
        modify fun b => { b with written := (2, o.bytes) :: b.written }
      else discard (writeFile path o.bytes)

end HarnessRepair.Shell
