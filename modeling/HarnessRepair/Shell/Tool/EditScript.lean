import HarnessRepair.Shell.Tool.Expression

/-!
# Scripts that edit lines

A script for `sed` is a row of one-letter commands, each with the lines that it is for.

## Main definitions

* `Address`, `EditAction`, `EditCommand` — a script.
* `EditReading` — a computation on the text of one.
* `readEdits` — the script that a text writes.
-/

namespace HarnessRepair.Shell

/-! ### Scripts -/

/-- Which lines a command is for. -/
inductive Address where
  | line (n : Nat)
  | step (first each : Nat)
  | last
  /-- Lines in which an expression matches; none stands for the last one used. -/
  | matching (r : Option Regex) (folds : Bool)
  /-- So many lines behind the first. -/
  | further (n : Nat)
  /-- Up to the next line whose number is a multiple. -/
  | multiple (n : Nat)

/-- A part of the text that a match is replaced by. -/
inductive Substitute where
  | text (s : String)
  | group (n : Nat)
  /-- Changes the size of letters behind: `U`, `L`, `u`, `l` or `E`. -/
  | letters (mode : Char)

/-- How matches are replaced. -/
structure Replacement where
  regex : Option Regex
  folds : Bool := false
  parts : List Substitute
  everywhere : Bool := false
  number : Option Nat := none
  prints : Bool := false
  file : Option String := none

/-- What a command does. -/
inductive EditAction where
  | replace (r : Replacement)
  | translate (source target : List Char)
  | append (text : String)
  | insert (text : String)
  | change (text : String)
  | branch (letter : Char) (label : String)
  | label (name : String)
  | readFile (path : String)
  /-- One more line of a file. -/
  | readLine (path : String)
  /-- Writes the line at hand, or its first part only. -/
  | writeFile (whole : Bool) (path : String)
  /-- Spells the line at hand out, at most so wide. -/
  | spell (width : Option Nat)
  /-- Ends with a status; with `quietly` the line at hand is not written. -/
  | quit (quietly : Bool) (status : Nat)
  | openBrace
  | closeBrace
  | plain (letter : Char)

/-- A command with the lines that it is for. -/
structure EditCommand where
  first : Option Address
  second : Option Address
  inverted : Bool
  action : EditAction

/-- Why a text is no script: the position, if it has one, and what is wrong. -/
structure EditFault where
  position : Option Nat
  reason : String

/-! ### Reading -/

/-- What is left of a script, and how much there was. -/
structure EditSource where
  rest : List Char
  total : Nat
  extended : Bool

/-! ### Escapes -/

/-- The letters that write a character behind a backslash. -/
def escapeLetters : List (Char × Char) :=
  [('a', '\x07'), ('f', '\x0c'), ('n', '\n'), ('r', '\x0d'), ('t', '\t'), ('v', '\x0b')]

/-- The value of at most so many digits of a base in front of a text, and what is behind. -/
def codeIn? (base count : Nat) (cs : List Char) : Option (Char × List Char) :=
  let value? (c : Char) : Option Nat := (Text.hexValue? c).filter (· < base)
  let digits := (cs.take count).takeWhile fun c => (value? c).isSome
  if digits.isEmpty then none
  else
    let n := digits.foldl (fun n c => n * base + (value? c).getD 0) 0
    some (Char.ofNat (n % 256), cs.drop digits.length)

/-- The character that a letter behind a backslash writes with what is behind it, and what is
left then. -/
def escape? (c : Char) (rest : List Char) : Option (Char × List Char) :=
  if c = 'x' then codeIn? 16 2 rest
  else if c = 'o' then codeIn? 8 3 rest
  else if c = 'd' then codeIn? 10 3 rest
  else if c = 'c' then
    match rest with
    | d :: more => some (Char.ofNat (Nat.xor d.toUpper.toNat 64), more)
    | [] => none
  else (escapeLetters.lookup c).map fun d => (d, rest)

/-- A computation on a script. -/
abbrev EditReading := StateT EditSource (Except EditFault)

namespace EditReading

/-- Tells what is wrong at the place at hand. -/
def fault {α : Type} (reason : String) : EditReading α :=
  fun s => .error ⟨some (s.total - s.rest.length), reason⟩

/-- The next character. -/
def next : EditReading (Option Char) := do
  let s ← get
  match s.rest with
  | c :: rest =>
    set { s with rest := rest }
    return some c
  | [] => return none

/-- The next character, which stays. -/
def peek : EditReading (Option Char) := return (← get).rest.head?

/-- The characters at the front that belong to a class. -/
def takeWhile (accepts : Char → Bool) : EditReading (List Char) := do
  let s ← get
  let cs := s.rest.takeWhile accepts
  set { s with rest := s.rest.drop cs.length }
  return cs

/-- Passes over blanks. -/
def skipBlanks : EditReading Unit := discard (takeWhile fun c => c == ' ' || c == '\t')

/-- The number at the front. -/
def number : EditReading Nat := return (Text.natOfDigits? (← takeWhile Char.isDigit)).getD 0

/-- The text up to a delimiter.  A protected delimiter loses its backslash, escapes in an
expression are followed, and other backslashes stay; inside of brackets nothing is a
delimiter. -/
def untilDelimiter (delimiter : Char) (regex : Bool) :
    Nat → List Char → Bool → Option (List Char × List Char)
  | 0, _, _ => none
  | _, [], _ => none
  | fuel + 1, '\\' :: c :: rest, inClass =>
    let (kept, rest) :=
      if c = delimiter then ([c], rest)
      else if !regex then (['\\', c], rest)
      else
        match escape? c rest with
        | some (d, more) => ([d], more)
        | none => (['\\', c], rest)
    (untilDelimiter delimiter regex fuel rest inClass).map fun (body, behind) =>
      (kept ++ body, behind)
  | fuel + 1, c :: rest, inClass =>
    if c = delimiter && !inClass then some ([], rest)
    else
      let inside := regex && (if inClass then c != ']' else c == '[')
      (untilDelimiter delimiter regex fuel rest inside).map fun (body, behind) =>
        (c :: body, behind)

/-- Reads up to a delimiter. -/
def delimited (delimiter : Char) (regex : Bool) (reason : String) : EditReading (List Char) := do
  let s ← get
  match untilDelimiter delimiter regex (s.rest.length + 1) s.rest false with
  | some (body, rest) =>
    set { s with rest := rest }
    return body
  | none =>
    set { s with rest := [] }
    fault reason

/-- The expression that characters write; none if there are none. -/
def regexOf (cs : List Char) : EditReading (Option Regex) := do
  if cs.isEmpty then return none
  let dialect := if (← get).extended then Dialect.extendedStrict else .basic
  match readRegex dialect (String.ofList cs) with
  | .ok r => return some r
  | .error .bareClass => throw ⟨none, RegexFault.bareClass.message⟩
  | .error e => fault e.message

/-- An address, if there is one. -/
def address : EditReading (Option Address) := do
  match ← peek with
  | some c =>
    if c.isDigit then
      let n ← number
      if (← peek) = some '~' then
        discard next
        return some (.step n (← number))
      return some (.line n)
    else if c = '$' then
      discard next
      return some .last
    else if c = '/' ∨ c = '\\' then
      discard next
      let delimiter ← if c = '\\' then pure ((← next).getD '/') else pure '/'
      let r ← regexOf (← delimited delimiter true "unterminated address regex")
      let flags ← takeWhile fun c => c == 'I' || c == 'M'
      return some (.matching r (flags.contains 'I'))
    else return none
  | none => return none

/-- The address behind a comma. -/
def secondAddress : EditReading (Option Address) := do
  skipBlanks
  match ← peek with
  | some '+' =>
    discard next
    return some (.further (← number))
  | some '~' =>
    discard next
    return some (.multiple (← number))
  | _ =>
    match ← address with
    | some a => return some a
    | none =>
      discard next
      fault "unexpected \x60,'"

/-- The parts of the text that a match is replaced by. -/
def substitutes : Nat → List Char → List Substitute
  | 0, _ => []
  | _, [] => []
  | fuel + 1, '\\' :: c :: rest =>
    if c.isDigit then .group (c.toNat - 48) :: substitutes fuel rest
    else if ['U', 'L', 'u', 'l', 'E'].contains c then .letters c :: substitutes fuel rest
    else
      match escape? c rest with
      | some (d, more) => .text (String.singleton d) :: substitutes fuel more
      | none => .text (String.singleton c) :: substitutes fuel rest
  | fuel + 1, '&' :: rest => .group 0 :: substitutes fuel rest
  | fuel + 1, c :: rest => .text (String.singleton c) :: substitutes fuel rest

/-- The largest group that parts ask for. -/
def largestGroup (parts : List Substitute) : Nat :=
  parts.foldl
    (fun n part =>
      match part with
      | .group k => max n k
      | _ => n)
    0

/-- The path behind a command. -/
def pathArgument : EditReading String := do
  skipBlanks
  let path ← takeWhile (· != '\n')
  if path.isEmpty then fault "missing filename in r/R/w/W commands"
  return String.ofList path

/-- The flags of a replacement. -/
def flags : Nat → Replacement → EditReading Replacement
  | 0, r => return r
  | fuel + 1, r => do
    skipBlanks
    match ← peek with
    | some c =>
      if c = 'g' then
        discard next
        if r.everywhere then fault "multiple \x60g' options to \x60s' command"
        flags fuel { r with everywhere := true }
      else if c = 'p' then
        discard next
        if r.prints then fault "multiple \x60p' options to \x60s' command"
        flags fuel { r with prints := true }
      else if c = 'i' ∨ c = 'I' then
        discard next
        flags fuel { r with folds := true }
      else if c = 'm' ∨ c = 'M' then
        discard next
        flags fuel r
      else if c.isDigit then
        let n ← number
        if r.number.isSome then fault "multiple number options to \x60s' command"
        if n = 0 then fault "number option to \x60s' command may not be zero"
        flags fuel { r with number := some n }
      else if c = 'w' then
        discard next
        return { r with file := some (← pathArgument) }
      else if c = ';' ∨ c = '\n' ∨ c = '\x7d' ∨ c = '#' then return r
      else
        discard next
        fault "unknown option to \x60s'"
    | none => return r

/-- The text behind `a`, `i` or `c`.  A backslash in front of it keeps its blanks. -/
def textArgument : EditReading String := do
  skipBlanks
  match ← peek with
  | none => fault "expected \\ after \x60a', \x60c' or \x60i'"
  | some '\\' =>
    discard next
    let s ← get
    let behind := s.rest.dropWhile fun c => c == ' ' || c == '\t'
    if behind.head? = some '\n' then set { s with rest := behind.drop 1 }
    else if s.rest.isEmpty then return ""
  | _ => pure ()
  let s ← get
  let (body, rest) := lines (s.rest.length + 1) s.rest
  set { s with rest := rest }
  return String.ofList body ++ "\n"
where
  /-- The text up to the end of a line that no backslash protects. -/
  lines : Nat → List Char → List Char × List Char
    | 0, cs => ([], cs)
    | _, [] => ([], [])
    | fuel + 1, '\\' :: c :: rest =>
      let (c, rest) := (if c = 'n' then none else escape? c rest).getD (c, rest)
      let (body, behind) := lines fuel rest
      (c :: body, behind)
    | _, '\n' :: rest => ([], rest)
    | fuel + 1, c :: rest =>
      let (body, behind) := lines fuel rest
      (c :: body, behind)

/-- A label up to the end of its command. -/
def labelArgument : EditReading String := do
  skipBlanks
  return String.ofList (← takeWhile fun c => c != ';' && c != '\n' && c != '\x7d' && c != ' ')

/-- What the command with a letter does. -/
def action (c : Char) : EditReading EditAction := do
  if c = 's' then
    let delimiter := (← next).getD '\n'
    let regex ← delimited delimiter true "unterminated \x60s' command"
    let body ← delimited delimiter false "unterminated \x60s' command"
    let r ← flags 16 { regex := none, parts := substitutes (body.length + 1) body }
    let regex ← regexOf regex
    let groups := (regex.map Regex.groups).getD 9
    if groups < largestGroup r.parts then
      fault ("invalid reference \\" ++ toString (largestGroup r.parts) ++
        " on \x60s' command's RHS")
    return .replace { r with regex := regex }
  else if c = 'y' then
    let delimiter := (← next).getD '\n'
    let source ← delimited delimiter false "unterminated \x60y' command"
    let target ← delimited delimiter false "unterminated \x60y' command"
    let (source, target) :=
      (plainChars (source.length + 1) source, plainChars (target.length + 1) target)
    if source.length ≠ target.length then
      fault "strings for \x60y' command are different lengths"
    return .translate source target
  else if c = 'a' then return .append (← textArgument)
  else if c = 'i' then return .insert (← textArgument)
  else if c = 'c' then return .change (← textArgument)
  else if c = ':' then
    let name ← labelArgument
    if name.isEmpty then fault "\":\" lacks a label"
    return .label name
  else if c = 'b' ∨ c = 't' ∨ c = 'T' then return .branch c (← labelArgument)
  else if c = 'r' then return .readFile (← pathArgument)
  else if c = 'R' then return .readLine (← pathArgument)
  else if c = 'w' ∨ c = 'W' then return .writeFile (c == 'w') (← pathArgument)
  else if c = 'l' then
    skipBlanks
    let digits ← takeWhile Char.isDigit
    return .spell (Text.natOfDigits? digits)
  else if c = 'v' then
    discard labelArgument
    return .label ""
  else if c = 'q' ∨ c = 'Q' then
    skipBlanks
    return .quit (c == 'Q') (← number)
  else if c = '\x7b' then return .openBrace
  else if c = '\x7d' then return .closeBrace
  else if ['=', 'd', 'D', 'g', 'G', 'h', 'H', 'n', 'N', 'p', 'P', 'x', 'z', 'F'].contains c then
    return .plain c
  else fault ("unknown command: \x60" ++ String.singleton c ++ "'")
where
  /-- Characters without the backslashes that protect them. -/
  plainChars : Nat → List Char → List Char
    | 0, _ => []
    | _, [] => []
    | fuel + 1, '\\' :: c :: rest =>
      match escape? c rest with
      | some (d, more) => d :: plainChars fuel more
      | none => c :: plainChars fuel rest
    | fuel + 1, c :: rest => c :: plainChars fuel rest

/-- Commands, with so many braces open. -/
def commands : Nat → Nat → EditReading (List EditCommand)
  | 0, _ => return []
  | fuel + 1, depth => do
    discard (takeWhile fun c => c == ' ' || c == '\t' || c == '\n' || c == ';')
    if (← peek) = some '#' then
      discard (takeWhile (· != '\n'))
      commands fuel depth
    else if (← peek).isNone then
      if 0 < depth then throw ⟨some 0, "unmatched \x60\x7b'"⟩
      return []
    else
      let first ← address
      skipBlanks
      let second ←
        if first.isSome ∧ (← peek) = some ',' then
          discard next
          secondAddress
        else pure none
      let zero := match first with
        | some (.line 0) => true
        | _ => false
      let regexEnd := match second with
        | some (.matching _ _) => true
        | _ => false
      skipBlanks
      if zero && !regexEnd then
        discard next
        fault "invalid usage of line address 0"
      let inverted := (← peek) = some '!'
      if inverted then
        discard next
        skipBlanks
        if (← peek) = some '!' then
          discard next
          fault "multiple \x60!'s"
      match ← next with
      | none => fault "missing command"
      | some c =>
        if c = ':' && first.isSome then fault ": doesn't want any addresses"
        if c = '\x7d' && 0 < depth && first.isSome then
          fault "\x60\x7d' doesn't want any addresses"
        if (c = 'q' ∨ c = 'Q') && second.isSome then fault "command only uses one address"
        let a ← action c
        let depth ← match a with
          | .openBrace => pure (depth + 1)
          | .closeBrace => if depth = 0 then fault "unexpected \x60\x7d'" else pure (depth - 1)
          | _ => pure depth
        match a with
        | .replace _ | .translate _ _ | .plain _ | .quit _ _ | .closeBrace | .spell _ =>
          skipBlanks
          match ← peek with
          | none => pure ()
          | some c =>
            if !([';', '\n', '\x7d', '#'].contains c) then
              discard next
              fault "extra characters after command"
        | _ => pure ()
        return ⟨first, second, inverted, a⟩ :: (← commands fuel depth)

end EditReading

/-- The script that a text writes. -/
def readEdits (extended : Bool) (s : String) : Except EditFault (List EditCommand) :=
  (EditReading.commands (s.length + 2) 0).run' ⟨s.toList, s.length, extended⟩

end HarnessRepair.Shell
