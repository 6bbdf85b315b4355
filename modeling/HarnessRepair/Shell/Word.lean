import HarnessRepair.Shell.Source

/-!
# Reading words

A word is read into its pieces.  Quotes and expansions are resolved on the way; the
scripts inside of words are read by whoever reads scripts.

## Main definitions

* `Surrounding` — what the characters at hand stand in.
* `readPieces` — the pieces up to the end of what they stand in.
* `readAwaited` — the texts that begin behind a line.
-/

namespace HarnessRepair.Shell

open Reading

/-- How the scripts inside of words are read. -/
structure InnerScripts where
  /-- Up to the parenthesis that closes the script. -/
  closed : Reading Script
  /-- Up to the end of the text. -/
  whole : Reading Script

/-- The characters that stand for a parameter on their own, digits apart. -/
def isSpecialParameter (c : Char) : Bool :=
  c == '?' || c == '$' || c == '#' || c == '@' || c == '*' || c == '!' || c == '-'

/-- The characters that end a word. -/
def endsWord (c : Char) : Bool :=
  c == ' ' || c == '\t' || c == '\n' || c == ';' || c == '&' || c == '|' || c == '<' ||
    c == '>' || c == '(' || c == ')'

/-- What the characters at hand stand in. -/
inductive Surrounding where
  | bare
  | double
  /-- A text in the script. -/
  | inline
  /-- An arithmetic expression, with so many parentheses open. -/
  | sum (depth : Nat)
  | braces
  /-- Braces in something quoted; inside of `inner` quotes nothing closes them. -/
  | quotedBraces (inner : Bool)
  deriving DecidableEq, Repr

namespace Surrounding

/-- Whether characters are quoted. -/
def isQuoted : Surrounding → Bool
  | .bare | .braces => false
  | _ => true

/-- Whether a backslash stays in front of a character. -/
def keepsBackslash (s : Surrounding) (c : Char) : Bool :=
  s.isQuoted && !(c == '\\' || c == '\x60' || c == '$') &&
    match s with
    | .inline => true
    | .quotedBraces inner => c != '"' && (c != '\x7d' || inner)
    | _ => c != '"'

/-- What is wrong if the text ends here. -/
def openEnd? (inlined : Bool) : Surrounding → Option String
  | .bare | .inline => none
  | .double => some "Unterminated quoted string"
  | .sum _ => some "Missing '))'"
  | .braces => some "Missing '\x7d'"
  | .quotedBraces _ => some (if inlined then "Missing '\x7d'" else "Unterminated quoted string")

end Surrounding

/-- Pieces in reverse with one more character. -/
def addChar (c : Char) (quoted : Bool) : List Piece → List Piece
  | .text s q :: more =>
    if q = quoted then .text (s.push c) q :: more
    else .text (String.singleton c) quoted :: .text s q :: more
  | more => .text (String.singleton c) quoted :: more

/-- Pieces in reverse with a quoted text that may be empty. -/
def addQuoted (s : String) : List Piece → List Piece
  | .text t true :: more => .text (t ++ s) true :: more
  | more => .text s true :: more

/-- Pieces in reverse with those between double quotes.  All arguments alone leave no
trace of the quotes. -/
def addDoubleQuoted (inner acc : List Piece) : List Piece :=
  match inner with
  | [.parameter "@" .value [] true] => inner ++ acc
  | _ => inner.reverse ++ addQuoted "" acc

/-- The text up to a single quote. -/
def readSingle : Nat → Reading (List Char)
  | 0 => pure []
  | fuel + 1 => do
    match ← raw with
    | none => fault "Unterminated quoted string"
    | some '\'' => return []
    | some c => return c :: (← readSingle fuel)

/-- The text up to a backquote, without the backslashes that protect it. -/
def readBackquoted (quoted : Bool) : Nat → Reading (List Char)
  | 0 => pure []
  | fuel + 1 => do
    match ← next with
    | none => fault "EOF in backquote substitution"
    | some c =>
      if c = '\x60' then return []
      if c ≠ '\\' then return c :: (← readBackquoted quoted fuel)
      match ← raw with
      | none => fault "EOF in backquote substitution"
      | some d =>
        let rest ← readBackquoted quoted fuel
        if d == '\\' || d == '\x60' || d == '$' || (quoted && d == '"') then return d :: rest
        return c :: d :: rest

/-- Reads a script in the middle of a word; texts that it awaits stay empty. -/
def readInner (a : Reading Script) : Reading Script := do
  let awaited := (← get).awaited
  modify fun r => { r with awaited := [] }
  let script ← a
  modify fun r =>
    { r with
      awaited := awaited
      inlines := r.awaited.map (fun a => (a.index, [Piece.text "" true])) ++ r.inlines
      again := false
      expects := {} }
  return script

/-- The name of a parameter that starts with a character, if it is one for itself. -/
def readName (c : Char) : Reading (Option String) := do
  if isNameStart c then
    let rest ← takeWhile isNameChar (← size)
    return some (String.ofList (c :: rest))
  if c.isDigit then
    let rest ← takeWhile Char.isDigit (← size)
    return some (String.ofList (c :: rest))
  return none

/-- What is done with a parameter in braces. -/
def readExpansion : Reading Expansion := do
  match ← next with
  | some ':' =>
    match ← next with
    | some '\x7d' =>
      unread (some '\x7d')
      return .value
    | some '-' => return .orDefault true
    | some '+' => return .ifSet true
    | some '?' => return .orFail true
    | some '=' => return .assigning true
    | _ => return .meaningless
  | some '\x7d' =>
    unread (some '\x7d')
    return .value
  | some '-' => return .orDefault false
  | some '+' => return .ifSet false
  | some '?' => return .orFail false
  | some '=' => return .assigning false
  | some '%' => trim '%' Expansion.withoutEnd
  | some '#' => trim '#' Expansion.withoutStart
  | _ => return .meaningless
where
  /-- A sign that may be doubled. -/
  trim (sign : Char) (e : Bool → Expansion) : Reading Expansion := do
    match ← next with
    | some c =>
      if c = sign then return e true
      unread (some c)
      return e false
    | none => return e false

/-- The parameter in braces and what is done with it. -/
def readSubject : Reading (String × Expansion) := do
  match ← next with
  | none => return ("", .meaningless)
  | some c =>
    if c = '\x7d' then
      unread (some c)
      return ("", .meaningless)
    match ← readName c with
    | some name => return (name, ← readExpansion)
    | none =>
      if c = '#' then
        match ← next with
        | none => return ("#", ← readExpansion)
        | some d =>
          match ← readName d with
          | some name =>
            match ← next with
            | some '\x7d' =>
              unread (some '\x7d')
              return (name, .length)
            | other =>
              unread other
              return (name, .meaningless)
          | none =>
            match ← next with
            | some '\x7d' =>
              unread (some '\x7d')
              if d = '\x7d' then
                unread (some d)
                return ("#", .value)
              if isSpecialParameter d then return (String.singleton d, .length)
              return ("", .meaningless)
            | other =>
              unread other
              unread (some d)
              return ("#", ← readExpansion)
      else if isSpecialParameter c then return (String.singleton c, ← readExpansion)
      else return ("", .meaningless)

mutual

/-- The pieces up to the end of what they stand in, behind those in reverse that have
been read. -/
def readPieces (inner : InnerScripts) (inlined : Bool) :
    Nat → Surrounding → List Piece → Reading (List Piece)
  | 0, _, acc => pure acc.reverse
  | fuel + 1, s, acc => do
    match ← next with
    | none =>
      match s.openEnd? inlined with
      | some reason => fault reason
      | none => return acc.reverse
    | some c =>
      let literal := (← get).expects.delimiter
      if c = '\\' then
        match ← raw with
        | none => readPieces inner inlined fuel s (addChar '\\' true acc)
        | some d =>
          let acc := if s.keepsBackslash d then addChar '\\' true acc else acc
          readPieces inner inlined fuel s (addChar d true acc)
      else if c = '$' && !literal then
        let p ← readDollar inner inlined fuel s
        match p with
        | .text t q =>
          readPieces inner inlined fuel s (t.toList.foldl (fun a c => addChar c q a) acc)
        | p => readPieces inner inlined fuel s (p :: acc)
      else if c = '\x60' && !literal then
        let body ← readBackquoted s.isQuoted (← size)
        let script ← readInner (inText body 1 inner.whole)
        readPieces inner inlined fuel s (.output script s.isQuoted :: acc)
      else if c = '\'' && !s.isQuoted then
        let body ← readSingle (← size)
        readPieces inner inlined fuel s (addQuoted (String.ofList body) acc)
      else if c = '"' && !s.isQuoted then
        let body ← readPieces inner inlined fuel .double []
        readPieces inner inlined fuel s (addDoubleQuoted body acc)
      else
        match s with
        | .bare =>
          if endsWord c then
            unread (some c)
            return acc.reverse
          readPieces inner inlined fuel s (addChar c false acc)
        | .double =>
          if c = '"' then return acc.reverse
          readPieces inner inlined fuel s (addChar c true acc)
        | .inline => readPieces inner inlined fuel s (addChar c true acc)
        | .sum depth =>
          if c = '(' then readPieces inner inlined fuel (.sum (depth + 1)) (addChar c true acc)
          else if c = ')' then
            if 0 < depth then
              readPieces inner inlined fuel (.sum (depth - 1)) (addChar c true acc)
            else
              match ← next with
              | some ')' => return acc.reverse
              | d =>
                unread d
                readPieces inner inlined fuel s (addChar c true acc)
          else readPieces inner inlined fuel s (addChar c true acc)
        | .braces =>
          if c = '\x7d' then return acc.reverse
          readPieces inner inlined fuel s (addChar c false acc)
        | .quotedBraces within =>
          if c = '"' then
            readPieces inner inlined fuel (.quotedBraces !within) (addQuoted "" acc)
          else if c = '\x7d' && !within then return acc.reverse
          else readPieces inner inlined fuel s (addChar c true acc)

/-- The expansion behind a dollar sign. -/
def readDollar (inner : InnerScripts) (inlined : Bool) : Nat → Surrounding → Reading Piece
  | 0, _ => pure (.text "$" false)
  | fuel + 1, s => do
    match ← next with
    | none => return .text "$" s.isQuoted
    | some '(' =>
      match ← next with
      | some '(' =>
        let body ← readPieces inner inlined fuel (.sum 0) []
        return .sum body s.isQuoted
      | c =>
        unread c
        let script ← readInner inner.closed
        return .output script s.isQuoted
    | some '\x7b' =>
      let (name, expansion) ← readSubject
      let trims := match expansion with
        | .withoutStart _ | .withoutEnd _ => true
        | _ => false
      let within :=
        if s.isQuoted && !trims then Surrounding.quotedBraces false else Surrounding.braces
      let operand ← readPieces inner inlined fuel within []
      return .parameter name expansion operand s.isQuoted
    | some c =>
      if isNameStart c then
        let rest ← takeWhile isNameChar (← size)
        return .parameter (String.ofList (c :: rest)) .value [] s.isQuoted
      if c.isDigit || isSpecialParameter c then
        return .parameter (String.singleton c) .value [] s.isQuoted
      unread (some c)
      return .text "$" s.isQuoted

end

/-! ### Texts in the script -/

/-- Whether a line goes on behind its end: it ends in a backslash that is not itself
protected. -/
def isJoined (line : List Char) : Bool := (line.reverse.takeWhile (· == '\\')).length % 2 == 1

/-- The lines up to the one that is the delimiter, and what is behind it. -/
def untilDelimiter (a : Awaited) : Nat → Bool → List Char → List Char × List Char
  | 0, _, cs => ([], cs)
  | fuel + 1, joined, cs =>
    if cs.isEmpty then ([], [])
    else
      let whole := cs.takeWhile (· != '\n')
      let rest := cs.drop (whole.length + 1)
      let line := if a.tabs && !joined then whole.dropWhile (· == '\t') else whole
      if line = a.delimiter && !joined then ([], rest)
      else
        let (body, last) := untilDelimiter a fuel (!a.literal && isJoined line) rest
        let ended := whole.length < cs.length
        (line ++ (if ended then '\n' :: body else body), last)

/-- Reads a text in the script. -/
def Awaited.read (inner : InnerScripts) (a : Awaited) : Reading Unit := do
  let r ← get
  match r.texts with
  | [] => return
  | t :: more =>
    let (body, rest) := untilDelimiter a (t.rest.length + 1) false t.rest
    let taken := (t.rest.take (t.rest.length - rest.length)).filter (· == '\n')
    let line := r.line
    set { r with texts := { t with rest := rest } :: more }
    let w ←
      if a.literal then pure [Piece.text (String.ofList body) true]
      else inText body line do
        return Piece.text "" true :: (← readPieces inner true (2 * body.length + 2) .inline [])
    modify fun r =>
      { r with inlines := (a.index, w) :: r.inlines, line := line + taken.length }

/-- Reads the texts in the script that begin behind a line. -/
def readAwaited (inner : InnerScripts) : Reading Unit := do
  let awaited := (← get).awaited
  modify fun r => { r with awaited := [], expects := {} }
  awaited.forM (Awaited.read inner)

end HarnessRepair.Shell
