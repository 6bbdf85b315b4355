import HarnessRepair.Shell.Word

/-!
# Reading scripts

The tree of a script from its text, command by command: a command ends with its line,
and what is behind is read after it has run.  Which words are reserved depends on
where they stand.

## Main definitions

* `readToken` — the next token.
* `readList`, `readCommand` — the grammar.
* `readLine` — the commands up to the end of a line.
-/

namespace HarnessRepair.Shell

open Reading

/-- The names that no function can have. -/
def specialBuiltins : List String :=
  [".", ":", "break", "continue", "eval", "exec", "exit", "export", "local", "readonly", "return",
    "set", "shift", "times", "trap", "unset"]

/-! ### Tokens -/

/-- The operator that a character and perhaps the next one make. -/
def readOperator (c : Char) : Reading Token := do
  if c = '(' ∨ c = ')' then return .operator (String.singleton c)
  match ← next with
  | some d =>
    if d = c then return .operator (String.ofList [c, d])
    unread (some d)
    return .operator (String.singleton c)
  | none => return .operator (String.singleton c)

/-- The arrow that starts with a character, for a descriptor if one is given. -/
def readArrow (c : Char) (descriptor : Option Nat) : Reading Token := do
  let d ← next
  let found : RedirectKind ←
    if c = '>' then
      match d with
      | some '>' => pure .append
      | some '|' => pure .overwrite
      | some '&' => pure .duplicate
      | d =>
        unread d
        pure .write
    else
      match d with
      | some '<' => pure (.inline 0)
      | some '&' => pure .duplicate
      | some '>' => pure .readWrite
      | d =>
        unread d
        pure .read
  let usual := if c = '>' then 1 else 0
  modify fun r => { r with arrow := (descriptor.getD usual, found) }
  return .redirection

/-- The descriptor that the pieces in front of an arrow write. -/
def descriptorOf? : List Piece → Option (Option Nat)
  | [] => some none
  | [.text s false] =>
    match s.toList with
    | [c] => if c.isDigit then some (some (c.toNat - 48)) else none
    | _ => none
  | _ => none

/-- The next token, without regard to what is expected. -/
def readPlainToken (inner : InnerScripts) : Nat → Reading Token
  | 0 => pure .endOfText
  | fuel + 1 => do
    match ← next with
    | none => return .endOfText
    | some c =>
      if c = ' ' ∨ c = '\t' then readPlainToken inner fuel
      else if c = '#' then
        skipLine
        readPlainToken inner fuel
      else if c = '\n' then return .newline
      else if c = '&' ∨ c = '|' ∨ c = ';' ∨ c = '(' ∨ c = ')' then readOperator c
      else
        unread (some c)
        let pieces ← readPieces inner false (2 * (← size) + 8) .bare []
        let behind ← next
        match behind, descriptorOf? pieces with
        | some '<', some descriptor => readArrow '<' descriptor
        | some '>', some descriptor => readArrow '>' descriptor
        | c, _ =>
          unread c
          modify fun r => { r with word := pieces, quoted := hasQuotes pieces }
          return .word

/-- Passes over line ends behind which a token comes. -/
def skipLines (inner : InnerScripts) : Nat → Token → Reading Token
  | 0, t => pure t
  | fuel + 1, t => do
    if t ≠ .newline then return t
    readAwaited inner
    skipLines inner fuel (← readPlainToken inner (← size))

/-- The next token that is not the name of an alias. -/
def readExpected (inner : InnerScripts) : Nat → Expectation → Reading Token
  | 0, _ => pure .endOfText
  | fuel + 1, wanted => do
    let r ← get
    let first ←
      if r.again then
        set { r with again := false }
        pure r.last
      else readPlainToken inner (← size)
    let t ← if wanted.skipsLines then skipLines inner (← size) first else pure first
    let r ← get
    let wanted := { wanted with aliases := wanted.aliases || r.expects.aliases }
    set { r with expects := {} }
    match t, bareText? r.word with
    | .word, some name =>
      if wanted.reservedWords && reservedWords.contains name then return .reserved name
      if !wanted.aliases then return t
      let inUse := r.texts.any fun t => t.origin.any fun (a, _) => a == name
      match r.aliases.lookup name with
      | some value =>
        if inUse then return t
        let blank := value.toList.getLast?.any fun c => c == ' ' || c == '\t'
        modify fun r => { r with texts := ⟨value.toList, some (name, blank)⟩ :: r.texts }
        readExpected inner fuel wanted
      | none => return t
    | _, _ => return t

/-- The next token. -/
def readToken (inner : InnerScripts) : Reading Token := do
  let wanted := (← get).expects
  let t ← readExpected inner ((← get).aliases.length + 2) wanted
  modify fun r => { r with last := t, expects := {} }
  return t

/-- Says what is looked for in the next token. -/
def expect (e : Expectation) : Reading Unit := modify fun r => { r with expects := e }

/-- The last token is to be read again. -/
def readAgain : Reading Unit := modify fun r => { r with again := true }

/-- Tells that the last token does not belong where it stands. -/
def unexpected {α : Type} : Reading α := do
  fault ((← get).last.description ++ " unexpected")

/-- Tells that another token was expected. -/
def expecting {α : Type} (t : Token) : Reading α := do
  fault ((← get).last.description ++ " unexpected (expecting " ++ t.description ++ ")")

/-- Reads the token that must come. -/
def demand (inner : InnerScripts) (t : Token) : Reading Unit := do
  if (← readToken inner) ≠ t then expecting t

/-! ### Grammar -/

/-- The target of the arrow that has been read. -/
def readRedirect (inner : InnerScripts) : Reading Redirect := do
  let (descriptor, kind) := (← get).arrow
  match kind with
  | .inline _ =>
    -- A dash behind the arrow drops the tabs in front of lines.
    let tabs ←
      match ← next with
      | some '-' => pure true
      | c =>
        unread c
        pure false
    expect { delimiter := true }
    if (← readToken inner) ≠ .word then unexpected
    let r ← get
    let index := r.nextInline
    let awaited : Awaited := ⟨index, (plainText r.word).toList, tabs, r.quoted⟩
    set { r with nextInline := index + 1, awaited := r.awaited ++ [awaited] }
    return .mk descriptor (.inline index) []
  | kind =>
    if (← readToken inner) ≠ .word then unexpected
    return .mk descriptor kind (← get).word

/-- Redirections behind a command. -/
def readRedirects (inner : InnerScripts) : Nat → Reading (List Redirect)
  | 0 => pure []
  | fuel + 1 => do
    match ← readToken inner with
    | .redirection =>
      let r ← readRedirect inner
      return r :: (← readRedirects inner fuel)
    | _ =>
      readAgain
      return []

/-- A simple command under construction. -/
structure SimpleParts where
  assignments : List (String × Word) := []
  words : List Word := []
  redirects : List Redirect := []

/-- What a command starts with turns out to be. -/
inductive SimpleEnd where
  | command (p : SimpleParts)
  /-- The name of a function; its parentheses have been read. -/
  | function (name : Word)

/-- The parts of a simple command. -/
def readSimple (inner : InnerScripts) : Nat → SimpleParts → Reading SimpleEnd
  | 0, p => pure (.command p)
  | fuel + 1, p => do
    expect { aliases := p.words.isEmpty }
    match ← readToken inner with
    | .word =>
      let w := (← get).word
      match if p.words.isEmpty then assignment? w else none with
      | some a => readSimple inner fuel { p with assignments := p.assignments ++ [a] }
      | none => readSimple inner fuel { p with words := p.words ++ [w] }
    | .redirection =>
      let r ← readRedirect inner
      readSimple inner fuel { p with redirects := p.redirects ++ [r] }
    | t =>
      match t, p with
      | .operator "(", ⟨[], [name], []⟩ =>
        demand inner (.operator ")")
        return .function name
      | _, _ =>
        readAgain
        return .command p

/-- Words up to another token. -/
def readWords (inner : InnerScripts) : Nat → Reading (List Word)
  | 0 => pure []
  | fuel + 1 => do
    match ← readToken inner with
    | .word =>
      let w := (← get).word
      return w :: (← readWords inner fuel)
    | _ => return []

/-- Patterns between bars, of which the first has been read, and the parenthesis behind. -/
def readPatterns (inner : InnerScripts) : Nat → Reading (List Word)
  | 0 => pure []
  | fuel + 1 => do
    let w := (← get).word
    match ← readToken inner with
    | .operator "|" =>
      discard (readToken inner)
      return w :: (← readPatterns inner fuel)
    | .operator ")" => return [w]
    | _ => expecting (.operator ")")

/-- All arguments, as a word. -/
def allArguments : Word := [.parameter "@" .value [] true]

/-- Where a list of commands stands. -/
inductive ListPlace where
  /-- It ends with its line. -/
  | line
  /-- It must hold a command. -/
  | body
  /-- It may be empty. -/
  | optional
  deriving DecidableEq, Repr

/-- A command in front of those behind it. -/
def sequenceOf (first : Option Script) (second : Script) : Script :=
  match first with
  | some a => .sequence a second
  | none => second

/-- What has been read before the end of the text. -/
def atEnd (inner : InnerScripts) (done : Option Script) : Reading (Option Script) := do
  readAwaited inner
  readAgain
  modify fun r => { r with last := .endOfText }
  return done

mutual

/-- How the scripts inside of words are read, to a depth. -/
def innerScripts : Nat → InnerScripts
  | 0 => ⟨fault "Unterminated quoted string", fault "Unterminated quoted string"⟩
  | fuel + 1 =>
    { closed := do
        expect {}
        let s ← readList fuel .optional none false
        demand (innerScripts fuel) (.operator ")")
        return s.getD .nothing
      whole := do
        expect {}
        return (← readList fuel .optional none false).getD .nothing }

/-- Commands behind those that have been read, if there are any. -/
def readList : Nat → ListPlace → Option Script → Bool → Reading (Option Script)
  | 0, _, _, _ => fault "Unterminated quoted string"
  | fuel + 1, place, done, started => do
    let inner := innerScripts fuel
    expect { Expectation.command with skipsLines := place ≠ .line }
    match ← readToken inner with
    | .newline =>
      if place = .line then
        readAwaited inner
        return some (done.getD .nothing)
    | .endOfText => return (← atEnd inner done)
    | _ => pure ()
    readAgain
    if (place = .optional || place = .body && started) && (← get).last.endsList then
      return done
    let command ← readChain fuel
    let separator ← readToken inner
    let command := if separator = .operator "&" then Script.background command else command
    let done := some (sequenceOf done command)
    match separator with
    | .endOfText => atEnd inner done
    | .newline =>
      readAgain
      readList fuel place done true
    | .operator ";" | .operator "&" => readList fuel place done true
    | _ =>
      if place = .line then unexpected
      readAgain
      return done

/-- Pipelines that depend on one another. -/
def readChain : Nat → Reading Script
  | 0 => fault "Unterminated quoted string"
  | fuel + 1 => do
    let first ← readPipeline fuel
    readChainFrom fuel first

/-- The rest of a chain. -/
def readChainFrom : Nat → Script → Reading Script
  | 0, _ => fault "Unterminated quoted string"
  | fuel + 1, first => do
    match ← readToken (innerScripts fuel) with
    | .operator "&&" =>
      expect .commandBehindLines
      let second ← readPipeline fuel
      readChainFrom fuel (.andThen first second)
    | .operator "||" =>
      expect .commandBehindLines
      let second ← readPipeline fuel
      readChainFrom fuel (.orElse first second)
    | _ =>
      readAgain
      return first

/-- Commands of which each reads what the one before writes. -/
def readPipeline : Nat → Reading Script
  | 0 => fault "Unterminated quoted string"
  | fuel + 1 => do
    let negated := (← readToken (innerScripts fuel)) = .reserved "!"
    if negated then expect .command else readAgain
    let commands ← readPiped fuel
    let script ← match commands with
      | [single] => pure single
      | commands => pure (.pipeline commands)
    return if negated then .negate script else script

/-- Commands between bars. -/
def readPiped : Nat → Reading (List Script)
  | 0 => fault "Unterminated quoted string"
  | fuel + 1 => do
    let command ← readCommand fuel
    match ← readToken (innerScripts fuel) with
    | .operator "|" =>
      expect .commandBehindLines
      return command :: (← readPiped fuel)
    | _ =>
      readAgain
      return [command]

/-- A list that must come. -/
def readBody : Nat → Reading Script
  | 0 => fault "Unterminated quoted string"
  | fuel + 1 => do
    return (← readList fuel .body none false).getD .nothing

/-- One command. -/
def readCommand : Nat → Reading Script
  | 0 => fault "Unterminated quoted string"
  | fuel + 1 => do
    let inner := innerScripts fuel
    let line := (← get).line
    let finish (s : Script) : Reading Script := do
      expect .command
      let redirects ← readRedirects inner (← size)
      match s, redirects with
      | s, [] => return s
      | .subshell line a _, redirects => return .subshell line a redirects
      | s, redirects => return .redirected line s redirects
    match ← readToken inner with
    | .reserved "if" => finish (← readChoice fuel)
    | .reserved "while" =>
      let s ← readLoop fuel false
      finish s
    | .reserved "until" =>
      let s ← readLoop fuel true
      finish s
    | .reserved "for" => finish (← readEach fuel line)
    | .reserved "case" =>
      if (← readToken inner) ≠ .word then expecting .word
      let subject := (← get).word
      expect .commandBehindLines
      demand inner (.reserved "in")
      finish (.cases line subject (← readBranches fuel))
    | .operator "(" =>
      let body ← readBody fuel
      demand inner (.operator ")")
      finish (.subshell line body [])
    | .reserved "\x7b" =>
      let body ← readBody fuel
      demand inner (.reserved "\x7d")
      finish body
    | .word | .redirection =>
      readAgain
      let line := (← get).line
      match ← readSimple inner (2 * (← size) + 2) {} with
      | .command p => return .simple line p.assignments p.words p.redirects
      | .function name =>
        match bareText? name with
        | some name =>
          if !isName name || specialBuiltins.contains name then fault "Bad function name"
          expect .commandBehindLines
          return .define name (← readCommand fuel)
        | none => fault "Bad function name"
    | _ => unexpected

/-- The branches of a choice. -/
def readChoice : Nat → Reading Script
  | 0 => fault "Unterminated quoted string"
  | fuel + 1 => do
    let inner := innerScripts fuel
    let condition ← readBody fuel
    demand inner (.reserved "then")
    let yes ← readBody fuel
    match ← readToken inner with
    | .reserved "elif" =>
      let no ← readChoice fuel
      return .choice condition yes no
    | .reserved "else" =>
      let no ← readBody fuel
      demand inner (.reserved "fi")
      return .choice condition yes no
    | .reserved "fi" => return .choice condition yes .nothing
    | _ => expecting (.reserved "fi")

/-- A loop with a condition. -/
def readLoop : Nat → Bool → Reading Script
  | 0, _ => fault "Unterminated quoted string"
  | fuel + 1, whileFails => do
    let inner := innerScripts fuel
    let condition ← readBody fuel
    demand inner (.reserved "do")
    let body ← readBody fuel
    demand inner (.reserved "done")
    return .loop whileFails condition body

/-- A loop over words. -/
def readEach : Nat → Nat → Reading Script
  | 0, _ => fault "Unterminated quoted string"
  | fuel + 1, line => do
    let inner := innerScripts fuel
    let t ← readToken inner
    match t, bareText? (← get).word with
    | .word, some name =>
      if !isName name then fault "Bad for loop variable"
      expect .commandBehindLines
      let items ←
        match ← readToken inner with
        | .reserved "in" =>
          let items ← readWords inner (← size)
          let last := (← get).last
          if last ≠ .newline && last ≠ .operator ";" then unexpected
          pure items
        | .operator ";" => pure [allArguments]
        | _ =>
          readAgain
          pure [allArguments]
      expect .commandBehindLines
      demand inner (.reserved "do")
      let body ← readBody fuel
      demand inner (.reserved "done")
      return .each line name items body
    | _, _ => fault "Bad for loop variable"

/-- The branches of a choice between patterns. -/
def readBranches : Nat → Reading (List (List Word × Script))
  | 0 => fault "Unterminated quoted string"
  | fuel + 1 => do
    let inner := innerScripts fuel
    expect { skipsLines := true, reservedWords := true }
    let t ← readToken inner
    if t = .reserved "esac" then return []
    if t = .operator "(" then discard (readToken inner)
    let patterns ← readPatterns inner (← size)
    let body := (← readList fuel .optional none false).getD .nothing
    expect { skipsLines := true, reservedWords := true }
    match ← readToken inner with
    | .reserved "esac" => return [(patterns, body)]
    | .operator ";;" => return (patterns, body) :: (← readBranches fuel)
    | _ => expecting (.operator ";;")

end

/-- The commands up to the end of a line; none at the end of the text. -/
def readLine : Reading (Option Script) := do
  modify fun r => { r with again := false, expects := {}, awaited := [] }
  readList (4 * (← size) + 64) .line none false

/-- The state in which the reading of a text starts. -/
def Reader.ofText (text : String) (aliases : List (String × String)) (nextInline : Nat) : Reader :=
  { texts := [⟨text.toList, none⟩], aliases := aliases, nextInline := nextInline }

end HarnessRepair.Shell
