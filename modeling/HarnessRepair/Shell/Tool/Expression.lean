import HarnessRepair.Shell.Arithmetic
import HarnessRepair.Shell.Pattern

/-!
# Regular expressions

Expressions of two dialects: in the basic one groups, bars and counts are written with
backslashes, in the extended one without.  Each is read strictly or leniently.

## Main definitions

* `Dialect` — how expressions are written.

* `Regex` — an expression.
* `readRegex` — the expression that a text writes.
* `Match` — a stretch of a text with those of its groups.
* `Regex.find?` — the first match from a position on, the longest of those.
-/

namespace HarnessRepair.Shell

/-- A regular expression. -/
inductive Regex where
  | empty
  | char (c : Char)
  | any
  | oneOf (negated : Bool) (items : List ClassItem)
  | lineStart
  | lineEnd
  | wordStart
  | wordEnd
  | wordEdge (inverted : Bool)
  | group (n : Nat) (r : Regex)
  | again (n : Nat)
  | seq (a b : Regex)
  | either (a b : Regex)
  | times (r : Regex) (least : Nat) (most : Option Nat)
  deriving Repr

namespace Regex

/-- The number of parts of an expression. -/
def size : Regex → Nat
  | .group _ r => r.size + 1
  | .seq a b | .either a b => a.size + b.size + 1
  | .times r least most => r.size * (least + most.getD 0 + 1) + 1
  | _ => 1

/-- The number of groups in an expression. -/
def groups : Regex → Nat
  | .group _ r => r.groups + 1
  | .seq a b | .either a b => a.groups + b.groups
  | .times r _ _ => r.groups
  | _ => 0

/-- Whether an expression leaves a choice between others. -/
def branches : Regex → Bool
  | .either _ _ => true
  | .group _ r | .times r _ _ => r.branches
  | .seq a b => a.branches || b.branches
  | _ => false

end Regex

/-! ### Reading -/

/-- How expressions are written. -/
structure Dialect where
  /-- Groups, bars and counts come without backslashes. -/
  extended : Bool
  /-- A sign that has nothing to repeat, or counts that are none, are no fault. -/
  lenient : Bool
  deriving DecidableEq, Repr

namespace Dialect

/-- Basic expressions, read strictly. -/
def basic : Dialect := ⟨false, false⟩

/-- Extended expressions, read strictly. -/
def extendedStrict : Dialect := ⟨true, false⟩

/-- Basic expressions, read leniently. -/
def basicLenient : Dialect := ⟨false, true⟩

/-- Extended expressions, read leniently. -/
def extendedLenient : Dialect := ⟨true, true⟩

end Dialect

/-- Why a text is no expression. -/
inductive RegexFault where
  | openGroup
  | closedGroup
  | openClass
  | openCount
  | badCount
  | badReference
  | trailingBackslash
  | nothingToRepeat
  | tooBig
  | badClass
  | badRange
  | badElement
  | bareClass
  | incomplete
  deriving DecidableEq, Repr

/-- The words for a text that is no expression. -/
def RegexFault.message : RegexFault → String
  | .openGroup => "Unmatched ( or \\("
  | .closedGroup => "Unmatched ) or \\)"
  | .openClass => "Unmatched [, [^, [:, [., or [="
  | .openCount => "Unmatched \\\x7b"
  | .badCount => "Invalid content of \\\x7b\\\x7d"
  | .badReference => "Invalid back reference"
  | .trailingBackslash => "Trailing backslash"
  | .nothingToRepeat => "Invalid preceding regular expression"
  | .tooBig => "Regular expression too big"
  | .badClass => "Invalid character class name"
  | .badRange => "Invalid range end"
  | .badElement => "Invalid collation character"
  | .bareClass => "character class syntax is [[:space:]], not [:space:]"
  | .incomplete => "Invalid regular expression"

/-- The letters of a word. -/
def isWordByte (c : Char) : Bool := c.isAlphanum || c == '_'

/-- The items of the class of bytes in words. -/
def wordItems : List ClassItem := [.named "alnum", .range '_' '_']

/-! #### Classes -/

/-- A part of a class: a byte or a named class. -/
inductive ClassElement where
  | byte (c : Char)
  | named (name : String)
  deriving DecidableEq, Repr

/-- The text up to a sign and a closing bracket, and what is behind them. -/
def upToSign? (sign : Char) : List Char → Option (List Char × List Char)
  | [] => none
  | c :: rest =>
    if c = sign ∧ rest.head? = some ']' then some ([], rest.drop 1)
    else (upToSign? sign rest).map fun (name, behind) => (c :: name, behind)

/-- The part of a class that is ahead, and what is behind it.  A hyphen that may stand for a
range is a part only at the end. -/
def readElement (hyphens : Bool) : List Char → Except RegexFault (ClassElement × List Char)
  | [] => .error .openClass
  | '[' :: ':' :: rest =>
    match upToSign? ':' rest with
    | none => .error .openClass
    | some (name, behind) =>
      if classNames.contains (String.ofList name) then .ok (.named (String.ofList name), behind)
      else .error .badClass
  | c :: rest =>
    let sign? := match c, rest with
      | '[', '.' :: more => some ('.', more)
      | '[', '=' :: more => some ('=', more)
      | _, _ => none
    match sign? with
    | some (sign, more) =>
      match upToSign? sign more with
      | none => .error .openClass
      | some ([d], behind) => .ok (.byte d, behind)
      | some _ => .error .badElement
    | none =>
      if c = '-' ∧ !hyphens ∧ rest.head? ≠ some ']' then .error .badRange
      else .ok (.byte c, rest)

/-- The items of a class up to its closing bracket, which may stand for itself at first. -/
def readItems : Nat → Bool → List Char → Except RegexFault (List ClassItem × List Char)
  | 0, _, _ => .error .openClass
  | fuel + 1, first, cs => do
    if !first && cs.head? == some ']' then return ([], cs.drop 1)
    let (element, rest) ← readElement first cs
    match element with
    | .named name =>
      let (items, behind) ← readItems fuel false rest
      return (.named name :: items, behind)
    | .byte c =>
      match rest with
      | '-' :: d :: more =>
        if d = ']' then
          let (items, behind) ← readItems fuel false rest
          return (.range c c :: items, behind)
        else
          match ← readElement true (d :: more) with
          | (.byte last, more) =>
            if last < c then throw .badRange
            let (items, behind) ← readItems fuel false more
            return (.range c last :: items, behind)
          | (.named _, _) => throw .badRange
      | _ =>
        let (items, behind) ← readItems fuel false rest
        return (.range c c :: items, behind)

/-- Whether the name of a class stands without its own brackets. -/
def isBareClass (items : List ClassItem) : Bool :=
  let bytes := items.map fun i =>
    match i with
    | .range a b => if a = b then some a else none
    | .named _ => none
  bytes.head? == some (some ':') && bytes.getLast? == some (some ':') &&
    bytes.all Option.isSome && bytes.any (· != some ':')

/-- The class behind an opening bracket, in which a backslash stands for itself. -/
def regexClass (cs : List Char) : Except RegexFault (Regex × List Char) := do
  let (negated, body) := match cs with
    | '^' :: rest => (true, rest)
    | rest => (false, rest)
  if body.isEmpty then throw .incomplete
  let (items, rest) ← readItems (body.length + 1) true body
  if isBareClass items then throw .bareClass
  return (.oneOf negated items, rest)

/-! #### Counts -/

/-- What ends a number in counts. -/
inductive CountEnd where
  | close
  | comma
  | text
  deriving DecidableEq, Repr

/-- A number in counts: its digits if nothing else is there, what ends it, and what is behind
that. -/
def readCount (extended : Bool) : List Char → Option (List Char) × CountEnd × List Char
  | [] => (none, .text, [])
  | '\\' :: '\x7d' :: rest =>
    if extended then
      let (_, stop, behind) := readCount extended rest
      (none, stop, behind)
    else (some [], .close, rest)
  | c :: rest =>
    if c = '\x7d' ∧ extended then (some [], .close, rest)
    else if c = ',' then (some [], .comma, rest)
    else
      let (digits, stop, behind) := readCount extended rest
      (if c.isDigit then digits.map (c :: ·) else none, stop, behind)

/-- The most that a part can be repeated. -/
def repeatLimit : Nat := 32767

/-- The counts between braces and what is behind them; none if they are no counts. -/
def readCounts (extended : Bool) (cs : List Char) :
    Except RegexFault (Option ((Nat × Option Nat) × List Char) × CountEnd) :=
  match readCount extended cs with
  | (none, stop, _) => .ok (none, stop)
  | (some ds, stop, rest) =>
    if ds.isEmpty ∧ stop ≠ .comma then .error .badCount
    else
      let least := (Text.natOfDigits? ds).getD 0
      let whole (most : Option Nat) (behind : List Char) :
          Except RegexFault (Option ((Nat × Option Nat) × List Char) × CountEnd) :=
        if most.any (· < least) then .error .badCount
        else if repeatLimit < most.getD least then .error .tooBig
        else .ok (some ((least, most), behind), .close)
      if stop = .close then whole (some least) rest
      else
        match readCount extended rest with
        | (none, stop, _) => .ok (none, stop)
        | (some _, .comma, _) => .error .badCount
        | (some ds, _, behind) => whole (Text.natOfDigits? ds) behind

/-! #### Signs -/

/-- What the next characters of an expression are. -/
inductive RegexSign where
  | opening
  | closing
  | bar
  | star
  | plus
  | question
  | counts
  | part (r : Regex)

/-- Where in an expression something stands. -/
inductive RegexSpot where
  /-- At the start of an expression, a group or a branch. -/
  | start
  /-- Behind what stands for a place in the text there. -/
  | behindPlace
  | inside
  deriving DecidableEq, Repr

/-- The sign at the front of a text and what is behind it. -/
def readSign (d : Dialect) (spot : RegexSpot) (cs : List Char) :
    Except RegexFault (Option (RegexSign × List Char)) :=
  let extended := d.extended
  let take (s : RegexSign) (rest : List Char) :
      Except RegexFault (Option (RegexSign × List Char)) :=
    .ok (some (s, rest))
  match cs with
  | [] => .ok none
  | ['\\'] => .error .trailingBackslash
  | '\\' :: c :: rest =>
    if c.isDigit && c != '0' then take (.part (.again (c.toNat - 48))) rest
    else if c = 'w' then take (.part (.oneOf false wordItems)) rest
    else if c = 'W' then take (.part (.oneOf true wordItems)) rest
    else if c = 's' then take (.part (.oneOf false [.named "space"])) rest
    else if c = 'S' then take (.part (.oneOf true [.named "space"])) rest
    else if c = 'b' then take (.part (.wordEdge false)) rest
    else if c = 'B' then take (.part (.wordEdge true)) rest
    else if c = '<' then take (.part .wordStart) rest
    else if c = '>' then take (.part .wordEnd) rest
    else if c = '\x60' then take (.part .lineStart) rest
    else if c = '\'' then take (.part .lineEnd) rest
    else if extended then take (.part (.char c)) rest
    else if c = '(' then take .opening rest
    else if c = ')' then take .closing rest
    else if c = '|' then take .bar rest
    else if c = '+' then take .plus rest
    else if c = '?' then take .question rest
    else if c = '\x7b' then take .counts rest
    else take (.part (.char c)) rest
  | c :: rest =>
    if c = '.' then take (.part .any) rest
    else if c = '[' then (regexClass rest).bind fun (r, more) => take (.part r) more
    else if c = '*' then
      if spot ≠ .inside && !extended then take (.part (.char '*')) rest else take .star rest
    else if c = '^' then
      let isPlace := spot = .start ∨ spot = .behindPlace ∧ !d.lenient
      if extended || isPlace then take (.part .lineStart) rest else take (.part (.char '^')) rest
    else if c = '$' then
      let ends := match rest with
        | [] => true
        | '\\' :: ')' :: _ | '\\' :: '|' :: _ => true
        | _ => false
      if extended || ends then take (.part .lineEnd) rest else take (.part (.char '$')) rest
    else if extended then
      if c = '(' then take .opening rest
      else if c = ')' then take .closing rest
      else if c = '|' then take .bar rest
      else if c = '+' then take .plus rest
      else if c = '?' then take .question rest
      else if c = '\x7b' then take .counts rest
      else take (.part (.char c)) rest
    else take (.part (.char c)) rest

/-- The work of reading an expression: branches and parts that are done, and those of
the groups around. -/
structure RegexReading where
  /-- The branch at hand. -/
  branch : Option Regex := none
  /-- The last part of the branch, which can still be repeated. -/
  part : Option Regex := none
  /-- The branches in front. -/
  earlier : Option Regex := none
  /-- The groups that are open, each with its number and what is in front of it. -/
  opened : List (Nat × Option Regex × Option Regex) := []
  /-- The number of groups so far. -/
  groups : Nat := 0
  /-- The signs that had nothing to repeat, the last one first. -/
  idle : List String := []

namespace RegexReading

/-- An expression behind another one. -/
def join (a b : Option Regex) : Option Regex :=
  match a, b with
  | some a, some b => some (.seq a b)
  | some a, none => some a
  | none, b => b

/-- The work with a further part. -/
def push (w : RegexReading) (r : Regex) : RegexReading :=
  { w with branch := join w.branch w.part, part := some r }

/-- The branches up to here. -/
def alternatives (w : RegexReading) : Regex :=
  let last := (join w.branch w.part).getD .empty
  match w.earlier with
  | some r => .either r last
  | none => last

/-- Whether the last part stands for a place in the text. -/
def isAtPlace (w : RegexReading) : Bool :=
  match w.part with
  | some .lineStart | some .lineEnd | some .wordStart | some .wordEnd | some (.wordEdge _) => true
  | _ => false

/-- The work with the last part repeated. -/
def repeated (w : RegexReading) (d : Dialect) (least : Nat) (most : Option Nat) (sign : String) :
    Except RegexFault RegexReading :=
  let isIdle := d.extended && (w.part.isNone || w.isAtPlace)
  let w := if isIdle then { w with idle := sign :: w.idle } else w
  match if w.isAtPlace && !d.lenient then none else w.part with
  | some r => .ok { w with part := some (.times r least most) }
  | none =>
    if !d.extended then .ok (w.push (.char (sign.toList.headD '*')))
    else if d.lenient then .ok w
    else .error .nothingToRepeat

end RegexReading

/-- The expression that a text writes, and the signs in it that have nothing to repeat. -/
def readRegexFrom (d : Dialect) :
    Nat → RegexSpot → RegexReading → List Char → Except RegexFault (Regex × List String)
  | 0, _, w, _ => .ok (w.alternatives, w.idle.reverse)
  | fuel + 1, spot, w, cs => do
    match ← readSign d spot cs with
    | none =>
      if w.opened.isEmpty then return (w.alternatives, w.idle.reverse) else throw .openGroup
    | some (.part (.again n), rest) =>
      if w.groups < n then throw .badReference
      readRegexFrom d fuel .inside (w.push (.again n)) rest
    | some (.part r, rest) =>
      let w := w.push r
      let isPlace := w.isAtPlace && (!d.lenient || (match r with
        | .lineStart => spot != .inside
        | _ => false))
      readRegexFrom d fuel (if isPlace then .behindPlace else .inside) w rest
    | some (.opening, rest) =>
      let n := w.groups + 1
      let before := RegexReading.join w.branch w.part
      readRegexFrom d fuel .start
        { opened := (n, before, w.earlier) :: w.opened, groups := n, idle := w.idle } rest
    | some (.closing, rest) =>
      match w.opened with
      | [] =>
        if d.extended && d.lenient then readRegexFrom d fuel .inside (w.push (.char ')')) rest
        else throw .closedGroup
      | (n, before, earlier) :: more =>
        readRegexFrom d fuel .inside
          { w with branch := before, part := some (.group n w.alternatives), earlier := earlier
                   opened := more } rest
    | some (.bar, rest) =>
      readRegexFrom d fuel .start
        { w with branch := none, part := none, earlier := some w.alternatives } rest
    | some (.star, rest) =>
      readRegexFrom d fuel .inside (← w.repeated d 0 none "*") rest
    | some (.plus, rest) =>
      readRegexFrom d fuel .inside (← w.repeated d 1 none "+") rest
    | some (.question, rest) =>
      readRegexFrom d fuel .inside (← w.repeated d 0 (some 1) "?") rest
    | some (.counts, rest) =>
      if (w.part.isNone || w.isAtPlace) && !d.lenient then throw .nothingToRepeat
      if w.part.isNone && !d.extended then
        readRegexFrom d fuel .inside (w.push (.char '\x7b')) rest
      else
        match ← readCounts d.extended rest with
        | (some ((least, most), rest), _) =>
          readRegexFrom d fuel .inside (← w.repeated d least most "\x7b...\x7d") rest
        | (none, stop) =>
          if d.extended && d.lenient then
            readRegexFrom d fuel .inside (w.push (.char '\x7b')) rest
          else throw (if stop = .text then .openCount else .badCount)

/-- The expression that a text writes, and the signs in it that have nothing to repeat. -/
def readRegexNoting (d : Dialect) (s : String) : Except RegexFault (Regex × List String) :=
  readRegexFrom d (s.length + 1) .start {} s.toList

/-- The expression that a text writes. -/
def readRegex (d : Dialect) (s : String) : Except RegexFault Regex :=
  (readRegexNoting d s).map (·.1)

/-! ### Matching -/

/-- The stretches of groups, the latest first. -/
abbrev Captures := List (Nat × Nat × Nat)

/-- A stretch of a text with those of its groups. -/
structure Match where
  start : Nat
  stop : Nat
  captures : Captures := []
  deriving Repr

/-- What a text is looked at with. -/
structure Subject where
  text : Array Char
  /-- Letters are compared without regard to their size. -/
  folds : Bool

namespace Subject

/-- Whether a position stands in front of a letter of a word. -/
def wordAt (s : Subject) (i : Nat) : Bool := (s.text[i]?).any isWordByte

/-- Whether a position stands behind a letter of a word. -/
def wordBefore (s : Subject) (i : Nat) : Bool := 0 < i && s.wordAt (i - 1)

/-- Whether a byte fits a part that stands for one. -/
def fitsOne (s : Subject) (r : Regex) (c : Char) : Bool :=
  let test (c : Char) : Bool :=
    match r with
    | .char d => c == d
    | .any => true
    | .oneOf negated items => (items.any (·.holds c)) != negated
    | _ => false
  match r with
  | .char d => c == d || (s.folds && c.toLower == d.toLower)
  | .oneOf negated items =>
    if s.folds then
      ((items.any (·.holds c.toLower)) || items.any (·.holds c.toUpper)) != negated
    else test c
  | _ => test c

/-- The first end that goes on well, greedy parts first. -/
def run (s : Subject) : Nat → Regex → Nat → Captures → (Nat → Captures → Option Match) →
    Option Match
  | 0, _, _, _, _ => none
  | fuel + 1, r, i, caps, k =>
    match r with
    | .empty => k i caps
    | .char _ | .any | .oneOf _ _ =>
      match s.text[i]? with
      | some c => if s.fitsOne r c then k (i + 1) caps else none
      | none => none
    | .lineStart => if i = 0 then k i caps else none
    | .lineEnd => if i = s.text.size then k i caps else none
    | .wordStart => if s.wordAt i && !s.wordBefore i then k i caps else none
    | .wordEnd => if s.wordBefore i && !s.wordAt i then k i caps else none
    | .wordEdge inverted => if (s.wordAt i != s.wordBefore i) != inverted then k i caps else none
    | .group n r => run s fuel r i caps fun j caps => k j ((n, i, j) :: caps)
    | .again n =>
      match caps.lookup n with
      | none => none
      | some (a, b) =>
        let there := (s.text.extract a b).toList
        let here := (s.text.extract i (i + (b - a))).toList
        let same :=
          if s.folds then there.map Char.toLower == here.map Char.toLower else there == here
        if same then k (i + (b - a)) caps else none
    | .seq a b => run s fuel a i caps fun j caps => run s fuel b j caps k
    | .either a b => (run s fuel a i caps k).or (run s fuel b i caps k)
    | .times r least most =>
      let more : Option Match :=
        if most == some 0 then none
        else
          run s fuel r i caps fun j caps =>
            if j = i then (if least = 0 then none else k j caps)
            else run s fuel (.times r (least - 1) (most.map (· - 1))) j caps k
      if least = 0 then more.or (k i caps) else more

/-- The match at a position that ends at another. -/
def ending (s : Subject) (fuel : Nat) (r : Regex) (i j : Nat) : Option Match :=
  s.run fuel r i [] fun stop caps => if stop = j then some ⟨i, stop, caps⟩ else none

/-- The longest match at a position. -/
def matchAt (s : Subject) (fuel : Nat) (r : Regex) (i : Nat) : Option Match :=
  if r.branches then
    (List.range (s.text.size + 1 - i)).reverse.findSome? fun n => s.ending fuel r i (i + n)
  else s.run fuel r i [] fun stop caps => some ⟨i, stop, caps⟩

end Subject

/-- The first match from a position on, the longest of those. -/
def Regex.find? (r : Regex) (folds : Bool) (text : Array Char) (start : Nat) : Option Match :=
  let s : Subject := ⟨text, folds⟩
  let fuel := (text.size + 2) * (r.size + 2) * 2
  (List.range (text.size + 1 - start)).findSome? fun n =>
    (s.matchAt fuel r (start + n)).map fun m => { m with start := start + n }

/-- The text of a group in a match; that of the match itself for zero. -/
def Match.textOf (m : Match) (text : Array Char) (n : Nat) : List Char :=
  if n = 0 then (text.extract m.start m.stop).toList
  else
    match m.captures.lookup n with
    | some (a, b) => (text.extract a b).toList
    | none => []

end HarnessRepair.Shell
