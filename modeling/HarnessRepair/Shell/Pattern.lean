import HarnessRepair.Shell.Location

/-!
# Patterns

Patterns of a shell: an asterisk for any text, a question mark for any byte, brackets
for one byte of a class.  Quoted bytes stand for themselves.

## Main definitions

* `Glob`, `globsOf` — the parts of a pattern.
* `fits` — whether a text has the shape of a pattern.
* `withoutStart`, `withoutEnd` — a text without a part of some shape.
* `pathsOf` — the paths that a pattern stands for.
-/

namespace HarnessRepair.Shell

/-- A byte, and whether it is quoted. -/
abbrev Mark := Char × Bool

/-- A part of a class. -/
inductive ClassItem where
  | range (first last : Char)
  | named (name : String)
  deriving DecidableEq, Repr

/-- One part of a pattern. -/
inductive Glob where
  | exactly (c : Char)
  | anyOne
  | anyText
  | oneOf (negated : Bool) (items : List ClassItem)
  deriving DecidableEq, Repr

/-- Whether a byte belongs to a class with a name. -/
def inNamedClass (name : String) (c : Char) : Bool :=
  let n := c.toNat
  let punctuation := 0x21 ≤ n && n ≤ 0x7E && !c.isAlphanum
  if name = "alnum" then c.isAlphanum
  else if name = "alpha" then c.isAlpha
  else if name = "blank" then c == ' ' || c == '\t'
  else if name = "cntrl" then n < 0x20 || n == 0x7F
  else if name = "digit" then c.isDigit
  else if name = "graph" then 0x21 ≤ n && n ≤ 0x7E
  else if name = "lower" then c.isLower
  else if name = "print" then 0x20 ≤ n && n ≤ 0x7E
  else if name = "punct" then punctuation
  else if name = "space" then c == ' ' || (9 ≤ n && n ≤ 13)
  else if name = "upper" then c.isUpper
  else if name = "xdigit" then c.isDigit || ('a' ≤ c && c ≤ 'f') || ('A' ≤ c && c ≤ 'F')
  else false

/-- The names of classes. -/
def classNames : List String :=
  ["alnum", "alpha", "blank", "cntrl", "digit", "graph", "lower", "print", "punct", "space",
    "upper", "xdigit"]

/-- The class whose name stands at the front of a text, and what is behind. -/
def namedClass? (ms : List Mark) : Option (String × List Mark) :=
  classNames.findSome? fun name =>
    let written := (':' :: name.toList) ++ [':', ']']
    if (ms.take written.length).map (·.1) = written && (ms.take written.length).all (!·.2) then
      some (name, ms.drop written.length)
    else none

/-- The parts of a class up to the bracket that closes it, and what is behind; the first
byte never closes it. -/
def readClass : Nat → Bool → List Mark → Option (List ClassItem × List Mark)
  | 0, _, _ => none
  | _, _, [] => none
  | fuel + 1, first, (c, quoted) :: rest =>
    let single : Option (List ClassItem × List Mark) :=
      match rest with
      | ('-', false) :: (d, q) :: behind =>
        if d = ']' && !q then
          (readClass fuel false rest).map fun (items, last) => (.range c c :: items, last)
        else (readClass fuel false behind).map fun (items, last) => (.range c d :: items, last)
      | _ => (readClass fuel false rest).map fun (items, last) => (.range c c :: items, last)
    if c = ']' && !quoted && !first then some ([], rest)
    else if c = '[' && !quoted then
      match namedClass? rest with
      | some (name, behind) =>
        (readClass fuel false behind).map fun (items, last) => (.named name :: items, last)
      | none => single
    else single

/-- The class behind an opening bracket, and what is behind it. -/
def bracket? (ms : List Mark) : Option (Glob × List Mark) :=
  let (negated, body) :=
    match ms with
    | ('!', false) :: rest | ('^', false) :: rest => (true, rest)
    | rest => (false, rest)
  (readClass (body.length + 1) true body).map fun (items, rest) => (.oneOf negated items, rest)

/-- The parts of a pattern. -/
def globs : Nat → List Mark → List Glob
  | 0, _ => []
  | _, [] => []
  | fuel + 1, (c, quoted) :: rest =>
    if quoted then .exactly c :: globs fuel rest
    else if c = '*' then .anyText :: globs fuel rest
    else if c = '?' then .anyOne :: globs fuel rest
    else if c = '[' then
      match bracket? rest with
      | some (g, behind) => g :: globs fuel behind
      | none => .exactly c :: globs fuel rest
    else .exactly c :: globs fuel rest

/-- The parts of a pattern. -/
def globsOf (ms : List Mark) : List Glob := globs (ms.length + 1) ms

/-- The place of a byte in the order of ranges, in which bytes beyond ASCII come first. -/
def rangeOrder (c : Char) : Int := if c.toNat < 128 then c.toNat else (c.toNat : Int) - 256

/-- Whether a byte belongs to a part of a class. -/
def ClassItem.holds (i : ClassItem) (c : Char) : Bool :=
  match i with
  | .range a b => rangeOrder a ≤ rangeOrder c && rangeOrder c ≤ rangeOrder b
  | .named name => inNamedClass name c

/-- Whether a byte fits a part that stands for one byte. -/
def Glob.fitsChar (g : Glob) (c : Char) : Bool :=
  match g with
  | .exactly d => c == d
  | .anyOne => true
  | .anyText => false
  | .oneOf negated items => (items.any (·.holds c)) != negated

/-- Whether a text has the shape of a pattern. -/
def fits : List Glob → List Char → Bool
  | [], cs => cs.isEmpty
  | .anyText :: gs, [] => fits gs []
  | .anyText :: gs, c :: cs => fits gs (c :: cs) || fits (.anyText :: gs) cs
  | _ :: _, [] => false
  | g :: gs, c :: cs => g.fitsChar c && fits gs cs
termination_by gs cs => gs.length + cs.length

/-- Lengths of starts of a text, in the order in which they are tried. -/
def lengthsFor (longest : Bool) (cs : List Char) : List Nat :=
  let all := List.range (cs.length + 1)
  if longest then all.reverse else all

/-- A text without a start of some shape. -/
def withoutStart (longest : Bool) (gs : List Glob) (cs : List Char) : List Char :=
  match (lengthsFor longest cs).find? fun n => fits gs (cs.take n) with
  | some n => cs.drop n
  | none => cs

/-- A text without an end of some shape. -/
def withoutEnd (longest : Bool) (gs : List Glob) (cs : List Char) : List Char :=
  match (lengthsFor longest cs).find? fun n => fits gs (cs.drop (cs.length - n)) with
  | some n => cs.take (cs.length - n)
  | none => cs

/-! ### Paths -/

/-- Whether a pattern stands for more than itself. -/
def isActivePattern (gs : List Glob) : Bool :=
  gs.any fun g => match g with
    | .exactly _ => false
    | _ => true

/-- The names in the directory at a place, ascending. -/
def namesIn (fs : FileSystem) (place : Place) : List String :=
  fs.entries.filterMap fun (p, _) =>
    match p.getLast? with
    | some name => if p.dropLast = place then some name else none
    | none => none

/-- The paths that the pieces of a pattern between its slashes lead to, behind the path of a
directory with its slash. -/
def pathsFrom (fs : FileSystem) (directory : String) : String → List (List Mark) → List String
  | path, [] => [path]
  | path, piece :: rest =>
    let gs := globsOf piece
    let slash := if rest.isEmpty then "" else "/"
    let start := if path.isEmpty then "." else path
    if isActivePattern gs then
      match placeIn? fs directory start with
      | none => []
      | some place =>
        let hidden := gs.head? == some (.exactly '.')
        let all := (if hidden then [".", ".."] else []) ++ (namesIn fs place).map Text.spread
        let names := all.filter fun name =>
          (hidden || name.toList.head? != some '.') && fits gs name.toList
        if fs.node? place == some .dir then
          names.flatMap fun name => pathsFrom fs directory (path ++ name ++ slash) rest
        else []
    else
      let next := path ++ String.ofList (piece.map (·.1))
      if rest.isEmpty then
        let isThere := (placeIn? fs directory next).isSome
        if isThere && (!piece.isEmpty || isDirectoryIn fs directory start) then [next] else []
      else pathsFrom fs directory (next ++ slash) rest

/-- The paths that a pattern stands for, seen from a directory; none if it stands for
itself alone. -/
def pathsOf (fs : FileSystem) (directory : String) (ms : List Mark) : List String :=
  if isActivePattern (globsOf ms) then
    let pieces := ms.foldr
      (fun m pieces =>
        match pieces with
        | [] => [[m]]
        | p :: ps => if m.1 = '/' then [] :: p :: ps else (m :: p) :: ps)
      [[]]
    pathsFrom fs directory "" pieces
  else []

end HarnessRepair.Shell
