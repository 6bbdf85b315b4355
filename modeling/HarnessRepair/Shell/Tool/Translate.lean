import HarnessRepair.Shell.Arithmetic
import HarnessRepair.Shell.Pattern
import HarnessRepair.Shell.Tool.Basic

/-!
# Translating bytes

`tr` puts bytes in the place of others, or leaves bytes out.

## Main definitions

* `SetItem`, `readSet` — what a set is made of.
* `translateBytes` — the tool.
-/

namespace HarnessRepair.Shell

open Work

/-- A part of a set. -/
inductive SetItem where
  | range (first last : Char)
  | named (name : String)
  /-- A byte so many times; as often as needed if there is no number. -/
  | again (c : Char) (count : Option Nat)
  deriving DecidableEq, Repr

/-- Why a text is no set. -/
inductive SetFault where
  | reversed (first last : Char)
  | unknownClass (name : String)
  deriving DecidableEq, Repr

/-- The words for a text that is no set. -/
def SetFault.message : SetFault → String
  | .reversed a b =>
    "range-endpoints of '" ++ String.ofList [a, '-', b] ++
      "' are in reverse collating sequence order"
  | .unknownClass name => "invalid character class " ++ inQuotes name

/-- The characters of a set, each with whether a backslash made it. -/
def unescapeSet : Nat → List Char → List (Char × Bool)
  | 0, _ => []
  | _, [] => []
  | _, ['\\'] => [('\\', true)]
  | fuel + 1, '\\' :: c :: rest =>
    if '0' ≤ c && c ≤ '7' then
      let ds := ((c :: rest).take 3).takeWhile fun d => '0' ≤ d && d ≤ '7'
      let n := ds.foldl (fun n d => n * 8 + (d.toNat - 48)) 0
      (Char.ofNat (n % 256), true) :: unescapeSet fuel ((c :: rest).drop ds.length)
    else
      let byte := ([('a', 7), ('b', 8), ('f', 12), ('n', 10), ('r', 13), ('t', 9),
        ('v', 11)].lookup c).getD c.toNat
      (Char.ofNat byte, true) :: unescapeSet fuel rest
  | fuel + 1, c :: rest => (c, false) :: unescapeSet fuel rest

/-- The number of times in `[c*n]`; octal behind a zero. -/
def repeatCount? (ds : List Char) : Option (Option Nat) :=
  if ds.isEmpty then some none
  else if !ds.all Char.isDigit then none
  else
    let base := if ds.head? = some '0' then 8 else 10
    let n := (leadingDigits base ds).1
    some (if n = 0 then none else some n)

/-- The parts of a set. -/
def setItems : Nat → List (Char × Bool) → Except SetFault (List SetItem)
  | 0, _ => .ok []
  | _, [] => .ok []
  | fuel + 1, ('[', false) :: (':', false) :: rest =>
    let name := (rest.takeWhile fun m => m.1 != ':').map (·.1)
    match rest.drop name.length with
    | (':', _) :: (']', _) :: behind =>
      let name := String.ofList name
      if classNames.contains name then (setItems fuel behind).map (.named name :: ·)
      else .error (.unknownClass name)
    | _ => (setItems fuel ((':', false) :: rest)).map (.range '[' '[' :: ·)
  | fuel + 1, ('[', false) :: (c, q) :: ('*', false) :: rest =>
    let ds := (rest.takeWhile fun m => m.1 != ']').map (·.1)
    match rest.drop ds.length, repeatCount? ds with
    | _ :: behind, some count => (setItems fuel behind).map (.again c count :: ·)
    | _, _ => (setItems fuel ((c, q) :: ('*', false) :: rest)).map (.range '[' '[' :: ·)
  | fuel + 1, (c, _) :: ('-', false) :: (d, _) :: rest =>
    if d < c then .error (.reversed c d) else (setItems fuel rest).map (.range c d :: ·)
  | fuel + 1, (c, _) :: rest => (setItems fuel rest).map (.range c c :: ·)

/-- The parts of the set that a text writes. -/
def readSet (s : String) : Except SetFault (List SetItem) :=
  setItems (s.length + 1) (unescapeSet (s.length + 1) s.toList)

/-- All bytes, ascending. -/
def allBytes : List Char := (List.range 256).map Char.ofNat

/-- The bytes of a part; an open repetition fills up to a length. -/
def SetItem.bytes (fill : Nat) : SetItem → List Char
  | .range a b => (List.range (b.toNat + 1 - a.toNat)).map fun i => Char.ofNat (a.toNat + i)
  | .named name => allBytes.filter (inNamedClass name)
  | .again c count => List.replicate (count.getD fill) c

/-- The bytes of a set that is as long as asked for, if it can be. -/
def setBytes (length : Nat) (items : List SetItem) : List Char :=
  let fixed := (items.flatMap (SetItem.bytes 0)).length
  items.flatMap (SetItem.bytes (length - fixed))

/-- Bytes without repetitions of those of a set. -/
def squeeze (set : List Char) : List Char → List Char
  | c :: d :: rest =>
    if c == d && set.contains c then squeeze set (d :: rest) else c :: squeeze set (d :: rest)
  | cs => cs

/-- Shows that there are too few or too many sets. -/
def wrongSets {α : Type} (text : String) (why : Option String) : Work α := do
  complain text
  if let some why := why then announce why
  announce "Try 'tr --help' for more information."
  fail 1
  stop

/-- Translates, squeezes or leaves out bytes. -/
def translateBytes : Tool := do
  let (choices, operands) ← options 1
    ⟨"cCdst", "",
      [("complement", 'c'), ("delete", 'd'), ("squeeze-repeats", 's'), ("truncate-set1", 't')]⟩
  let complemented := isChosen choices 'c' || isChosen choices 'C'
  let deletes := isChosen choices 'd'
  let squeezes := isChosen choices 's'
  let two := deletes == squeezes
  match operands with
  | [] => misused 1 "missing operand"
  | [one] =>
    if two then
      wrongSets ("missing operand after " ++ inQuotes one)
        (some (if deletes then "Two strings must be given when both deleting and squeezing repeats."
          else "Two strings must be given when translating."))
  | [_, extra] =>
    if deletes && !squeezes then
      wrongSets ("extra operand " ++ inQuotes extra)
        (some "Only one string may be given when deleting without squeezing repeats.")
  | _ :: _ :: extra :: _ => wrongSets ("extra operand " ++ inQuotes extra) none
  let readOne (s : String) : Work (List SetItem) := do
    match readSet s with
    | .ok items => return items
    | .error e => giveUp 1 e.message
  let first ← readOne (operands.headD "")
  let second ← readOne (operands.getD 1 "")
  if first.any (fun i => match i with
      | .again _ _ => true
      | _ => false) then
    giveUp 1 "the [c*] repeat construct may not appear in string1"
  let plain := setBytes 0 first
  let source := if complemented then allBytes.filter fun c => !plain.contains c else plain
  let translates := !deletes && 1 < operands.length
  let target := setBytes source.length second
  if translates && target.isEmpty && !isChosen choices 't' then
    giveUp 1 "when not truncating set1, string2 must be non-empty"
  let bs ← match ← takeInput with
    | .ok bs => pure bs
    | .error e => giveUp 1 ("read error: " ++ reason e)
  let cs := bs.map fun b => Char.ofNat b.toNat
  let cs :=
    if deletes then cs.filter fun c => !source.contains c
    else if translates then
      let source := if isChosen choices 't' then source.take target.length else source
      let lastOne := target.getLastD ' '
      let target := target ++ List.replicate (source.length - target.length) lastOne
      -- Of a byte that stands in the first set more than once the last place counts.
      let pairs := (source.zip target).reverse
      let table := (allBytes.map fun c => (pairs.lookup c).getD c).toArray
      cs.map fun c => table.getD c.toNat c
    else cs
  let cs :=
    if squeezes then squeeze (if deletes || translates then target else source) cs else cs
  print (cs.map fun c => UInt8.ofNat c.toNat)

end HarnessRepair.Shell
