import HarnessRepair.Number.Binary64
import HarnessRepair.Shell.Arithmetic

/-!
# Formatted output

What `echo` and `printf` write: texts with a character for every byte.

## Main definitions

* `echoText` — words with the escapes in them.
* `FormatPart`, `formatParts` — what a format is made of.
* `Printed`, `printf` — a format filled with arguments, over and over until none is left.
-/

namespace HarnessRepair.Shell

open Text

/-! ### Escapes -/

/-- The value of up to `count` octal digits behind `acc`, and what is behind them. -/
def octal (acc : Nat) : Nat → List Char → Nat × List Char
  | count + 1, c :: rest =>
    if '0' ≤ c && c ≤ '7' then octal (acc * 8 + (c.toNat - 48)) count rest else (acc, c :: rest)
  | _, cs => (acc, cs)

/-- The byte that a letter behind a backslash stands for. -/
def letterByte? (c : Char) : Option Nat :=
  [('a', 7), ('b', 8), ('e', 27), ('f', 12), ('n', 10), ('r', 13), ('t', 9), ('v', 11),
    ('\\', 92)].lookup c

/-- The byte of a number; higher bits are lost. -/
def byteChar (n : Nat) : Char := Char.ofNat (n % 256)

/-- The byte that an escape stands for, and what is behind it; a backslash in front of
anything else stands for itself. -/
def escape (cs : List Char) : Char × List Char :=
  match cs with
  | c :: rest =>
    if '0' ≤ c && c ≤ '7' then
      let (n, behind) := octal 0 3 cs
      (byteChar n, behind)
    else
      match letterByte? c with
      | some n => (byteChar n, rest)
      | none => ('\\', cs)
  | [] => ('\\', [])

/-- A text with its escapes resolved, and whether an escape ends all output.  A zero may
stand in front of an octal number. -/
def escaped : Nat → List Char → List Char × Bool
  | 0, _ => ([], false)
  | _, [] => ([], false)
  | fuel + 1, '\\' :: rest =>
    match rest with
    | 'c' :: _ => ([], true)
    | _ =>
      let digits := match rest with
        | '0' :: d :: more => if '0' ≤ d && d ≤ '7' then d :: more else rest
        | _ => rest
      let (c, behind) := escape digits
      let (more, stops) := escaped fuel behind
      (c :: more, stops)
  | fuel + 1, c :: rest =>
    let (more, stops) := escaped fuel rest
    (c :: more, stops)

/-- A text with its escapes resolved, and whether an escape ends all output. -/
def escapedText (s : String) : List Char × Bool := escaped (s.length + 1) s.toList

/-- Words between blanks, until an escape ends the output. -/
def joinEscaped : List String → List Char × Bool
  | [] => ([], false)
  | [w] => escapedText w
  | w :: ws =>
    let (first, stops) := escapedText w
    if stops then (first, true)
    else
      let (more, stops) := joinEscaped ws
      (first ++ ' ' :: more, stops)

/-- Some words with the escapes in them, ended by a line feed unless asked not to. -/
def echoText (words : List String) : String :=
  let (ended, words) := match words with
    | "-n" :: rest => (false, rest)
    | words => (true, words)
  let (body, stops) := joinEscaped words
  String.ofList (if stops || !ended then body else body ++ ['\n'])

/-- Some words as they stand. -/
def plainEchoText (words : List String) : String :=
  match words with
  | "-n" :: rest => " ".intercalate rest
  | words => " ".intercalate words ++ "\n"

/-! ### Formats -/

/-- A width or a precision: none, a number, or one taken from the arguments. -/
inductive Extent where
  | none
  | given (n : Nat)
  | argument
  deriving DecidableEq, Repr

/-- A conversion of a format. -/
structure Conversion where
  flags : List Char
  width : Extent
  precision : Extent
  kind : Char
  /-- How it is written. -/
  written : String
  deriving DecidableEq, Repr

/-- One part of a format. -/
inductive FormatPart where
  | char (c : Char)
  | conversion (c : Conversion)
  /-- The format ends in the middle of a conversion. -/
  | incomplete
  deriving DecidableEq, Repr

/-- The number at the front of a text, and what is behind it. -/
def leadingNumber (cs : List Char) : Nat × List Char := leadingDigits 10 cs

/-- The extent at the front of a text, and what is behind it. -/
def readExtent (cs : List Char) : Extent × List Char :=
  match cs with
  | '*' :: rest => (.argument, rest)
  | c :: _ =>
    if c.isDigit then
      let (n, rest) := leadingNumber cs
      (.given n, rest)
    else (.none, cs)
  | [] => (.none, [])

/-- The conversion behind a percent sign, and what is behind it. -/
def readConversion (cs : List Char) : FormatPart × List Char :=
  let flags := cs.takeWhile fun c => "#-+ 0".toList.contains c
  let (width, rest) := readExtent (cs.drop flags.length)
  let (precision, rest) := match rest with
    | '.' :: rest =>
      match readExtent rest with
      | (.none, rest) => (Extent.given 0, rest)
      | found => found
    | rest => (.none, rest)
  match rest with
  | kind :: behind =>
    let written := cs.take (cs.length - behind.length)
    (.conversion ⟨flags, width, precision, kind, String.ofList ('%' :: written)⟩, behind)
  | [] => (.incomplete, [])

/-- The parts of a format. -/
def formatParts : Nat → List Char → List FormatPart
  | 0, _ => []
  | _, [] => []
  | fuel + 1, '%' :: '%' :: rest => .char '%' :: formatParts fuel rest
  | fuel + 1, '%' :: rest =>
    let (part, behind) := readConversion rest
    part :: formatParts fuel behind
  | fuel + 1, '\\' :: rest =>
    let (c, behind) := escape rest
    .char c :: formatParts fuel behind
  | fuel + 1, c :: rest => .char c :: formatParts fuel rest

/-! ### Numbers -/

/-- A number with a fraction, or none. -/
inductive Real where
  | finite (x : Binary64)
  | infinite (negative : Bool)
  | undefined (negative : Bool)
  deriving DecidableEq, Repr

/-- The exponent behind a mark, and what is behind it; zero if there is none. -/
def readExponent (mark : Char) (cs : List Char) : Int × List Char :=
  match cs with
  | c :: rest =>
    if c.toLower ≠ mark then (0, cs)
    else
      let (negative, digits) := match rest with
        | '-' :: ds => (true, ds)
        | '+' :: ds => (false, ds)
        | ds => (false, ds)
      let (n, behind) := leadingNumber digits
      if behind.length = digits.length then (0, cs)
      else (if negative then -(n : Int) else n, behind)
  | [] => (0, [])

/-- The digits of a number in some base with a point among them: their value, how many
stand behind the point, and what is behind them; none if there are no digits. -/
def readPointed (base : Nat) (cs : List Char) : Option (Nat × Nat × List Char) :=
  let (whole, rest) := leadingDigits base cs
  let wholeCount := cs.length - rest.length
  match rest with
  | '.' :: ds =>
    let count := (ds.takeWhile fun c => (digitIn? base c).isSome).length
    if wholeCount = 0 ∧ count = 0 then none
    else
      let (part, behind) := leadingDigits base ds
      some (whole * Nat.pow base count + part, count, behind)
  | _ => if wholeCount = 0 then none else some (whole, 0, rest)

/-- A number too large to be held is infinite. -/
def Real.ofOption (negative : Bool) : Option Binary64 → Real
  | some x => .finite x
  | none => .infinite negative

/-- The number at the front of a text, behind blanks and a sign, and what is behind it. -/
def leadingReal (cs : List Char) : Option (Real × List Char) :=
  let cs := cs.dropWhile isNumberBlank
  let (negative, cs) := match cs with
    | '-' :: rest => (true, rest)
    | '+' :: rest => (false, rest)
    | rest => (false, rest)
  let lower := cs.map Char.toLower
  if "infinity".toList.isPrefixOf lower then some (.infinite negative, cs.drop 8)
  else if "inf".toList.isPrefixOf lower then some (.infinite negative, cs.drop 3)
  else if "nan".toList.isPrefixOf lower then some (.undefined negative, cs.drop 3)
  else
    let hexadecimal := match cs with
      | '0' :: x :: rest => if x.toLower = 'x' then readPointed 16 rest else none
      | _ => none
    match hexadecimal with
    | some (digits, places, rest) =>
      let (e, rest) := readExponent 'p' rest
      let e := e - 4 * places
      let x :=
        if 4000 < e.natAbs then if e < 0 then some ⟨negative, 0, 0⟩ else none
        else if 0 ≤ e then Binary64.ofRatio? negative (digits * Binary64.powerOfTwo e.toNat) 1
        else Binary64.ofRatio? negative digits (Binary64.powerOfTwo (-e).toNat)
      some (.ofOption negative x, rest)
    | none =>
      (readPointed 10 cs).map fun (digits, places, rest) =>
        let (e, rest) := readExponent 'e' rest
        (.ofOption negative (Binary64.nearest? negative digits (e - places)), rest)

/-- The digits of a number in a base, at least so many. -/
def digitsOf (base count n : Nat) : List Char :=
  let ds := Nat.toDigits base n
  List.replicate (count - ds.length) '0' ++ ds

/-- A whole number over a positive one, times a power of ten, rounded. -/
def scaled (num den : Nat) (power : Int) : Nat :=
  if 0 ≤ power then Binary64.roundQuotient (num * Binary64.powerOfTen power.toNat) den
  else Binary64.roundQuotient num (den * Binary64.powerOfTen (-power).toNat)

/-- The exponent of the first digit of a positive quotient. -/
def leadingExponent (num den : Nat) : Nat → Int → Int
  | 0, e => e
  | fuel + 1, e =>
    let below :=
      if 0 ≤ e then decide (num < den * Binary64.powerOfTen e.toNat)
      else decide (num * Binary64.powerOfTen (-e).toNat < den)
    if below then leadingExponent num den fuel (e - 1) else e

/-- The digits of a number rounded to so many behind the first, and the exponent of the
first. -/
def scientific (x : Binary64) (places : Nat) : List Char × Int :=
  let (num, den) := x.ratio
  if num = 0 then (List.replicate (places + 1) '0', 0)
  else
    let guess : Int := ((Nat.log2 num : Int) - (Nat.log2 den : Int)) * 1233 / 4096 + 2
    let e := leadingExponent num den 20 guess
    let digits := Nat.toDigits 10 (scaled num den (places - e))
    if places + 1 < digits.length then (digits.take (places + 1), e + 1) else (digits, e)

/-- An exponent with its sign and at least two digits. -/
def exponentText (mark : Char) (e : Int) : List Char :=
  mark :: (if e < 0 then '-' else '+') :: digitsOf 10 2 e.natAbs

/-- Digits with a point behind the first, which is left out if nothing follows. -/
def pointed (keepsPoint : Bool) (digits : List Char) : List Char :=
  match digits with
  | [d] => if keepsPoint then [d, '.'] else [d]
  | d :: ds => d :: '.' :: ds
  | [] => []

/-- A text without zeros at the end of its fraction. -/
def withoutZeros (cs : List Char) : List Char :=
  if !cs.contains '.' then cs
  else
    match cs.reverse.dropWhile (· == '0') with
    | '.' :: rest => rest.reverse
    | rest => rest.reverse

/-- The magnitude of a number in hexadecimal. -/
def hexadecimalText (x : Binary64) (precision : Option Nat) : List Char :=
  if x.mantissa = 0 then
    "0x0".toList ++ pointedZeros (precision.getD 0) ++ "p+0".toList
  else
    -- shifted so that the first digit is one and thirteen follow
    let shift := 52 - Nat.log2 x.mantissa
    let m := x.mantissa * Binary64.powerOfTwo shift
    let e := x.exponent - shift + 52
    let places := precision.getD 13
    let (m, places) :=
      if places < 13 then (Binary64.roundQuotient m (Nat.pow 16 (13 - places)), places)
      else (m * Nat.pow 16 (places - 13), places)
    let digits := pointed false (digitsOf 16 (places + 1) m)
    let digits := if precision.isNone then withoutZeros digits else digits
    let sign := if e < 0 then '-' else '+'
    "0x".toList ++ digits ++ 'p' :: sign :: Nat.toDigits 10 e.natAbs
where
  /-- A point with zeros behind it. -/
  pointedZeros (n : Nat) : List Char := if n = 0 then [] else '.' :: List.replicate n '0'

/-- The magnitude of a number in the form that a conversion asks for. -/
def magnitudeText (kind : Char) (alternate : Bool) (precision : Option Nat) (x : Binary64) :
    List Char :=
  let magnitude : Binary64 := { x with negative := false }
  if kind = 'f' then
    let places := precision.getD 6
    (magnitude.fixed places).toList ++ if alternate && places == 0 then ['.'] else []
  else if kind = 'e' then
    let (digits, e) := scientific magnitude (precision.getD 6)
    pointed alternate digits ++ exponentText 'e' e
  else if kind = 'a' then hexadecimalText magnitude precision
  else
    let count := max 1 (precision.getD 6)
    let (digits, e) := scientific magnitude (count - 1)
    let plain := if alternate then id else withoutZeros
    if e < -4 ∨ (count : Int) ≤ e then plain (pointed alternate digits) ++ exponentText 'e' e
    else
      let text := (magnitude.fixed (count - 1 - e).toNat).toList
      plain (if alternate && !text.contains '.' then text ++ ['.'] else text)

/-! ### Conversions -/

/-- A text brought to a width. -/
def toWidth (left : Bool) (width : Nat) (cs : List Char) : List Char :=
  let fill := List.replicate (width - cs.length) ' '
  if left then cs ++ fill else fill ++ cs

/-- How a conversion lays out its text. -/
structure Layout where
  left : Bool
  zeros : Bool
  sign : List Char
  alternate : Bool
  width : Nat
  precision : Option Nat

/-- A number brought to a width, with zeros behind its sign if asked to. -/
def Layout.number (l : Layout) (sign digits : List Char) (zeros : Bool) : List Char :=
  if zeros && !l.left then
    sign ++ List.replicate (l.width - sign.length - digits.length) '0' ++ digits
  else toWidth l.left l.width (sign ++ digits)

/-- An integer in the form that a conversion asks for. -/
def Layout.integer (l : Layout) (kind : Char) (n : Int) : List Char :=
  let signedKind := kind == 'd' || kind == 'i'
  let magnitude := if signedKind then n.natAbs else bitsOf n
  let sign := if !signedKind then [] else if n < 0 then ['-'] else l.sign
  let base := if kind.toLower = 'x' then 16 else if kind = 'o' then 8 else 10
  let digits := if magnitude = 0 ∧ l.precision = some 0 then [] else Nat.toDigits base magnitude
  let count := l.precision.getD 1
  let digits := List.replicate (count - digits.length) '0' ++ digits
  let digits := if kind = 'X' then digits.map Char.toUpper else digits
  let digits :=
    if kind == 'o' && l.alternate && digits.head? != some '0' then '0' :: digits else digits
  let sign := if kind.toLower = 'x' && l.alternate && magnitude != 0 then ['0', kind] else sign
  l.number sign digits (l.zeros && l.precision.isNone)

/-- A number with a fraction in the form that a conversion asks for. -/
def Layout.real (l : Layout) (kind : Char) (r : Real) : List Char :=
  let cased (cs : List Char) : List Char := if kind.isUpper then cs.map Char.toUpper else cs
  let signOf (negative : Bool) : List Char := if negative then ['-'] else l.sign
  match r with
  | .finite x =>
    l.number (signOf x.negative) (cased (magnitudeText kind.toLower l.alternate l.precision x))
      l.zeros
  | .infinite negative => toWidth l.left l.width (signOf negative ++ cased "inf".toList)
  | .undefined negative => toWidth l.left l.width (signOf negative ++ cased "nan".toList)

/-- What `printf` has written, and what it has to say. -/
structure Printed where
  output : List Char := []
  warnings : List String := []
  args : List String
  /-- No more output comes. -/
  ended : Bool := false
  /-- The format is none. -/
  fault : Option String := none

namespace Printed

/-- The next argument. -/
def next (p : Printed) : Option String × Printed := (p.args.head?, { p with args := p.args.drop 1 })

/-- Adds output, the later before the earlier. -/
def put (p : Printed) (cs : List Char) : Printed := { p with output := cs.reverse ++ p.output }

/-- Adds a warning. -/
def warn (p : Printed) (text : String) : Printed := { p with warnings := p.warnings ++ [text] }

/-- Warns of what is behind a number, or of a number beyond the limits. -/
def checkRest (p : Printed) (arg : String) (found : Option (List Char)) (inRange : Bool) :
    Printed :=
  match found with
  | none => if arg.isEmpty then p else p.warn (arg ++ ": expected numeric value")
  | some (_ :: _) => p.warn (arg ++ ": not completely converted")
  | some [] => if inRange then p else p.warn (arg ++ ": Numerical result out of range")

/-- The code of the character behind a quote in front of an argument. -/
def quotedCode? (arg : String) : Option Nat :=
  match arg.toList with
  | '\'' :: rest | '"' :: rest => some ((rest.head?.map Char.toNat).getD 0)
  | _ => none

/-- The next argument as an integer. -/
def nextInteger (p : Printed) (signed : Bool) : Int × Printed :=
  match p.next with
  | (none, p) => (0, p)
  | (some arg, p) =>
    match quotedCode? arg with
    | some n => (n, p)
    | none =>
      match leadingInteger true arg.toList with
      | none => (0, p.checkRest arg none true)
      | some (n, rest) =>
        let held :=
          if signed then clamp n
          else if (wordLimit : Int) ≤ n.natAbs then (wordLimit : Int) - 1
          else n
        (held, p.checkRest arg (some rest) (held == n))

/-- The next argument as a number with a fraction. -/
def nextReal (p : Printed) : Real × Printed :=
  match p.next with
  | (none, p) => (.finite .zero, p)
  | (some arg, p) =>
    match quotedCode? arg with
    | some n => (.ofOption false (Binary64.nearest? false n 0), p)
    | none =>
      match leadingReal arg.toList with
      | none => (.finite .zero, p.checkRest arg none true)
      | some (r, rest) =>
        let named := arg.toList.any fun c => c == 'n' || c == 'N'
        let inRange := match r with
          | .infinite _ => named
          | _ => true
        (r, p.checkRest arg (some rest) inRange)

/-- An extent, taken from the arguments if it is there. -/
def extent (p : Printed) : Extent → Option Int × Printed
  | .none => (none, p)
  | .given n => (some n, p)
  | .argument =>
    let (n, p) := p.nextInteger true
    (some n, p)

/-- Fills a conversion. -/
def convert (p : Printed) (c : Conversion) : Printed :=
  let (width, p) := p.extent c.width
  let (precision, p) := p.extent c.precision
  let width := width.getD 0
  let l : Layout :=
    { left := c.flags.contains '-' || width < 0
      zeros := c.flags.contains '0'
      sign := if c.flags.contains '+' then ['+'] else if c.flags.contains ' ' then [' '] else []
      alternate := c.flags.contains '#'
      width := width.natAbs
      precision := precision.bind fun n => if n < 0 then none else some n.toNat }
  let cut (cs : List Char) : List Char := match l.precision with
    | some n => cs.take n
    | none => cs
  if c.kind = 's' then
    let (arg, p) := p.next
    p.put (toWidth l.left l.width (cut (arg.getD "").toList))
  else if c.kind = 'b' then
    let (arg, p) := p.next
    let (body, stops) := escapedText (arg.getD "")
    { p.put (toWidth l.left l.width (cut body)) with ended := stops }
  else if c.kind = 'c' then
    let (arg, p) := p.next
    p.put (toWidth l.left l.width [((arg.bind (·.toList.head?)).getD '\x00')])
  else if c.kind = 'd' ∨ c.kind = 'i' then
    let (n, p) := p.nextInteger true
    p.put (l.integer c.kind n)
  else if ['o', 'u', 'x', 'X'].contains c.kind then
    let (n, p) := p.nextInteger false
    p.put (l.integer c.kind n)
  else if ['a', 'A', 'e', 'E', 'f', 'F', 'g', 'G'].contains c.kind then
    let (r, p) := p.nextReal
    p.put (l.real c.kind r)
  else { p with ended := true, fault := some (c.written ++ ": invalid directive") }

/-- Fills one part of a format. -/
def step (p : Printed) (part : FormatPart) : Printed :=
  if p.ended then p
  else
    match part with
    | .char c => p.put [c]
    | .conversion c => p.convert c
    | .incomplete => { p with ended := true, fault := some "missing format character" }

/-- Fills a format until all arguments are used, or a pass uses none. -/
def passes (parts : List FormatPart) : Nat → Printed → Printed
  | 0, p => p
  | fuel + 1, p =>
    let q := parts.foldl step p
    if q.ended || q.args.isEmpty || q.args.length == p.args.length then q else passes parts fuel q

end Printed

/-- A format filled with arguments. -/
def printf (format : String) (args : List String) : Printed :=
  let p := Printed.passes (formatParts (format.length + 1) format.toList) (args.length + 1)
    { args := args }
  { p with output := p.output.reverse }

end HarnessRepair.Shell
