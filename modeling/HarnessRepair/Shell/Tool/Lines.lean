import HarnessRepair.Shell.Arithmetic
import HarnessRepair.Shell.Tool.Basic

/-!
# Tools for lines

Writing, counting, choosing, sorting and cutting the lines of files.

## Main definitions

* `concatenate`, `firstLines`, `lastLines`, `countAll`, `reverseLines`, `reverseTexts`,
  `numberLines` — whole lines.
* `sortLines`, `mergeRepeats` — their order.
* `cutLines`, `pasteLines`, `foldLines` — their parts.
* `copyInput`, `countUp` — lines from elsewhere.
-/

namespace HarnessRepair.Shell

open Work

/-- A text brought to a width by blanks in front. -/
def padFront (width : Nat) (s : String) : String :=
  String.ofList (List.replicate (width - s.length) ' ') ++ s

/-! ### Writing -/

/-- A byte made visible. -/
def visibleByte (b : UInt8) : String :=
  let n := b.toNat
  let low (n : Nat) : String :=
    if n < 32 then "^" ++ String.singleton (Char.ofNat (n + 64))
    else if n = 127 then "^?"
    else String.singleton (Char.ofNat n)
  if n = 10 ∨ n = 9 then String.singleton (Char.ofNat n)
  else if n < 128 then low n
  else "M-" ++ low (n - 128)

/-- A line as options ask for it. -/
def shownLine (choices : List Choice) (line : List UInt8) : List UInt8 :=
  let all := isChosen choices 'A'
  let ends := all || isChosen choices 'E' || isChosen choices 'e'
  let tabs := all || isChosen choices 'T' || isChosen choices 't'
  let visible := all || ['v', 'e', 't'].any (isChosen choices)
  line.flatMap fun b =>
    if b = 10 then (if ends then Text.toBytes "$\n" else [10])
    else if b = 9 then (if tabs then Text.toBytes "^I" else [9])
    else if visible then Text.toBytes (visibleByte b)
    else [b]

/-- The lines without all but the first of empty lines in a row. -/
def squeezeEmpty : Bool → List (List UInt8) → List (List UInt8)
  | _, [] => []
  | before, line :: rest =>
    let empty := line == [10]
    if before && empty then squeezeEmpty true rest else line :: squeezeEmpty empty rest

/-- Writes files, or the input, one behind another. -/
def concatenate : Tool := do
  let (choices, operands) ← options 1
    ⟨"nbEsTAvetu", "",
      [("number", 'n'), ("number-nonblank", 'b'), ("show-ends", 'E'), ("squeeze-blank", 's'),
        ("show-tabs", 'T'), ("show-all", 'A'), ("show-nonprinting", 'v')]⟩
  if choices.all (·.1 == 'u') then
    (if operands.isEmpty then ["-"] else operands).forM fun path => do
      for (_, bs) in ← readAll [path] 1 do write bs
  else
    let all ← readAll operands 1
    let lines := byteLines (all.flatMap (·.2))
    let lines := if isChosen choices 's' then squeezeEmpty false lines else lines
    let lines := lines.map fun line => (line, shownLine choices line)
    let lines :=
      if isChosen choices 'b' then
        numberedBy (fun line => line != [10]) 1 lines
      else if isChosen choices 'n' then numberedBy (fun _ => true) 1 lines
      else lines.map (·.2)
    lines.forM write
where
  /-- Shown lines with numbers in front of those that count. -/
  numberedBy (counts : List UInt8 → Bool) : Nat → List (List UInt8 × List UInt8) →
      List (List UInt8)
    | _, [] => []
    | n, (line, shown) :: rest =>
      if counts line then
        (Text.toBytes (padFront 6 (toString n) ++ "\t") ++ shown) :: numberedBy counts (n + 1) rest
      else shown :: numberedBy counts n rest

/-! ### Beginnings and ends -/

/-- How much of a file is asked for. -/
structure Extract where
  bytes : Bool := false
  count : Nat := 10
  /-- The count is of what is left out. -/
  inverted : Bool := false

/-- The amount that a text writes. -/
def extract? (bytes : Bool) (inverting : Char) (s : String) : Option Extract :=
  let (inverted, digits) := match s.toList with
    | c :: ds => if c = inverting then (true, ds) else if c = '-' ∨ c = '+' then (false, ds)
      else (false, c :: ds)
    | [] => (false, [])
  let number := digits.takeWhile Char.isDigit
  let unit? : Option Nat :=
    match digits.drop number.length with
    | [] => some 1
    | ['b'] => some 512
    | ['k'] | ['K'] => some 1024
    | ['M'] => some 1048576
    | _ => none
  match Text.natOfDigits? number, unit? with
  | some n, some unit => some ⟨bytes, n * unit, inverted⟩
  | _, _ => none

/-- Old ways to ask for an amount: the number alone as the first argument. -/
def spellOut (signs : List Char) : List String → List String
  | arg :: rest =>
    match arg.toList with
    | sign :: ds =>
      if signs.contains sign && !ds.isEmpty && ds.all Char.isDigit then
        "-n" :: (if sign = '+' then arg else String.ofList ds) :: rest
      else arg :: rest
    | [] => arg :: rest
  | [] => []

/-- The first part of some bytes. -/
def Extract.first (e : Extract) (bs : List UInt8) : List UInt8 :=
  if e.bytes then bs.take (if e.inverted then bs.length - e.count else e.count)
  else
    let lines := byteLines bs
    (lines.take (if e.inverted then lines.length - e.count else e.count)).flatten

/-- The last part of some bytes. -/
def Extract.last (e : Extract) (bs : List UInt8) : List UInt8 :=
  if e.bytes then bs.drop (if e.inverted then e.count - 1 else bs.length - e.count)
  else
    let lines := byteLines bs
    (lines.drop (if e.inverted then e.count - 1 else lines.length - e.count)).flatten

/-- Writes a part of each of some files. -/
def somePart (signs : List Char) (inverting : Char) (part : Extract → List UInt8 → List UInt8) :
    Tool := fun c => do
  let (choices, operands) ← options 1
    ⟨"qvzfrs", "nc",
      [("lines", 'n'), ("bytes", 'c'), ("quiet", 'q'), ("silent", 'q'), ("verbose", 'v'),
        ("follow", 'f')]⟩
    { c with args := spellOut signs c.args }
  (work choices operands).run c
where
  /-- The work on some operands. -/
  work (choices : List Choice) (operands : List String) : Work Unit := do
    let asked := choices.reverse.find? fun o => o.1 == 'n' || o.1 == 'c'
    let e ← match asked with
      | none => pure ({} : Extract)
      | some (kind, text) =>
        match extract? (kind == 'c') inverting text with
        | some e => pure e
        | none =>
          giveUp 1 ("invalid number of " ++ (if kind = 'c' then "bytes" else "lines") ++ ": " ++
            inQuotes text)
    let operands := if operands.isEmpty then ["-"] else operands
    let headed := (1 < operands.length || isChosen choices 'v') && !isChosen choices 'q'
    go e headed false operands
  /-- Writes the parts, with an empty line in front of all headings but the first. -/
  go (e : Extract) (headed : Bool) : Bool → List String → Work Unit
    | _, [] => pure ()
    | shown, path :: rest => do
      let heading : Work Unit := do
        if headed then
          let name := if path = "-" then "standard input" else path
          printText ((if shown then "\n" else "") ++ "==> " ++ name ++ " <==\n")
      match ← readFile path with
      | .ok bs =>
        heading
        print (part e bs)
        go e headed true rest
      | .error .isDirectory =>
        heading
        complain ("error reading " ++ inQuotes path ++ ": " ++ reason .isDirectory)
        fail 1
        go e headed true rest
      | .error why =>
        complain ("cannot open " ++ inQuotes path ++ " for reading: " ++ reason why)
        fail 1
        go e headed shown rest

/-- Writes the first lines of files. -/
def firstLines : Tool := somePart ['-'] '-' Extract.first

/-- Writes the last lines of files. -/
def lastLines : Tool := somePart ['-', '+'] '+' Extract.last

/-! ### Counting -/

/-- The number of words in some bytes. -/
def wordCount (bs : List UInt8) : Nat :=
  (bs.foldl
    (fun (n, inside) b =>
      let blank := b == 32 || (9 ≤ b && b ≤ 13)
      if blank then (n, false) else (if inside then n else n + 1, true))
    (0, false)).1

/-- The counts of some bytes that options ask for. -/
def countsOf (choices : List Choice) (bs : List UInt8) : List Nat :=
  let given (c : Char) : Bool := isChosen choices c || (choices.isEmpty && c != 'm' && c != 'L')
  (if given 'l' then [(bs.filter (· == 10)).length] else []) ++
    (if given 'w' then [wordCount bs] else []) ++
    (if given 'm' then [bs.length] else []) ++
    (if given 'c' then [bs.length] else []) ++
    (if given 'L' then [((byteLines bs).map fun l => (withoutFeed l).length).foldl max 0] else [])

/-- Counts lines, words and bytes. -/
def countAll : Tool := do
  let (choices, operands) ← options 1
    ⟨"lwcmL", "",
      [("lines", 'l'), ("words", 'w'), ("bytes", 'c'), ("chars", 'm'), ("max-line-length", 'L')]⟩
  let single := operands.length ≤ 1 && choices.length == 1
  let fs := (← get).files
  let inputSize := (← get).inputSize
  let paths := if operands.isEmpty then ["-"] else operands
  -- What has no size takes more room, unless it is not there at all.
  let sizes ← paths.mapM fun path => do
    if path = "-" then return (inputSize.getD 0, inputSize.isNone)
    let place := pathIn (← read).directory path
    return match fs.read place with
      | .ok c => (c.bytes.length, false)
      | .error _ => (0, fs.find? place == some .dir || path == "/dev/null")
  let total := sizes.foldl (fun n size => n + size.1) 0
  let width :=
    if single then 1
    else max (toString total).length (if sizes.any (·.2) then 7 else 1)
  let line (counts : List Nat) (name : String) : String :=
    " ".intercalate (counts.map fun n => padFront width (toString n)) ++
      if name.isEmpty then "" else " " ++ name
  let results ← (if operands.isEmpty then [""] else operands).mapM fun path => do
    match ← readFile (if path.isEmpty && operands.isEmpty then "-" else path) with
    | .ok bs =>
      let counts := countsOf choices bs
      printLine (line counts path)
      return counts
    | .error e =>
      complain (shownName path ++ ": " ++ reason e)
      fail 1
      let counts := countsOf choices []
      if e = .isDirectory then printLine (line counts path)
      return counts
  if 1 < operands.length then
    let sum := results.foldl (fun all counts => List.zipWith (· + ·) all counts)
      ((countsOf choices []).map fun _ => 0)
    printLine (line sum "total")

/-! ### Order -/

/-- Writes lines in reverse order. -/
def reverseLines : Tool := do
  let (_, operands) ← options 1 ⟨"b", "s", []⟩
  (if operands.isEmpty then ["-"] else operands).forM fun path => do
    match ← readFile path with
    | .ok bs => print (byteLines bs).reverse.flatten
    | .error e =>
      complain ("failed to open " ++ inQuotes path ++ " for reading: " ++ reason e)
      fail 1

/-- Writes each line backwards. -/
def reverseTexts : Tool := do
  let (_, operands) ← options 1 ⟨"0", "", []⟩
  (if operands.isEmpty then ["-"] else operands).forM fun path => do
    match ← readFile path with
    | .ok bs =>
      (byteLines bs).forM fun line =>
        let body := withoutFeed line
        print (body.reverse ++ line.drop body.length)
    | .error e =>
      complain ("cannot open " ++ path ++ ": " ++ reason e)
      fail 1

/-- Writes lines with numbers. -/
def numberLines : Tool := do
  let (choices, operands) ← options 1 ⟨"p", "bwsnviflhd", [("body-numbering", 'b')]⟩
  let all ← readAll operands 1
  let every := chosen? choices 'b' == some "a"
  let width := ((chosen? choices 'w').bind fun s => Text.natOfDigits? s.toList).getD 6
  let separator := (chosen? choices 's').getD "\t"
  go every width separator 1 (byteLines (all.flatMap (·.2)))
where
  /-- Writes lines, the first with a number. -/
  go (every : Bool) (width : Nat) (separator : String) : Nat → List (List UInt8) → Work Unit
    | _, [] => pure ()
    | n, line :: rest => do
      if every || line != [10] then
        print (Text.toBytes (padFront width (toString n) ++ separator) ++ line)
        go every width separator (n + 1) rest
      else
        print (Text.toBytes (padFront (width + separator.length) "") ++ line)
        go every width separator n rest

/-- A key of a line: from a field to a field, and how it is compared. -/
structure SortKey where
  first : Nat := 1
  last : Option Nat := none
  numeric : Bool := false
  reversed : Bool := false
  folded : Bool := false
  trimmed : Bool := false

/-- A key with the ways of comparing that letters ask for; none if a letter is unknown. -/
def SortKey.withLetters? (k : SortKey) : List Char → Option SortKey
  | [] => some k
  | c :: rest =>
    if c = 'n' ∨ c = 'g' then ({ k with numeric := true }).withLetters? rest
    else if c = 'r' then ({ k with reversed := true }).withLetters? rest
    else if c = 'f' then ({ k with folded := true }).withLetters? rest
    else if c = 'b' then ({ k with trimmed := true }).withLetters? rest
    else if c = 'd' ∨ c = 'i' ∨ c = 'V' ∨ c = 'h' then k.withLetters? rest
    else none

/-- The key that a text asks for. -/
def sortKey? (usual : SortKey) (s : String) : Option SortKey := do
  let field (part : String) : Option (Nat × List Char) := do
    let ds := part.toList.takeWhile Char.isDigit
    let n ← Text.natOfDigits? ds
    let rest := part.toList.drop ds.length
    let rest := match rest with
      | '.' :: more => more.dropWhile Char.isDigit
      | more => more
    return (n, rest)
  match Text.splitOnChar ',' s with
  | [one] =>
    let (n, letters) ← field one
    let base := if letters.isEmpty then usual else {}
    ({ base with first := n } : SortKey).withLetters? letters
  | [one, two] =>
    let (n, letters) ← field one
    let (m, more) ← field two
    let base := if (letters ++ more).isEmpty then usual else {}
    ({ base with first := n, last := some m } : SortKey).withLetters? (letters ++ more)
  | _ => none

/-- The fields of a line; with no separator they begin with the blanks in front. -/
def sortFields (separator : Option Char) (line : List Char) : List (List Char) :=
  match separator with
  | some c => Text.splitChars (· == c) line
  | none =>
    let step (s : List (List Char) × Bool) (c : Char) : List (List Char) × Bool :=
      let blank := c == ' ' || c == '\t'
      match s with
      | (field :: done, before) =>
        if blank && !before && !field.isEmpty then ([c] :: field :: done, true)
        else ((c :: field) :: done, blank)
      | ([], _) => ([[c]], blank)
    let (fields, _) := line.foldl step ([], true)
    (fields.map List.reverse).reverse

/-- The text of a key in a line. -/
def SortKey.textIn (k : SortKey) (separator : Option Char) (line : String) : List Char :=
  if k.first ≤ 1 && k.last.isNone then line.toList
  else
    let fields := (sortFields separator line.toList).drop (k.first - 1)
    let fields := match k.last with
      | some m => fields.take (m + 1 - k.first)
      | none => fields
    match separator with
    | some c => [c].intercalate fields
    | none => fields.flatten

/-- The number at the front of a text, in thousandths of a thousandth. -/
def sortNumber (cs : List Char) : Int :=
  let cs := cs.dropWhile isNumberBlank
  let (negative, cs) := match cs with
    | '-' :: rest => (true, rest)
    | rest => (false, rest)
  let (whole, rest) := leadingDigits 10 cs
  let part := match rest with
    | '.' :: ds =>
      let ds := (ds.takeWhile Char.isDigit).take 6
      (leadingDigits 10 (ds ++ List.replicate (6 - ds.length) '0')).1
    | _ => 0
  let n : Int := whole * 1000000 + part
  if negative then -n else n

/-- How two lines stand by a key. -/
def SortKey.compare (k : SortKey) (separator : Option Char) (a b : String) : Ordering :=
  let text (s : String) : List Char :=
    let cs := k.textIn separator s
    let cs := if k.trimmed then cs.dropWhile isNumberBlank else cs
    if k.folded then cs.map Char.toUpper else cs
  let found :=
    if k.numeric then Ord.compare (sortNumber (text a)) (sortNumber (text b))
    else Ord.compare (String.ofList (text a)) (String.ofList (text b))
  if k.reversed then found.swap else found

/-- How two lines stand by several keys. -/
def compareBy (keys : List SortKey) (separator : Option Char) (a b : String) : Ordering :=
  keys.foldl (fun o k => o.then (k.compare separator a b)) .eq

/-- The first of lines that are equal by some keys. -/
def dropEqual (same : String → String → Bool) : List String → List String
  | a :: b :: rest =>
    if same a b then dropEqual same (a :: rest) else a :: dropEqual same (b :: rest)
  | lines => lines
termination_by lines => lines.length

/-- Sorts lines. -/
def sortLines : Tool := do
  let (choices, operands) ← options 2
    ⟨"nrufbsczmdigVhC", "ktoST",
      [("numeric-sort", 'n'), ("reverse", 'r'), ("unique", 'u'), ("ignore-case", 'f'),
        ("key", 'k'), ("field-separator", 't'), ("output", 'o'), ("check", 'c'), ("stable", 's')]⟩
  let usual : SortKey :=
    { numeric := isChosen choices 'n' || isChosen choices 'g'
      reversed := isChosen choices 'r'
      folded := isChosen choices 'f'
      trimmed := isChosen choices 'b' }
  let separator ← match chosen? choices 't' with
    | none => pure none
    | some "\\0" => pure (some '\x00')
    | some text =>
      match text.toList with
      | [c] => pure (some c)
      | [] => giveUp 2 "empty tab"
      | _ => giveUp 2 ("multi-character tab " ++ inQuotes text)
  let keys ← (choices.filter (·.1 == 'k')).mapM fun (_, text) =>
    match sortKey? usual text with
    | some k => do
      if k.first = 0 then
        giveUp 2 ("-: invalid field specification " ++ inQuotes text)
      return k
    | none =>
      giveUp 2 ("invalid number at field start: invalid count at start of " ++ inQuotes text)
  let keys := if keys.isEmpty then [usual] else keys
  let contents ← (if operands.isEmpty then ["-"] else operands).mapM fun path => do
    match ← readFile path with
    | .ok bs => return bs
    | .error .isDirectory => giveUp 2 ("read failed: " ++ path ++ ": " ++ reason .isDirectory)
    | .error e => giveUp 2 ("cannot read: " ++ path ++ ": " ++ reason e)
  let separatorByte : UInt8 := if isChosen choices 'z' then 0 else 10
  let lines := contents.flatMap fun bs =>
    (piecesAt separatorByte bs).map fun piece =>
      Text.ofBytes (if piece.getLast? = some separatorByte then piece.dropLast else piece)
  let unique := isChosen choices 'u'
  let byKeys := compareBy keys separator
  let full (a b : String) : Ordering :=
    let last := Ord.compare a b
    let last := if usual.reversed then last.swap else last
    if unique || isChosen choices 's' then byKeys a b else (byKeys a b).then last
  if isChosen choices 'c' || isChosen choices 'C' then
    match disorder? full unique 2 lines with
    | some (n, line) =>
      if isChosen choices 'c' then
        complain (operands.headD "-" ++ ":" ++ toString n ++ ": disorder: " ++ line)
      fail 1
    | none => pure ()
  else
    let sorted := lines.mergeSort fun a b => full a b != .gt
    let sorted := if unique then dropEqual (fun a b => byKeys a b == .eq) sorted else sorted
    let ending := String.singleton (Char.ofNat separatorByte.toNat)
    let text := Text.toBytes (String.join (sorted.map (· ++ ending)))
    match chosen? choices 'o' with
    | none => print text
    | some path =>
      match ← writeFile path text with
      | .ok () => pure ()
      | .error e => giveUp 2 ("open failed: " ++ path ++ ": " ++ reason e)
where
  /-- The first line that does not come behind the one in front of it. -/
  disorder? (full : String → String → Ordering) (unique : Bool) : Nat → List String →
      Option (Nat × String)
    | n, a :: b :: rest =>
      let o := full a b
      if o == .gt || (unique && o == .eq) then some (n, b)
      else disorder? full unique (n + 1) (b :: rest)
    | _, _ => none

/-- Rows of equal lines, each with its length. -/
def rowsOf (same : String → String → Bool) (lines : List String) : List (String × Nat) :=
  (lines.foldl
    (fun rows line =>
      match rows with
      | (first, n) :: done => if same first line then (first, n + 1) :: done else (line, 1) :: rows
      | [] => [(line, 1)])
    []).reverse

/-- Writes one of each row of equal lines. -/
def mergeRepeats : Tool := do
  let (choices, operands) ← options 1
    ⟨"cduiz", "fsw",
      [("count", 'c'), ("repeated", 'd'), ("unique", 'u'), ("ignore-case", 'i'),
        ("skip-fields", 'f'), ("skip-chars", 's'), ("check-chars", 'w')]⟩
  let count (c : Char) (what : String) : Work (Option Nat) := do
    match chosen? choices c with
    | none => return none
    | some text =>
      match Text.natOfDigits? text.toList with
      | some n => return some n
      | none => giveUp 1 (text ++ ": invalid number of " ++ what)
  let fields ← count 'f' "fields to skip"
  let chars ← count 's' "bytes to skip"
  let most ← count 'w' "bytes to compare"
  if 2 < operands.length then misused 1 ("extra operand " ++ inQuotes (operands.getD 2 ""))
  let key (line : String) : List Char :=
    let skip (cs : List Char) : List Char :=
      (cs.dropWhile isNumberBlank).dropWhile fun c => !isNumberBlank c
    let cs := (List.range (fields.getD 0)).foldl (fun cs _ => skip cs) line.toList
    let cs := cs.drop (chars.getD 0)
    let cs := match most with
      | some n => cs.take n
      | none => cs
    if isChosen choices 'i' then cs.map Char.toLower else cs
  let all ← readAll (operands.take 1) 1
  let rows := rowsOf (fun a b => key a == key b) (all.flatMap fun f => textLines f.2)
  let rows := rows.filter fun (_, n) =>
    !(isChosen choices 'd' && n == 1) && !(isChosen choices 'u' && n != 1)
  let text := String.join (rows.map fun (line, n) =>
    (if isChosen choices 'c' then padFront 7 (toString n) ++ " " else "") ++ line ++ "\n")
  match operands with
  | [_, target] => discard (writeFile target (Text.toBytes text))
  | _ => printText text

/-! ### Parts of lines -/

/-- A range of positions that are counted from one. -/
structure Span where
  first : Nat
  last : Option Nat
  deriving DecidableEq, Repr

/-- Why a list of ranges is none. -/
inductive SpanFault where
  | zero
  | decreasing
  | noNumber (text : String)
  | noEnds

/-- The range that a text writes. -/
def span? (s : String) : Except SpanFault Span :=
  let number (ds : List Char) : Except SpanFault Nat :=
    match Text.natOfDigits? ds with
    | some 0 => .error .zero
    | some n => .ok n
    | none => .error (.noNumber s)
  let front := s.toList.takeWhile (· != '-')
  match front, s.toList.drop front.length with
  | [], [] => .error .zero
  | ds, [] => (number ds).map fun n => ⟨n, some n⟩
  | [], ['-'] => .error .noEnds
  | [], _ :: ds => (number ds).map fun n => ⟨1, some n⟩
  | ds, ['-'] => (number ds).map fun n => ⟨n, none⟩
  | ds, _ :: es => do
    let a ← number ds
    let b ← number es
    if b < a then .error .decreasing else .ok ⟨a, some b⟩

/-- Whether a position is in one of some ranges. -/
def inSpans (spans : List Span) (n : Nat) : Bool :=
  spans.any fun s => s.first ≤ n && s.last.all fun m => n ≤ m

/-- The items of a list whose positions are chosen. -/
def chosenItems {α : Type} (chooses : Nat → Bool) (items : List α) : List α :=
  items.zipIdx.filterMap fun (a, i) => if chooses (i + 1) then some a else none

/-- Writes parts of lines. -/
def cutLines : Tool := do
  let (choices, operands) ← options 1
    ⟨"snzX", "dfbcO",
      [("delimiter", 'd'), ("fields", 'f'), ("bytes", 'b'), ("characters", 'c'),
        ("only-delimited", 's'), ("output-delimiter", 'O'), ("complement", 'X')]⟩
  let lists := choices.filter fun o => ['f', 'b', 'c'].contains o.1
  match lists with
  | [] => misused 1 "you must specify a list of bytes, characters, or fields"
  | (kind, text) :: more =>
    if !more.isEmpty then misused 1 "only one list may be specified"
    let fields := kind == 'f'
    let delimiter ← match chosen? choices 'd' with
      | none => pure '\t'
      | some text =>
        match text.toList with
        | [c] => pure c
        | [] => pure '\x00'
        | _ => misused 1 "the delimiter must be a single character"
    if !fields && isChosen choices 'd' then
      misused 1 "an input delimiter may be specified only when operating on fields"
    let what := if fields then "field" else "byte/character"
    let spans ← (text.toList |> Text.splitChars (fun c => c == ',' || c == ' ')).mapM fun part =>
      match span? (String.ofList part) with
      | .ok s => pure s
      | .error .zero =>
        misused 1 (if fields then "fields are numbered from 1"
          else "byte/character positions are numbered from 1")
      | .error .decreasing => misused 1 "invalid decreasing range"
      | .error .noEnds => misused 1 "invalid range with no endpoint: -"
      | .error (.noNumber text) =>
        misused 1 ("invalid " ++ what ++ (if fields then " value " else " position ") ++
          inQuotes text)
    let chooses (n : Nat) : Bool := inSpans spans n != isChosen choices 'X'
    let joint := (chosen? choices 'O').getD (if fields then String.singleton delimiter else "")
    let all ← readAll operands 1
    (all.flatMap fun f => textLines f.2).forM fun line =>
      if fields then
        let parts := Text.splitChars (· == delimiter) line.toList
        if parts.length = 1 then
          if isChosen choices 's' then pure () else printLine line
        else
          printLine (joint.intercalate ((chosenItems chooses parts).map String.ofList))
      else printLine (String.ofList (chosenItems chooses line.toList))

/-- The items at a position of each of some lists; lists that are too short give empty
texts. -/
def acrossAll (lists : List (List String)) (n : Nat) : List String :=
  lists.map fun l => l.getD n ""

/-- The delimiters that a text writes. -/
def pasteDelimiters : List Char → List String
  | '\\' :: 'n' :: rest => "\n" :: pasteDelimiters rest
  | '\\' :: 't' :: rest => "\t" :: pasteDelimiters rest
  | '\\' :: '0' :: rest => "" :: pasteDelimiters rest
  | '\\' :: c :: rest => String.singleton c :: pasteDelimiters rest
  | c :: rest => String.singleton c :: pasteDelimiters rest
  | [] => []

/-- Texts joined by delimiters that take turns. -/
def joinInTurn (delimiters : List String) (texts : List String) : String :=
  String.join (texts.zipIdx.map fun (s, i) =>
    if i = 0 then s else delimiters.getD ((i - 1) % max 1 delimiters.length) "" ++ s)

/-- Writes the lines of files side by side. -/
def pasteLines : Tool := do
  let (choices, operands) ← options 1 ⟨"sz", "d", [("serial", 's'), ("delimiters", 'd')]⟩
  let delimiters := pasteDelimiters ((chosen? choices 'd').getD "\t").toList
  let all ← (if operands.isEmpty then ["-"] else operands).mapM fun path => do
    match ← readFile path with
    | .ok bs => return textLines bs
    | .error e => giveUp 1 (shownName path ++ ": " ++ reason e)
  if isChosen choices 's' then all.forM fun lines => printLine (joinInTurn delimiters lines)
  else
    let longest := (all.map List.length).foldl max 0
    (List.range longest).forM fun n => printLine (joinInTurn delimiters (acrossAll all n))

/-- Pieces of a list of some length. -/
def chunks {α : Type} (n : Nat) : Nat → List α → List (List α)
  | 0, _ => []
  | _, [] => []
  | fuel + 1, l => l.take n :: chunks n fuel (l.drop n)

/-- Breaks lines that are too long. -/
def foldLines : Tool := do
  let (choices, operands) ← options 1 ⟨"bs", "w", [("width", 'w')]⟩
  let width := ((chosen? choices 'w').bind fun s => Text.natOfDigits? s.toList).getD 80
  let all ← readAll operands 1
  (byteLines (all.flatMap (·.2))).forM fun line => do
    let body := withoutFeed line
    let parts := chunks (max 1 width) (body.length + 1) body
    print ([10].intercalate parts ++ line.drop body.length)

/-! ### Lines from elsewhere -/

/-- Copies the input to the output and to files. -/
def copyInput : Tool := do
  let (choices, operands) ← options 1 ⟨"aip", "", [("append", 'a')]⟩
  let bs ← match ← takeInput with
    | .ok bs => pure bs
    | .error e => do
      complain ("read error: " ++ reason e)
      fail 1
      pure []
  write bs
  operands.forM fun path => do
    let old ← if isChosen choices 'a' then readFile path else pure (.ok [])
    match ← writeFile path ((old.toOption.getD []) ++ bs) with
    | .ok () => pure ()
    | .error e =>
      complain (shownName path ++ ": " ++ reason e)
      fail 1

/-- A number with places behind its point. -/
structure Placed where
  /-- The number without its point. -/
  digits : Int
  places : Nat

/-- The number that a text writes. -/
def placed? (s : String) : Option Placed :=
  let (negative, cs) := match s.toList with
    | '-' :: rest => (true, rest)
    | '+' :: rest => (false, rest)
    | rest => (false, rest)
  let whole := cs.takeWhile Char.isDigit
  let part? := match cs.drop whole.length with
    | [] => some []
    | '.' :: ds => if ds.all Char.isDigit then some ds else none
    | _ => none
  match part? with
  | none => none
  | some part =>
    (Text.natOfDigits? (whole ++ part)).map fun n =>
      ⟨if negative then -(n : Int) else n, part.length⟩

/-- A number brought to some places. -/
def Placed.scaledTo (p : Placed) (places : Nat) : Int :=
  p.digits * (Nat.pow 10 (places - p.places) : Nat)

/-- The text of a number with some places, at least as wide as asked for. -/
def placedText (places width : Nat) (n : Int) : String :=
  let ds := (toString n.natAbs).toList
  let ds := List.replicate (places + 1 - ds.length) '0' ++ ds
  let whole := ds.take (ds.length - places)
  let part := ds.drop (ds.length - places)
  let body := whole ++ if places = 0 then [] else '.' :: part
  let sign := if n < 0 then ['-'] else []
  String.ofList (sign ++ List.replicate (width - sign.length - body.length) '0' ++ body)

/-- The most numbers that are counted. -/
def countLimit : Nat := 200000

/-- Counts from a number to another. -/
def countUp : Tool := fun c => do
  let isNumber (s : String) : Bool := (placed? s).isSome
  -- A negative number is no option.
  let (choices, operands) ← options 1
    ⟨"w", "sf", [("separator", 's'), ("equal-width", 'w'), ("format", 'f')]⟩
    { c with args := protect isNumber c.args }
  (work choices operands).run c
where
  /-- Arguments with a mark in front of the first number. -/
  protect (isNumber : String → Bool) : List String → List String
    | "-s" :: v :: rest => "-s" :: v :: protect isNumber rest
    | a :: rest => if isNumber a then "--" :: a :: rest else a :: protect isNumber rest
    | [] => []
  /-- The numbers from one on. -/
  numbers (step stop : Int) : Nat → Int → List Int
    | 0, _ => []
    | fuel + 1, n =>
      if (0 < step && stop < n) || (step < 0 && n < stop) then []
      else n :: numbers step stop fuel (n + step)
  /-- The work on some operands. -/
  work (choices : List Choice) (operands : List String) : Work Unit := do
    if operands.isEmpty then misused 1 "missing operand"
    if 3 < operands.length then misused 1 ("extra operand " ++ inQuotes (operands.getD 3 ""))
    let values ← operands.mapM fun s =>
      match placed? s with
      | some v => pure v
      | none => misused 1 ("invalid floating point argument: " ++ inQuotes s)
    let one : Placed := ⟨1, 0⟩
    let (first, step, last) := match values with
      | [a] => (one, one, a)
      | [a, b] => (a, one, b)
      | [a, b, c] => (a, b, c)
      | _ => (one, one, one)
    if step.digits = 0 then
      misused 1 ("invalid Zero increment value: " ++ inQuotes (operands.getD 1 ""))
    let places := max first.places step.places
    let all := max places last.places
    let unit : Int := (Nat.pow 10 (all - places) : Nat)
    let found :=
      (numbers (step.scaledTo all) (last.scaledTo all) countLimit (first.scaledTo all)).map
      (· / unit)
    let width :=
      if isChosen choices 'w' then
        (found.map fun n => (placedText places 0 n).length).foldl max 0
      else 0
    let separator := (chosen? choices 's').getD "\n"
    if !found.isEmpty then
      printText (separator.intercalate (found.map (placedText places width)) ++ "\n")

end HarnessRepair.Shell
