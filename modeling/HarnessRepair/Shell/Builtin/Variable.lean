import HarnessRepair.Shell.Builtin.Basic

/-!
# Commands for variables and arguments

## Main definitions

* `markVariables`, `localVariables`, `unsetNames` — variables and their marks.
* `setOptions` — options and arguments.
* `shiftArguments`, `readVariables`, `nextOption` — arguments and input.
-/

namespace HarnessRepair.Shell

open Shell.Action

/-! ### Variables -/

/-- Checks that a text is a name. -/
def demandName (name : String) : Action Unit := do
  if !isName name then raise (name ++ ": bad variable name")

/-- A name and a value if there is an equals sign. -/
def splitAssignment (arg : String) : String × Option String :=
  let name := arg.toList.takeWhile (· != '=')
  match arg.toList.drop name.length with
  | _ :: value => (String.ofList name, some (String.ofList value))
  | [] => (arg, none)

/-- A line that sets a variable as it is now. -/
def settingLine (lead : String) (name : String) (v : Variable) : String :=
  let front := if lead.isEmpty then "" else lead ++ " "
  front ++ name ++ match v.value with
    | some value => "=" ++ quotedText value
    | none => ""

/-- Writes the variables that are chosen, sorted by their names. -/
def sayVariables (lead : String) (chooses : Variable → Bool) : Action Unit := do
  let found := (← process).bindings.filter fun (_, v) => chooses v
  let sorted := found.mergeSort fun a b => decide (a.1 ≤ b.1)
  sorted.forM fun (name, v) => sayLine (settingLine lead name v)

/-- Marks variables as exported or as fixed, or shows those that are. -/
def markVariables (name : String) (mark : Variable → Variable) (isMarked : Variable → Bool) :
    Builtin := fun args => do
  let (choices, operands) ← flags "p" "" args
  if operands.isEmpty || !choices.isEmpty then sayVariables name isMarked
  else
    operands.forM fun arg => do
      let (target, value) := splitAssignment arg
      demandName target
      if let some v := value then assign target v
      onProcess fun p =>
        p.putVariable target (mark ((p.entry? target).getD ⟨none, false, false⟩))
  return 0

/-- Marks variables as exported. -/
def exportVariables : Builtin :=
  markVariables "export" (fun v => { v with exported := true }) (·.exported)

/-- Marks variables as fixed. -/
def fixVariables : Builtin :=
  markVariables "readonly" (fun v => { v with readOnly := true }) (·.readOnly)

/-- Hides a variable until the function at hand ends. -/
def hideVariable (name : String) : Action Unit :=
  onProcess fun p =>
    match p.hidden with
    | frame :: more => { p with hidden := ((name, p.entry? name) :: frame) :: more }
    | [] => p

/-- Makes variables belong to the function at hand. -/
def localVariables : Builtin := fun args => do
  if (← process).hidden.isEmpty then raise "not in a function"
  args.forM fun arg => do
    if arg = "-" then
      onProcess fun p =>
        match p.hiddenOptions with
        | frame :: more => { p with hiddenOptions := (frame.or (some p.options)) :: more }
        | [] => p
    else
      let (name, value) := splitAssignment arg
      demandName name
      hideVariable name
      if let some v := value then assign name v
  return 0

/-- The process with the variables that the innermost function has hidden. -/
def leaveFrame (p : Process) : Process :=
  let p := match p.hiddenOptions with
    | frame :: more => { p with hiddenOptions := more, options := frame.getD p.options }
    | [] => p
  match p.hidden with
  | frame :: more =>
    frame.foldl
      (fun p (name, v) =>
        match v with
        | some v => p.putVariable name v
        | none => p.unset name)
      { p with hidden := more }
  | [] => p

/-- Forgets variables, or functions. -/
def unsetNames : Builtin := fun args => do
  let (choices, operands) ← flags "vf" "" args
  let functions := (choices.getLast?.map (·.1)) == some 'f'
  operands.forM fun name => do
    if functions then
      onProcess fun p => { p with functions := p.functions.filter (·.1 != name) }
    else
      demandName name
      if (← process).isReadOnly name then raise (name ++ ": is read only")
      onProcess (·.unset name)
  return 0

/-! ### Options and arguments -/

/-- Writes the options by their names. -/
def sayOptions (asCommands : Bool) : Action Unit := do
  let o := (← process).options
  if !asCommands then sayLine "Current option settings"
  Options.table.forM fun (name, _) => do
    let on := o.isOn name
    if asCommands then sayLine ("set " ++ (if on then "-o " else "+o ") ++ name)
    else
      let padded := name ++ String.ofList (List.replicate (16 - name.length) ' ')
      sayLine (padded ++ if on then "on" else "off")

/-- Turns an option on or off. -/
def turnOption (name : String) (on : Bool) : Action Unit := do
  if name = "monitor" ∧ on then warn "can't access tty; job control turned off"
  else onProcess fun p => { p with options := p.options.turn name on }

/-- Turns options on or off by their letters, with names among the arguments behind; those
that are left. -/
def turnLetters (on : Bool) : List Char → List String → Action (List String)
  | [], args => return args
  | 'o' :: rest, args => do
    match args with
    | [] => sayOptions !on
    | name :: _ =>
      if (Options.table.lookup name).isNone then raise ("Illegal option -o " ++ name)
      turnOption name on
    turnLetters on rest (args.drop 1)
  | c :: rest, args => do
    match Options.table.find? fun o => o.2 == some c with
    | some (name, _) => turnOption name on
    | none => raise ("Illegal option -" ++ String.singleton c)
    turnLetters on rest args

/-- Sets options and arguments. -/
def setFrom : Nat → List String → Action Unit
  | 0, _ => pure ()
  | _, [] => pure ()
  | fuel + 1, arg :: rest => do
    match arg.toList with
    | ['-', '-'] => onProcess fun p => { p with arguments := rest }
    | ['-'] =>
      onProcess fun p =>
        { p with
          options := (p.options.turn "xtrace" false).turn "verbose" false
          arguments := if rest.isEmpty then p.arguments else rest }
    | sign :: letters =>
      if sign = '-' ∨ sign = '+' then
        setFrom fuel (← turnLetters (sign == '-') letters rest)
      else onProcess fun p => { p with arguments := arg :: rest }
    | [] => onProcess fun p => { p with arguments := arg :: rest }

/-- Sets options and arguments, or shows all variables. -/
def setOptions : Builtin := fun args => do
  if args.isEmpty then sayVariables "" (·.value.isSome)
  else setFrom (args.length + 1) args
  return 0

/-- Drops arguments. -/
def shiftArguments : Builtin := fun args => do
  let n ← match args with
    | [] => pure 1
    | s :: _ => number s
  if (← process).arguments.length < n then raise "can't shift that many"
  onProcess fun p =>
    { p with arguments := p.arguments.drop n, optionIndex := 1, optionOffset := none }
  return 0

/-- Whether an argument comes with the option of a letter; none if a list of letters does
not have it. -/
def optionKind? (letter : Char) : List Char → Option Bool
  | [] => none
  | c :: ':' :: rest => if c = letter then some true else optionKind? letter rest
  | c :: rest => if c = letter then some false else optionKind? letter rest

/-- Reads the next option of the arguments into a variable. -/
def nextOption : Builtin := fun args => do
  match args with
  | letters :: name :: rest =>
    let p ← process
    let words := if rest.isEmpty then p.arguments else rest
    let index := if words.length + 1 < p.optionIndex then 1 else p.optionIndex
    let offset := if words.length + 1 < p.optionIndex then none else p.optionOffset
    let quiet := letters.toList.head? == some ':'
    let current := (words.getD (index - 2) "").toList
    let inside := match offset with
      | some n => if 1 < index then current.drop n else []
      | none => []
    -- What is left of the word at hand, and the number of the next one.
    let (left, next) :=
      if !inside.isEmpty then (some inside, index)
      else
        match words[index - 1]?.map String.toList with
        | some ['-', '-'] => (none, index + 1)
        | some ('-' :: c :: cs) => (some (c :: cs), index + 1)
        | _ => (none, index)
    let finish (status : Nat) (letter : Char) (next : Nat) (left : List Char) : Action Nat := do
      assign "OPTIND" (toString next)
      onProcess fun p =>
        { p with
          optionIndex := next
          optionOffset :=
            if left.isEmpty then none else some ((words.getD (next - 2) "").length - left.length) }
      demandName name
      assign name (String.singleton letter)
      return status
    match left with
    | none => finish 1 '?' next []
    | some [] => finish 1 '?' next []
    | some (c :: cs) =>
      match optionKind? c letters.toList with
      | none =>
        if quiet then assign "OPTARG" (String.singleton c)
        else
          announce ("Illegal option -" ++ String.singleton c)
          onProcess (·.unset "OPTARG")
        finish 0 '?' next cs
      | some false =>
        assign "OPTARG" ""
        finish 0 c next cs
      | some true =>
        if !cs.isEmpty then
          assign "OPTARG" (String.ofList cs)
          finish 0 c next []
        else
          match words[next - 1]? with
          | some value =>
            assign "OPTARG" value
            finish 0 c (next + 1) []
          | none =>
            if quiet then
              assign "OPTARG" (String.singleton c)
              finish 0 ':' next []
            else
              announce ("No arg for -" ++ String.singleton c ++ " option")
              onProcess (·.unset "OPTARG")
              finish 0 '?' next []
  | _ => raise "Usage: getopts optstring var [arg]"

/-! ### Input -/

/-- The cells of a line and how many bytes it takes; a backslash protects the next byte,
or joins lines, unless bytes are `raw`.  The answer says whether the line has an end. -/
def lineCells (raw : Bool) : Nat → List UInt8 → List Cell × Nat × Bool
  | _, [] => ([], 0, false)
  | region, b :: rest =>
    let c := Char.ofNat b.toNat
    if b = 10 then ([], 1, true)
    else if b = 0 then
      let (cells, n, ended) := lineCells raw region rest
      (cells, n + 1, ended)
    else if c = '\\' ∧ !raw then
      match rest with
      | d :: more =>
        let (cells, n, ended) := lineCells raw (region + 1) more
        if d = 10 then (cells, n + 2, ended)
        else (.byte (Char.ofNat d.toNat) true none :: cells, n + 2, ended)
      | [] => ([], 1, false)
    else
      let (cells, n, ended) := lineCells raw region rest
      (.byte c false (some region) :: cells, n + 1, ended)

/-- Reads a line into variables. -/
def readVariables : Builtin := fun args => do
  let (choices, names) ← flags "r" "p" args
  if names.isEmpty then raise "arg count"
  let s ← get
  let raw := choices.any (·.1 == 'r')
  let (cells, count, ended) := lineCells raw 0 (s.inputOf 0)
  set (s.advance 0 count)
  let fields := splitCells (some names.length) s.process.separators cells
  (names.zipIdx).forM fun (name, i) => do
    demandName name
    assign name (textOf (fields.getD i []))
  return if ended then 0 else 1

end HarnessRepair.Shell
