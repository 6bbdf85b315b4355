import HarnessRepair.CommandLine.Option

/-!
# Reading the arguments of a level

The arguments of a level are read one by one, up to the name of a command.  An option
is accepted only when the next one arrives or the level ends, so that a complaint
about the next one may come first.

## Main definitions

* `Scan` — what has been read of a level.
* `Scan.settle` — accepting the option that was read last.
* `Level.step`, `Level.scan` — reading one argument, and all.

## Main results

* `Scan.settle_pending` — after settling, nothing is pending.
-/

namespace HarnessRepair.CommandLine

/-- What has been read of a level. -/
structure Scan where
  /-- The accepted options and their values. -/
  given : List (String × List String) := []
  /-- The option that was read last, with its value if that was read too. -/
  pending : Option (OptionRule × Option String) := none
  /-- Whether the argument for the level has been read. -/
  placed : Bool := false
  /-- Whether two dashes have ended the options. -/
  trailing : Bool := false
  deriving DecidableEq, Repr

namespace Scan

/-- The values of an option. -/
def values? (s : Scan) (name : String) : Option (List String) := s.given.lookup name

/-- Whether an option is accepted. -/
def has (s : Scan) (name : String) : Bool := (s.values? name).isSome

/-- The one value of an option. -/
def value? (s : Scan) (name : String) : Option String := (s.values? name).bind List.head?

/-- Notes the values of an option. -/
def note (s : Scan) (name : String) (values : List String) : Scan :=
  { s with given := (name, values) :: s.given }

@[simp] theorem values?_note (s : Scan) (name other : String) (values : List String) :
    (s.note name values).values? other = if other = name then some values else s.values? other := by
  by_cases h : other = name
  · simp [note, values?, h]
  · have hb : (other == name) = false := by simpa using h
    simp [note, values?, List.lookup_cons, hb, h]

/-- Accepts an option that is followed by a value. -/
def accept (s : Scan) (o : OptionRule) (v : String) : Except ArgumentError Scan :=
  match o.kind with
  | .list => .ok (s.note o.name ((s.values? o.name).getD [] ++ Text.splitOnChar ',' v))
  | .single kind =>
    if s.has o.name then .error .optionRepeated
    else if kind.admits v then .ok (s.note o.name [v])
    else .error .valueInvalid
  | .help | .version | .flag => .error .valueNeedless

/-- Accepts the option that was read last. -/
def settle (s : Scan) : Except ArgumentError Scan :=
  match s.pending with
  | none => .ok s
  | some (_, none) => .error .valueInvalid
  | some (o, some v) => { s with pending := none }.accept o v

/-- Accepting leaves alone what is pending. -/
theorem accept_pending {s t : Scan} {o : OptionRule} {v : String} (h : s.accept o v = .ok t) :
    t.pending = s.pending := by
  unfold accept at h
  split at h
  · injection h with h; subst h; rfl
  · split at h
    · cases h
    · split at h
      · injection h with h; subst h; rfl
      · cases h
  all_goals cases h

theorem settle_pending {s t : Scan} (h : s.settle = .ok t) : t.pending = none := by
  unfold settle at h
  split at h
  · next hp => injection h with h; subst h; exact hp
  · cases h
  · exact accept_pending h

/-- Accepts an option that stands alone. -/
def raise (s : Scan) (o : OptionRule) : Except ArgumentError Scan :=
  s.settle.bind fun s =>
    match o.kind with
    | .help => .error .helpAsked
    | .version => .error .versionAsked
    | .flag => if s.has o.name then .error .optionRepeated else .ok (s.note o.name [])
    | .single _ | .list => .error .valueInvalid

/-- Takes an option with the value that is attached to it. -/
def attach (s : Scan) (o : OptionRule) (v : String) : Except ArgumentError Scan :=
  s.settle.bind fun s => s.accept o v

/-- Takes an option whose value comes next. -/
def await (s : Scan) (o : OptionRule) : Except ArgumentError Scan :=
  s.settle.map fun s => { s with pending := some (o, none) }

/-- The option that waits for its value. -/
def awaited? (s : Scan) : Option OptionRule :=
  match s.pending with
  | some (o, none) => if s.trailing then none else some o
  | _ => none

end Scan

/-- A text before and behind its first equality sign. -/
def splitAtEquals (cs : List Char) : String × Option String :=
  match Text.splitAtFirst? ['='] cs with
  | some (before, behind) => (String.ofList before, some (String.ofList behind))
  | none => (String.ofList cs, none)

/-- The value behind a letter in the same argument, if there is one. -/
def attachedValue? : List Char → Option String
  | [] => none
  | '=' :: rest => some (String.ofList rest)
  | rest => some (String.ofList rest)

namespace Level

/-- Reads an option behind two dashes. -/
def readNamed (l : Level) (s : Scan) (cs : List Char) : Except ArgumentError Scan :=
  let (name, value) := splitAtEquals cs
  match l.named? name with
  | none => .error .argumentUnknown
  | some o =>
    match o.kind.takesValue, value with
    | true, some v => s.attach o v
    | true, none => s.await o
    | false, some _ => .error .valueNeedless
    | false, none => s.raise o

/-- Reads the letters behind one dash.  The first that takes a value takes the rest. -/
def readLetters (l : Level) (s : Scan) : List Char → Except ArgumentError Scan
  | [] => .ok s
  | c :: rest =>
    match l.lettered? c with
    | none => .error .argumentUnknown
    | some o =>
      if o.kind.takesValue then
        match attachedValue? rest with
        | some v => s.attach o v
        | none => s.await o
      else
        match s.raise o with
        | .error e => .error e
        | .ok s => l.readLetters s rest

/-- Complains about an argument that the level has no place for. -/
def refuse (l : Level) (s : Scan) (arg : String) : ArgumentError :=
  if s.trailing && l.commands.contains arg then .argumentUnknown
  else if l.commands.isEmpty then .argumentUnknown
  else .commandUnknown

/-- Reads an argument that is neither an option nor the value of one. -/
def place (l : Level) (s : Scan) (arg : String) : Except ArgumentError Scan :=
  match l.positional with
  | some o =>
    if s.placed then .error (l.refuse s arg)
    else s.settle.map fun s => { s with pending := some (o, some arg), placed := true }
  | none => .error (l.refuse s arg)

/-- Reads an argument that is no option. -/
def readPlain (l : Level) (s : Scan) (arg : String) : Except ArgumentError Scan :=
  match s.awaited? with
  | some o => .ok { s with pending := some (o, some arg) }
  | none => l.place s arg

/-- Reads one argument. -/
def step (l : Level) (s : Scan) (arg : String) : Except ArgumentError Scan :=
  if s.trailing then l.place s arg
  else
    match arg.toList with
    | ['-', '-'] => .ok { s with trailing := true }
    | '-' :: '-' :: cs => l.readNamed s cs
    | '-' :: c :: cs => l.readLetters s (c :: cs)
    | _ => l.readPlain s arg

/-- Whether an argument is the name of a command. -/
def isCommand (l : Level) (s : Scan) (arg : String) : Bool :=
  !s.trailing && s.awaited?.isNone && l.commands.contains arg

/-- Reads arguments up to the name of a command, which is left in front of the rest. -/
def scan (l : Level) (s : Scan) : List String → Except ArgumentError (Scan × List String)
  | [] => .ok (s, [])
  | arg :: rest =>
    if l.isCommand s arg then .ok (s, arg :: rest)
    else
      match l.step s arg with
      | .error e => .error e
      | .ok s => l.scan s rest

/-- What is left behind the arguments of a level is nothing, or starts with the name of
a command. -/
theorem scan_rest {l : Level} {args : List String} {s t : Scan} {arg : String}
    {rest : List String} (h : l.scan s args = .ok (t, arg :: rest)) : arg ∈ l.commands := by
  induction args generalizing s with
  | nil => simp [scan] at h
  | cons a as ih =>
    unfold scan at h
    split at h
    · next hc =>
      simp only [Except.ok.injEq, Prod.mk.injEq, List.cons.injEq] at h
      simp only [isCommand, Bool.and_eq_true, List.contains_iff_mem] at hc
      exact h.2.1 ▸ hc.2
    · split at h
      · cases h
      · exact ih h

end Level

end HarnessRepair.CommandLine
