import HarnessRepair.Log.Event
import HarnessRepair.Text.Alphanumeric
import HarnessRepair.Text.Blank
import HarnessRepair.Text.Numeral
import HarnessRepair.Text.Search

/-!
# Filters for the log

A filter is a list of directives.  Each says from which level on the events of some
sources count; of the directives about an event, the one that describes it most
closely decides.

## Main definitions

* `LogDirective`, `LogDirective.parse` — one directive.
* `LogFilter`, `LogFilter.ofText` — the directives of a text, or the default.
* `LogFilter.admits` — whether an event counts.

## Main results

* `LogFilter.admits_byLevel` — the filter of a level admits what is at least as
  important.
-/

namespace HarnessRepair

open Text

/-! ### Directives -/

/-- From which level on events count.  Without a level, none do. -/
abbrev LogThreshold := Option LogLevel

/-- Whether an event of a level counts. -/
def LogThreshold.admits (t : LogThreshold) (l : LogLevel) : Bool :=
  match t with
  | some least => least.rank ≤ l.rank
  | none => false

/-- A condition on a field of an event: that it is there, or what it holds. -/
structure FieldCondition where
  name : String
  /-- Whether a value is asked for. -/
  valued : Bool
  deriving DecidableEq, Repr

/-- From which level on the events of some sources count. -/
structure LogDirective where
  /-- How the targets of the sources start; no start stands for all sources. -/
  target : Option String := none
  /-- The period of work that the events must lie in. -/
  period : Option String := none
  fields : List FieldCondition := []
  threshold : LogThreshold := some .trace
  deriving DecidableEq, Repr

/-- Why a directive means nothing. -/
inductive DirectiveError where
  | malformed
  | levelUnknown
  deriving DecidableEq, Repr

/-- The words for a directive that means nothing. -/
def DirectiveError.message : DirectiveError → String
  | .malformed => "invalid filter directive"
  | .levelUnknown =>
    "error parsing level filter: expected one of \"off\", \"error\", \"warn\", \"info\", " ++
      "\"debug\", \"trace\", or a number 0-5"

namespace LogDirective

/-- The thresholds by number, from the one that admits nothing. -/
def thresholds : List LogThreshold := none :: (LogLevel.all.reverse.map some)

/-- The threshold that a number or a name in letters of either case stands for. -/
def threshold? (s : String) : Option LogThreshold :=
  match unsigned? wordLimit s with
  | some n => thresholds[n]?
  | none =>
    let name := s.toList.map Char.toUpper
    if name = "OFF".toList then some none
    else (LogLevel.all.find? fun l => l.name.toList = name).map some

/-! ### Reading a directive

A directive is `target[period{field=value}]=level` with most parts left out.  Its parts
are found in the text without the blanks around it and cut from the text with them, at
the same distance from the start.  So blanks in front push the parts to the left, and
the last part keeps the blanks behind it. -/

/-- Which part of a directive is being read, and how far from the start it begins. -/
inductive Part where
  | nothing
  | word (first : Nat)
  | period (first : Nat)
  | field (first : Nat)
  | fieldsEnd
  | periodEnd
  | level (first : Nat)
  deriving DecidableEq, Repr

/-- A text from a distance on, in bytes. -/
def cutFrom : (first : Nat) → List Char → List Char
  | _, [] => []
  | first, c :: cs => if first = 0 then c :: cs else cutFrom (first - c.utf8Size) cs

/-- So many bytes of a text. -/
def takeBytes : (count : Nat) → List Char → List Char
  | _, [] => []
  | count, c :: cs => if count = 0 then [] else c :: takeBytes (count - c.utf8Size) cs

/-- The part of a text from one distance to another. -/
def cut (first last : Nat) (cs : List Char) : List Char :=
  takeBytes (last - first) (cutFrom first cs)

/-- A condition on a field, with an equality sign if a value is asked for. -/
def condition (cs : List Char) : FieldCondition :=
  ⟨String.ofList (cs.takeWhile (· != '=')), cs.contains '='⟩

/-- Whether a character may start a directive. -/
def startsDirective (c : Char) : Bool :=
  c == '-' || c == ':' || c == '_' || isAlphanumeric c

/-- One character, so far from the start, of a directive that is cut from a text. -/
def step (text : List Char) (offset : Nat) (c : Char) (d : LogDirective) :
    Part → Option (LogDirective × Part)
  | .nothing =>
    if c = '[' then some (d, .period (offset + 1))
    else if startsDirective c then some (d, .word offset)
    else none
  | .word first =>
    let named := { d with target := some (String.ofList (cut first offset text)) }
    if c = '=' then some (named, .level (offset + 1))
    else if c = '[' then some (named, .period (offset + 1))
    else some (d, .word first)
  | .period first =>
    let name := String.ofList (cut first offset text)
    if c = ']' then some ({ d with period := some name }, .periodEnd)
    else if c = '\x7b' then
      some ({ d with period := if name.isEmpty then none else some name }, .field (offset + 1))
    else some (d, .period first)
  | .field first =>
    if c = '\x7d' then
      let written := cut first offset text
      if written.isEmpty then none
      else some ({ d with fields := d.fields ++ [condition written] }, .fieldsEnd)
    else some (d, .field first)
  | .fieldsEnd => if c = ']' then some (d, .periodEnd) else none
  | .periodEnd => if c = '=' then some (d, .level (offset + 1)) else none
  | .level first => some (d, .level first)

/-- Reads the rest of a directive that is cut from a text. -/
def scan (text : List Char) (offset : Nat) (d : LogDirective) (part : Part) :
    List Char → Option (LogDirective × Part)
  | [] => some (d, part)
  | c :: cs =>
    match step text offset c d part with
    | some (d', part') => scan text (offset + c.utf8Size) d' part' cs
    | none => none

/-- The end of a directive: a level that is not stated admits everything, and a word
alone is a level or a target. -/
def finish (text : List Char) (d : LogDirective) : Part → Except DirectiveError LogDirective
  | .word first =>
    let word := String.ofList (cutFrom first text)
    match threshold? word with
    | some t => .ok { d with threshold := t }
    | none => .ok { d with target := some word }
  | .level first =>
    let level := String.ofList (cutFrom first text)
    if level.isEmpty then .ok d
    else
      match threshold? level with
      | some t => .ok { d with threshold := t }
      | none => .error .levelUnknown
  | .periodEnd => .ok d
  | _ => .error .malformed

/-- Reads a directive. -/
def parse (s : String) : Except DirectiveError LogDirective :=
  let text := s.toList
  match scan text 0 {} .nothing (trimChars text) with
  | some (d, part) => finish text d part
  | none => .error .malformed

/-! ### What a directive is about -/

/-- Whether a directive can decide about an event by itself.  No event lies in a named
period, and the values of fields are known in periods only. -/
def decides (d : LogDirective) : Bool :=
  d.period.isNone && d.fields.all fun f => !f.valued

/-- Whether an event has a field. -/
def hasField (e : LogEvent) (name : String) : Bool :=
  name == "message" || e.fields.any fun (n, _) => n == name

/-- Whether a directive is about an event. -/
def covers (d : LogDirective) (e : LogEvent) : Bool :=
  (match d.target with
    | none => true
    | some start => startsWith e.source.target start) &&
  d.fields.all fun f => hasField e f.name

/-- How much of the target a directive names. -/
def reach (d : LogDirective) : Nat :=
  match d.target with
  | none => 0
  | some start => start.length + 1

/-- Whether the first of two directives about an event is the closer: it names more of
the target, or more fields, or fields further on in the alphabet. -/
def isCloser (d other : LogDirective) : Bool :=
  if d.reach = other.reach then
    if d.fields.length = other.fields.length then
      decide (other.fields.map (·.name) < d.fields.map (·.name))
    else decide (other.fields.length < d.fields.length)
  else decide (other.reach < d.reach)

end LogDirective

/-! ### Filters -/

/-- The directives of a log. -/
structure LogFilter where
  directives : List LogDirective
  deriving DecidableEq, Repr

namespace LogFilter

/-- The filter of a level. -/
def byLevel (least : LogLevel) : LogFilter := ⟨[{ threshold := some least }]⟩

/-- The directives in a text, and those that mean nothing with the reason. -/
def readDirectives (s : String) : List (String × Except DirectiveError LogDirective) :=
  ((splitOnChar ',' s).filter fun piece => !piece.isEmpty).map fun piece =>
    (piece, LogDirective.parse piece)

/-- The filter that a text writes; that of a level if no directive in it means
anything. -/
def ofText (least : LogLevel) (s : String) : LogFilter :=
  match (readDirectives s).filterMap fun (_, d) => d.toOption with
  | [] => byLevel least
  | directives => ⟨directives⟩

/-- What is said of the directives that mean nothing. -/
def complaints (s : String) : List String :=
  (readDirectives s).filterMap fun (piece, d) =>
    match d with
    | .ok _ => none
    | .error e => some ("ignoring \x60" ++ piece ++ "\x60: " ++ e.message)

/-- The later of two directives unless the earlier is the closer. -/
def closer (best : Option LogDirective) (d : LogDirective) : Option LogDirective :=
  match best with
  | some b => if b.isCloser d then some b else some d
  | none => some d

/-- The directive that decides about an event. -/
def decisive? (f : LogFilter) (e : LogEvent) : Option LogDirective :=
  (f.directives.filter fun d => d.decides && d.covers e).foldl closer none

/-- Whether an event counts. -/
def admits (f : LogFilter) (e : LogEvent) : Bool :=
  match f.decisive? e with
  | some d => d.threshold.admits e.level
  | none => false

theorem admits_byLevel (least : LogLevel) (e : LogEvent) :
    (byLevel least).admits e = decide (least.rank ≤ e.level.rank) := by
  simp [byLevel, admits, decisive?, LogDirective.decides, LogDirective.covers, closer,
    LogThreshold.admits]

end LogFilter

end HarnessRepair
