import HarnessRepair.Json.Reader
import HarnessRepair.Text.Search

/-!
# What does not depend on the time

Two runs on the same input agree but for what a clock has written into their reports
and logs.  The functions here leave that out.

## Main definitions

* `timeless` — a JSON report without its times.
* `timelessDocument` — a document without its times.
* `loggedEvent` — an event of a log, without its time and its place.
* `logName?` — the name of a log file, without its date.
-/

namespace HarnessRepair

open Json

/-- The members of reports that a clock writes. -/
def clockMembers : List String := ["started_at", "finished_at", "elapsed_secs"]

/-- Whether a member of a report is written by a clock. -/
def isClockMember (name : Literal) : Bool := name.any clockMembers.contains

mutual

/-- A JSON report without its times. -/
def timeless : Value → Value
  | .array items => .array (timelessItems items)
  | .object members => .object (timelessMembers members)
  | v => v

/-- Members of a report without times. -/
def timelessMembers : List (Literal × Value) → List (Literal × Value)
  | [] => []
  | (name, v) :: rest =>
    if isClockMember name then timelessMembers rest
    else (name, timeless v) :: timelessMembers rest

/-- Items of a report without times. -/
def timelessItems : List Value → List Value
  | [] => []
  | v :: rest => timeless v :: timelessItems rest

end

/-- A line of a document without its times. -/
def timelessLine (line : String) : String :=
  if Text.startsWith line "Started " && Text.contains line " and finished " then
    "Started <t> and finished <t>."
  else if Text.startsWith line "Status: **" && Text.endsWith line "s." then
    match Text.splitAtFirst? " attempt(s), ".toList line.toList with
    | some (before, _) => String.ofList before ++ " attempt(s), <e>s."
    | none => line
  else line

/-- A document without its times. -/
def timelessDocument (s : String) : String :=
  "\n".intercalate ((Text.splitOnChar '\n' s).map timelessLine)

/-- An event by its level, message and fields. -/
def eventValue (level message : Value) (fields : List (Literal × Value)) : Value :=
  .ofObject [("level", level), ("message", message), ("fields", .object fields)]

/-- The event that a line of a log tells, without its time and its place; a line that is
no event is a text. -/
def loggedEvent (line : String) : Value :=
  match Json.parse? line with
  | some v =>
    match v.member? "level", v.member? "fields" with
    | some level, some (.object fields) =>
      eventValue level (((Value.object fields).member? "message").getD .null)
        (fields.filter fun (name, _) => name != some "message")
    | _, _ => v
  | none => .ofText line

/-- The name of a log file without its date; none for other files. -/
def logName? (path : String) : Option String :=
  let mark := "proofmend.log".toList
  (Text.splitAtFirst? mark path.toList).map fun (before, _) => String.ofList (before ++ mark)

end HarnessRepair
