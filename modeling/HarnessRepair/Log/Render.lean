import HarnessRepair.Json.Printer
import HarnessRepair.Log.Setup
import HarnessRepair.Summary.Timestamp
import HarnessRepair.Text.Lines
import HarnessRepair.Text.Quoted

/-!
# Written events

An event is one line: for people, its time, level and message and then its fields; or
a JSON object.

## Main definitions

* `LogEvent.prettyLine`, `LogEvent.toJson` — the two forms.
* `LogFormat.line` — the line of an event.
-/

namespace HarnessRepair

open Json

namespace FieldValue

/-- A value as it is written in a line. -/
def rendered : FieldValue → String
  | .text s => Text.quote s
  | .shown s => s
  | .number n => toString n
  | .flag true => "true"
  | .flag false => "false"

/-- The value as a JSON value. -/
def toJson : FieldValue → Value
  | .text s | .shown s => .ofText s
  | .number n => .ofNat n
  | .flag b => .bool b

end FieldValue

namespace LogEvent

/-- The width of the longest name of a level. -/
def levelWidth : Nat := 5

/-- The message and the fields. -/
def body (e : LogEvent) : String :=
  " ".intercalate (e.message :: e.fields.map fun (name, v) => name ++ "=" ++ v.rendered)

/-- The event for people, its time in front if there is a clock. -/
def prettyLine (time : Option Timestamp) (e : LogEvent) : String :=
  (match time with
    | some t => t.shortText ++ " "
    | none => "") ++ Text.padLeft levelWidth e.level.name ++ " " ++ e.body

/-- The event as a JSON value. -/
def toJson (time : Option Timestamp) (e : LogEvent) : Value :=
  .ofObject ((time.toList.map fun t => ("timestamp", Value.ofText t.shortText)) ++
    [("level", .ofText e.level.name),
      ("fields", .ofObject (("message", .ofText e.message) ::
        e.fields.map fun (name, v) => (name, v.toJson))),
      ("target", .ofText e.source.target)])

end LogEvent

/-- The line of an event. -/
def LogFormat.line (f : LogFormat) (time : Option Timestamp) (e : LogEvent) : String :=
  match f with
  | .json => (e.toJson time).render
  | .pretty => e.prettyLine time

/-- Lines, each with its end. -/
def terminatedLines (ls : List String) : String := String.join (ls.map (· ++ "\n"))

end HarnessRepair
