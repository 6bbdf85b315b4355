import HarnessRepair.Number.Binary64
import HarnessRepair.Text.Search
import HarnessRepair.Text.Numeral

/-!
# Timestamps

Moments in coordinated universal time, to the nanosecond.

## Main definitions

* `Timestamp` — date, time of day and nanoseconds.
* `Timestamp.ofSeconds` — the moment some seconds after the start of 1970.
* `Timestamp.parse?`, `Timestamp.text` — the written form.
-/

namespace HarnessRepair

open Text

/-- A moment in coordinated universal time. -/
structure Timestamp where
  year : Nat
  month : Nat
  day : Nat
  hour : Nat
  minute : Nat
  second : Nat
  nanos : Nat := 0
  deriving DecidableEq, Repr, Inhabited

namespace Timestamp

/-- The start of the year 1970. -/
def epoch : Timestamp := ⟨1970, 1, 1, 0, 0, 0, 0⟩

/-- Whether a year has a 29th of February. -/
def isLeap (year : Nat) : Bool := year % 4 == 0 && (year % 100 != 0 || year % 400 == 0)

/-- The number of days of a month. -/
def daysIn (year month : Nat) : Nat :=
  if month = 2 then (if isLeap year then 29 else 28)
  else if month = 4 ∨ month = 6 ∨ month = 9 ∨ month = 11 then 30
  else 31

/-- Whether date and time exist.  A minute may have a leap second. -/
def isValid (t : Timestamp) : Bool :=
  1 ≤ t.month && t.month ≤ 12 && 1 ≤ t.day && t.day ≤ daysIn t.year t.month &&
    t.hour < 24 && t.minute < 60 && t.second ≤ 60

/-- The same time of the day before; there is none before the year 0. -/
def dayBefore? (t : Timestamp) : Option Timestamp :=
  if 1 < t.day then some { t with day := t.day - 1 }
  else if 1 < t.month then
    some { t with month := t.month - 1, day := daysIn t.year (t.month - 1) }
  else if 0 < t.year then some { t with year := t.year - 1, month := 12, day := 31 }
  else none

/-- The same time of the day after; there is none behind the year 9999. -/
def dayAfter? (t : Timestamp) : Option Timestamp :=
  if t.day < daysIn t.year t.month then some { t with day := t.day + 1 }
  else if t.month < 12 then some { t with month := t.month + 1, day := 1 }
  else if t.year < 9999 then some { t with year := t.year + 1, month := 1, day := 1 }
  else none

/-- The minutes of a day. -/
def minutesOfDay : Nat := 1440

/-- The moment some minutes later, or earlier, by less than a day. -/
def shift? (t : Timestamp) (minutes : Int) : Option Timestamp :=
  let moved := (t.hour * 60 + t.minute : Int) + minutes
  let rest := (moved % minutesOfDay).toNat
  let t := { t with hour := rest / 60, minute := rest % 60 }
  if moved < 0 then t.dayBefore?
  else if minutesOfDay ≤ moved then t.dayAfter?
  else some t

/-- The days from the 1st of March of the year 0 to the start of 1970. -/
def daysToEpoch : Nat := 719468

/-- The date some days after the start of 1970.  Years are counted from March, so that
the day that may be missing is the last. -/
def ofDays (days : Nat) : Timestamp :=
  let day := (days + daysToEpoch) % 146097
  let yearInEra := (day - day / 1460 + day / 36524 - day / 146096) / 365
  let dayInYear := day - (365 * yearInEra + yearInEra / 4 - yearInEra / 100)
  let monthFromMarch := (5 * dayInYear + 2) / 153
  let year := (days + daysToEpoch) / 146097 * 400 + yearInEra
  { year := if monthFromMarch < 10 then year else year + 1
    month := if monthFromMarch < 10 then monthFromMarch + 3 else monthFromMarch - 9
    day := dayInYear - (153 * monthFromMarch + 2) / 5 + 1
    hour := 0
    minute := 0
    second := 0 }

/-- The moment some seconds after the start of 1970. -/
def ofSeconds (seconds nanos : Nat) : Timestamp :=
  { ofDays (seconds / 86400) with
    hour := seconds % 86400 / 3600
    minute := seconds % 3600 / 60
    second := seconds % 60
    nanos := nanos }

example : ofSeconds 0 0 = epoch := by decide
example : ofSeconds 951827696 0 = ⟨2000, 2, 29, 12, 34, 56, 0⟩ := by decide
example : ofSeconds 4107542399 0 = ⟨2100, 2, 28, 23, 59, 59, 0⟩ := by decide

/-- The nanoseconds that the digits behind the decimal point stand for. -/
def nanosOfDigits? (ds : List Char) : Option Nat :=
  if ds.isEmpty then none
  else natOfDigits? ((ds ++ List.replicate 9 '0').take 9)

/-- The nanoseconds in front of the zone, and the zone. -/
def fraction? : List Char → Option (Nat × List Char)
  | '.' :: rest =>
    let ds := rest.takeWhile Char.isDigit
    (nanosOfDigits? ds).map fun n => (n, rest.drop ds.length)
  | rest => some (0, rest)

/-- By how many minutes a zone is ahead of coordinated universal time. -/
def zone? : List Char → Option Int
  | ['Z'] | ['z'] => some 0
  | [sign, h1, h2, ':', m1, m2] => do
    let hours ← natOfDigits? [h1, h2]
    let minutes ← natOfDigits? [m1, m2]
    if 24 ≤ hours || 60 ≤ minutes then none
    let ahead : Int := hours * 60 + minutes
    if sign == '+' then some ahead else if sign == '-' then some (-ahead) else none
  | _ => none

/-- Whether a character may stand between the date and the time. -/
def partsDate (c : Char) : Bool := c == 'T' || c == 't' || c == ' '

/-- The moment that a text writes, such as `2024-01-02T03:04:05.5Z`. -/
def parse? (s : String) : Option Timestamp := do
  match s.toList with
  | y1 :: y2 :: y3 :: y4 :: '-' :: m1 :: m2 :: '-' :: d1 :: d2 :: separator ::
      h1 :: h2 :: ':' :: n1 :: n2 :: ':' :: s1 :: s2 :: rest =>
    let (nanos, zone) ← fraction? rest
    let t : Timestamp :=
      { year := ← natOfDigits? [y1, y2, y3, y4]
        month := ← natOfDigits? [m1, m2]
        day := ← natOfDigits? [d1, d2]
        hour := ← natOfDigits? [h1, h2]
        minute := ← natOfDigits? [n1, n2]
        second := ← natOfDigits? [s1, s2]
        nanos := nanos }
    let ahead ← zone? zone
    if partsDate separator && t.isValid then t.shift? (-ahead) else none
  | _ => none

/-- The decimal digits of `n`, at least `count` of them. -/
def padded (count n : Nat) : String :=
  let ds := Nat.toDigits 10 n
  String.ofList (List.replicate (count - ds.length) '0' ++ ds)

/-- The fraction of a second: none, or 3, 6 or 9 digits behind a point. -/
def fractionText (nanos : Nat) : String :=
  if nanos = 0 then ""
  else if nanos % 1000000 = 0 then "." ++ padded 3 (nanos / 1000000)
  else if nanos % 1000 = 0 then "." ++ padded 6 (nanos / 1000)
  else "." ++ padded 9 nanos

/-- The date and the time of day, without a zone. -/
def dateTimeText (t : Timestamp) : String :=
  padded 4 t.year ++ "-" ++ padded 2 t.month ++ "-" ++ padded 2 t.day ++ "T" ++
    padded 2 t.hour ++ ":" ++ padded 2 t.minute ++ ":" ++ padded 2 t.second ++
    fractionText t.nanos

/-- The moment with the offset of its zone. -/
def text (t : Timestamp) : String := t.dateTimeText ++ "+00:00"

/-- The moment with the short mark of its zone. -/
def shortText (t : Timestamp) : String := t.dateTimeText ++ "Z"

end Timestamp

end HarnessRepair
