/-!
Dates and times held by configuration documents.

A configuration file may hold a calendar date, a time of day, or a date with a time of day and
an optional offset from UTC in minutes. Dates lie in the years 1 to 9999 of the proleptic
Gregorian calendar; times count hours, minutes, seconds and microseconds.

A moment has two texts. Its plain text is what a report or an identifier shows:
`1979-05-27`, `07:32:00`, and `1979-05-27 07:32:00.500000+00:00` with six fraction digits only
when there is a fraction and the offset only when there is one. Its literal is how configuration
problems quote it: `datetime.date(1979, 5, 27)`, `datetime.time(7, 32)`, where trailing zero
seconds and microseconds are left out.

Owns: `Moment`, `Moment.validDate`, `Moment.validTime`, `Moment.text`, `Moment.isoText`,
`Moment.literal`, `Moment.offsetFault?`, `Moment.kindName`.
-/

namespace ProjectIndex.Data

/-- A calendar date, a time of day, or a date with a time of day and perhaps an offset from UTC
in minutes. -/
inductive Moment where
  | date (year month day : Nat)
  | time (hour minute second micro : Nat)
  | dateTime (year month day hour minute second micro : Nat) (offset : Option Int)
deriving DecidableEq, Repr, Inhabited

namespace Moment

/-- Leap years of the Gregorian calendar: divisible by 4, and by 400 when divisible by 100. -/
def leapYear (year : Nat) : Bool :=
  year % 4 == 0 && (year % 100 != 0 || year % 400 == 0)

/-- The number of days of a month. -/
def daysInMonth (year month : Nat) : Nat :=
  match month with
  | 2 => if leapYear year then 29 else 28
  | 4 | 6 | 9 | 11 => 30
  | _ => 31

/-- A date names a real day of the years 1 to 9999. -/
def validDate (year month day : Nat) : Bool :=
  1 ≤ year && year ≤ 9999 && 1 ≤ month && month ≤ 12 && 1 ≤ day && day ≤ daysInMonth year month

/-- A time of day has hours below 24, minutes and seconds below 60 and fewer than a million
microseconds. -/
def validTime (hour minute second micro : Nat) : Bool :=
  hour < 24 && minute < 60 && second < 60 && micro < 1000000

/-- The decimal digits of `n`, with zeros in front up to `width`. -/
def padded (width n : Nat) : String :=
  let digits := toString n
  String.ofList (List.replicate (width - digits.length) '0') ++ digits

/-- A date as `YYYY-MM-DD`. -/
def dateText (year month day : Nat) : String :=
  padded 4 year ++ "-" ++ padded 2 month ++ "-" ++ padded 2 day

/-- A time as `HH:MM:SS`, with `.ffffff` when there are microseconds. -/
def timeText (hour minute second micro : Nat) : String :=
  padded 2 hour ++ ":" ++ padded 2 minute ++ ":" ++ padded 2 second ++
    (if micro == 0 then "" else "." ++ padded 6 micro)

/-- An offset as `+HH:MM` or `-HH:MM`; no offset at all is positive. -/
def offsetText (minutes : Int) : String :=
  let size := minutes.natAbs
  (if minutes < 0 then "-" else "+") ++ padded 2 (size / 60) ++ ":" ++ padded 2 (size % 60)

/-- The plain text of a moment. -/
def text : Moment → String
  | .date y m d => dateText y m d
  | .time h mi s us => timeText h mi s us
  | .dateTime y m d h mi s us offset =>
    dateText y m d ++ " " ++ timeText h mi s us ++ ((offset.map offsetText).getD "")

/-- The text of a moment in the interchange form, which joins date and time with `T`. -/
def isoText : Moment → String
  | .dateTime y m d h mi s us offset =>
    dateText y m d ++ "T" ++ timeText h mi s us ++ ((offset.map offsetText).getD "")
  | m => m.text

/-- The seconds and microseconds of a literal: both when there are microseconds, the seconds
alone when they are not zero, and neither otherwise. -/
def secondsLiteral (second micro : Nat) : String :=
  if micro != 0 then s!", {second}, {micro}"
  else if second != 0 then s!", {second}"
  else ""

/-- The literal of a moment, as configuration problems quote it. -/
def literal : Moment → String
  | .date y m d => s!"datetime.date({y}, {m}, {d})"
  | .time h mi s us => s!"datetime.time({h}, {mi}" ++ secondsLiteral s us ++ ")"
  | .dateTime y m d h mi s us offset =>
    s!"datetime.datetime({y}, {m}, {d}, {h}, {mi}" ++ secondsLiteral s us ++
      (if offset.isSome then ", tzinfo=<toml.tz.TomlTz object>" else "") ++ ")"

/-- An offset as a duration literal: whole days (rounded down) and the seconds left, each shown
only when it is not zero. -/
def durationLiteral (minutes : Int) : String :=
  let seconds := minutes * 60
  let days := seconds / 86400
  let rest := seconds % 86400
  let parts := (if days != 0 then [s!"days={days}"] else []) ++
    (if rest != 0 then [s!"seconds={rest}"] else [])
  "datetime.timedelta(" ++ (if parts.isEmpty then "0" else ", ".intercalate parts) ++ ")"

/-- Why a moment has no plain text: an offset of a whole day or more, either way, is not a
clock offset. -/
def offsetFault? : Moment → Option String
  | .dateTime _ _ _ _ _ _ _ (some offset) =>
    if offset.natAbs ≥ 24 * 60 then
      some ("offset must be a timedelta strictly between -timedelta(hours=24) and " ++
        "timedelta(hours=24), not " ++ durationLiteral offset ++ ".")
    else none
  | _ => none

/-- The name of the moment's kind. -/
def kindName : Moment → String
  | .date .. => "date"
  | .time .. => "time"
  | .dateTime .. => "datetime"

end Moment

end ProjectIndex.Data
