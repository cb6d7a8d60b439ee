import ProjectIndex.Toml.Text
import ProjectIndex.Data.Moment

/-!
Reading dates and times from TOML values, as the reader does it.

**Times.** A value that starts with `HH:MM:SS` is a time of day; a point and three to six digits
after it give the microseconds as a number (so `.500` is 500 microseconds), and fewer digits are
ignored, as is anything after them.

**Dates.** The reader looks at fixed places of the text. A text of ten characters is a date with
the year in characters 1 to 4, the month in 6 and 7 and the day in 9 and 10; a longer one is a date
and time with the hour, minute and second in characters 12–13, 15–16 and 18–19. Each field is
read as a whole number, blanks and a sign allowed, and the separators between them are not
looked at, though the text must hold a `-` after its first character. After the seconds may come
`.` and a fraction with an offset (`Z`, or the part from the first `+` or `-`), or an offset alone.
An offset is a sign with the hours in its characters 2 and 3 and the minutes in 5 and 6; `Z` is
`+00:00`. A fraction or offset that cannot be read leaves the moment without both.

Owns: `wholeNumber?`, `timePrefix?`, `loadDate?`.
-/

namespace ProjectIndex.Toml

open ProjectIndex.Data

/-- An ASCII decimal digit. -/
def isDecimal (c : Char) : Bool := '0' ≤ c && c ≤ '9'

/-- The value of a run of decimal digits. -/
def decimalValue (ds : List Char) : Nat :=
  ds.foldl (fun n c => n * 10 + (c.toNat - '0'.toNat)) 0

/-- A whole number written with blanks around it, an optional sign, and decimal digits of any
script that single underscores may separate. -/
def wholeNumber? (s : String) : Option Int :=
  let cs := numeralCore s
  let (negative, ds) := match cs with
    | '-' :: r => (true, r)
    | '+' :: r => (false, r)
    | r => (false, r)
  let grouped := (ds.head?.any isDecimal) && (ds.getLast?.any isDecimal) &&
    ds.all (fun c => isDecimal c || c == '_') && !(ds.zip ds.tail).any (fun p => p.1 == '_' && p.2 == '_')
  if grouped then
    let n := decimalValue (ds.filter isDecimal)
    some (if negative then -(n : Int) else n)
  else none

/-- A whole number that is not negative. -/
def naturalNumber? (s : String) : Option Nat :=
  (wholeNumber? s).bind fun n => if n < 0 then none else some n.toNat

/-- The hours, minutes, seconds and microseconds of a text that starts with a time of day. -/
def timePrefix? (v : String) : Option (Nat × Nat × Nat × Nat) :=
  match v.toList with
  | h1 :: h2 :: ':' :: m1 :: m2 :: ':' :: s1 :: s2 :: rest =>
    if [h1, h2, m1, m2, s1, s2].all isDecimal then
      let micro := match rest with
        | '.' :: more =>
          let ds := (more.takeWhile isDecimal).take 6
          if ds.length ≥ 3 then decimalValue ds else 0
        | _ => 0
      some (decimalValue [h1, h2], decimalValue [m1, m2], decimalValue [s1, s2], micro)
    else none
  | _ => none

/-- The characters from position `a` up to position `b`. -/
def slice (cs : List Char) (a b : Nat) : String := String.ofList ((cs.take b).drop a)

/-- An offset from UTC in minutes: `Z`, or a sign, two digits of hours, a separator and two
digits of minutes. -/
def zoneOffset? (raw : String) : Option Int := do
  let cs := (if raw == "Z" then "+00:00" else raw).toList
  let hours ← wholeNumber? (slice cs 1 3)
  let minutes ← wholeNumber? (slice cs 4 6)
  let size := hours * 60 + minutes
  some (if cs.head? == some '-' then -size else size)

/-- The microseconds a fraction stands for: its digits scaled to six places; past six places the
scaling is done in doubles and the result cut to a whole number. -/
def fractionMicros? (sub : String) : Option Nat := do
  let n ← wholeNumber? sub
  let places := sub.length
  if places ≤ 6 then
    if n < 0 then none else some (n.toNat * Nat.pow 10 (6 - places))
  else
    let scaled := Float.ofInt n * Float.pow 10.0 (0.0 - Float.ofNat (places - 6))
    if scaled < 0.0 then none else some scaled.toUInt64.toNat

/-- The fraction and offset after the seconds of a date and time text, read from its 20th
character on: microseconds and an offset, or nothing of both when either cannot be read. -/
def fractionAndOffset (cs : List Char) : Nat × Option Int :=
  let n := cs.length
  if n ≤ 19 then (0, none)
  else if cs[19]? != some '.' then (0, zoneOffset? (slice cs 19 n))
  else
    let (sub, zone) : String × Option String :=
      if cs.getLast? == some 'Z' || cs.getLast? == some 'z' then (slice cs 20 (n - 1), some "Z")
      else
        let rest := cs.drop 20
        match rest.findIdx? (· == '+') with
        | some i => (String.ofList (rest.take i), some (String.ofList (rest.drop i)))
        | none =>
          match rest.findIdx? (· == '-') with
          | some i => (String.ofList (rest.take i), some (String.ofList (rest.drop i)))
          | none => (String.ofList rest, none)
    match zone with
    | some z =>
      match zoneOffset? z, fractionMicros? sub with
      | some o, some us => (us, some o)
      | _, _ => (0, none)
    | none =>
      match fractionMicros? sub with
      | some us => (us, none)
      | none => (0, none)

/-- The date, or date and time, that a value text spells, when its fields make a real one. -/
def loadDate? (val : String) : Option Moment := do
  let cs := val.toList
  let (micro, offset) := fractionAndOffset cs
  if !(cs.drop 1).contains '-' then none
  let year ← naturalNumber? (slice cs 0 4)
  let month ← naturalNumber? (slice cs 5 7)
  let day ← naturalNumber? (slice cs 8 10)
  if cs.length == 10 then
    if Moment.validDate year month day then some (.date year month day) else none
  else
    let hour ← naturalNumber? (slice cs 11 13)
    let minute ← naturalNumber? (slice cs 14 16)
    let second ← naturalNumber? (slice cs 17 19)
    if Moment.validDate year month day && Moment.validTime hour minute second micro then
      some (.dateTime year month day hour minute second micro offset)
    else none

end ProjectIndex.Toml
