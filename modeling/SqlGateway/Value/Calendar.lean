import SqlGateway.Text.Digits

/-
  This file defines dates, times of day and lengths of time,
  with their written forms and their literals.

  Key definitions include:
    * `Date`
    * `TimeOfDay`
    * `DateTime`
    * `Duration`
-/

namespace SqlGateway

open Text

------------------------------------------------------------
-- Types
------------------------------------------------------------

/- A day of the calendar. -/
structure Date where
  year : Nat
  month : Nat
  day : Nat
deriving Repr, DecidableEq

/-
  A length of time: days of either sign, then the seconds of
  a day and the microseconds of a second.
-/
structure Duration where
  days : Int
  seconds : Nat
  microseconds : Nat
deriving Repr, DecidableEq

/- A time of day, with the distance to UTC where known. -/
structure TimeOfDay where
  hour : Nat
  minute : Nat
  second : Nat
  microsecond : Nat
  offset : Option Duration
deriving Repr, DecidableEq

/- A time of day on a day. -/
structure DateTime where
  date : Date
  time : TimeOfDay
deriving Repr, DecidableEq

------------------------------------------------------------
-- Written Forms
------------------------------------------------------------

/- The fraction of a second, where there is one. -/
def writeMicroseconds (n : Nat) : List Char :=
  if n == 0 then [] else '.' :: padded 6 n

/- Hours, minutes and seconds, two digits each. -/
def writeClock (hour minute second : Nat) : List Char :=
  padded 2 hour ++ ':' :: padded 2 minute ++
    ':' :: padded 2 second

/- Arguments between parentheses, after a name. -/
def callForm
    (name : String)
    (arguments : List (List Char)) : List Char :=
  name.toList ++ '(' ::
    (List.intercalate [',', ' '] arguments ++ [')'])

namespace Date

/- A date as year, month and day. -/
def write (d : Date) : List Char :=
  padded 4 d.year ++ '-' :: padded 2 d.month ++
    '-' :: padded 2 d.day

/- The numbers of a date. -/
def parts (d : Date) : List (List Char) :=
  [decimal d.year, decimal d.month, decimal d.day]

/- The literal of a date. -/
def literal (d : Date) : List Char :=
  callForm "datetime.date" d.parts

end Date

namespace Duration

/- A duration other than zero. -/
def isNonzero (d : Duration) : Bool :=
  d.days != 0 || d.seconds != 0 || d.microseconds != 0

/- The count of days in front of a clock time. -/
def writeDays (n : Int) : List Char :=
  if n == 0 then
    []
  else
    let plural := if n.natAbs == 1 then [] else ['s']
    signed n ++ " day".toList ++ plural ++ [',', ' ']

/- Days, then hours, minutes and seconds. -/
def write (d : Duration) : List Char :=
  writeDays d.days ++ decimal (d.seconds / 3600) ++
    ':' :: padded 2 (d.seconds / 60 % 60) ++
    ':' :: padded 2 (d.seconds % 60) ++
    writeMicroseconds d.microseconds

/- A named number, unless it is zero. -/
def namedPart
    (name : String)
    (n : Int) : List (List Char) :=
  if n == 0 then [] else [name.toList ++ '=' :: signed n]

/- The literal of a duration. -/
def literal (d : Duration) : List Char :=
  let parts :=
    namedPart "days" d.days ++
      namedPart "seconds" d.seconds ++
      namedPart "microseconds" d.microseconds
  callForm "datetime.timedelta"
    (if parts.isEmpty then [['0']] else parts)

/- The seconds of a whole duration. -/
def totalSeconds (d : Duration) : Int :=
  d.days * 86400 + d.seconds

end Duration

/- A distance to UTC: a sign, hours and minutes. -/
def writeOffset (d : Duration) : List Char :=
  let total := d.totalSeconds * 1000000 + d.microseconds
  let n := total.natAbs
  let seconds := n / 1000000
  let micro := n % 1000000
  let sign := if total < 0 then '-' else '+'
  let fine :=
    if seconds % 60 == 0 && micro == 0 then
      []
    else
      ':' :: padded 2 (seconds % 60) ++
        writeMicroseconds micro
  sign :: (padded 2 (seconds / 3600) ++
    ':' :: padded 2 (seconds / 60 % 60) ++ fine)

/- The literal of a distance to UTC. -/
def offsetLiteral (d : Duration) : List Char :=
  if d.isNonzero then
    callForm "datetime.timezone" [d.literal]
  else
    "datetime.timezone.utc".toList

/- The named argument of a distance to UTC, if known. -/
def offsetPart :
    Option Duration → List (List Char)
  | some d => ["tzinfo=".toList ++ offsetLiteral d]
  | none => []

namespace TimeOfDay

/- A time of day on the clock. -/
def write (t : TimeOfDay) : List Char :=
  writeClock t.hour t.minute t.second ++
    writeMicroseconds t.microsecond ++
    (match t.offset with
      | some d => writeOffset d
      | none => [])

/- The numbers of a time, less the zeros at the end. -/
def parts (t : TimeOfDay) : List (List Char) :=
  let fine :=
    if t.microsecond != 0 then
      [decimal t.second, decimal t.microsecond]
    else if t.second != 0 then
      [decimal t.second]
    else
      []
  [decimal t.hour, decimal t.minute] ++ fine

/- The literal of a time of day. -/
def literal (t : TimeOfDay) : List Char :=
  callForm "datetime.time" (t.parts ++ offsetPart t.offset)

end TimeOfDay

namespace DateTime

/- A date, a space, and a time. -/
def write (t : DateTime) : List Char :=
  t.date.write ++ ' ' :: t.time.write

/- The literal of a date with a time. -/
def literal (t : DateTime) : List Char :=
  callForm "datetime.datetime"
    (t.date.parts ++ t.time.parts ++
      offsetPart t.time.offset)

end DateTime

end SqlGateway
