/-!
# Moments

A moment in seconds and nanoseconds since the epoch, and its text with date and time of day.  A
leap second is written as the second after the last one of a minute, and has nanoseconds beyond one
second.
-/

namespace PbrTelemetry

structure Date where
  year : Nat
  month : Nat
  day : Nat
  deriving DecidableEq, Repr

/-- The day with the given number, where day 0 is 1 January 1970.  Years are counted from March
here, so that a leap day is the last of its year, and in groups of 400, which all have the same
number of days. -/
def Date.ofDays (days : Nat) : Date :=
  let sinceMarch := days + 719468
  let group := sinceMarch / 146097
  let dayOfGroup := sinceMarch % 146097
  let yearOfGroup :=
    (dayOfGroup - dayOfGroup / 1460 + dayOfGroup / 36524 - dayOfGroup / 146096) / 365
  let dayOfYear := dayOfGroup - (365 * yearOfGroup + yearOfGroup / 4 - yearOfGroup / 100)
  let monthOfYear := (5 * dayOfYear + 2) / 153
  let month := if monthOfYear < 10 then monthOfYear + 3 else monthOfYear - 9
  { year := 400 * group + yearOfGroup + (if month ≤ 2 then 1 else 0)
    month
    day := dayOfYear - (153 * monthOfYear + 2) / 5 + 1 }

def padded (width n : Nat) : List Char :=
  let digits := Nat.toDigits 10 n
  List.replicate (width - digits.length) '0' ++ digits

/-- The text of a year.  Years beyond 9999 have a sign. -/
def Date.renderYear (year : Nat) : List Char :=
  if year ≤ 9999 then padded 4 year else '+' :: padded 4 year

def Date.render (date : Date) : List Char :=
  renderYear date.year ++ ['-'] ++ padded 2 date.month ++ ['-'] ++ padded 2 date.day

structure Timestamp where
  seconds : Nat
  nanos : Nat
  deriving DecidableEq, Repr

namespace Timestamp

/-- The text of a fraction of a second, in thousandths, millionths or billionths. -/
def renderFraction (nanos : Nat) : List Char :=
  if nanos = 0 then []
  else if nanos % 1000000 = 0 then '.' :: padded 3 (nanos / 1000000)
  else if nanos % 1000 = 0 then '.' :: padded 6 (nanos / 1000)
  else '.' :: padded 9 nanos

def lastYear : Nat := 262142

/-- The text of a moment.  It has none if the nanoseconds make more than one second, other than a
leap second at the end of a minute, or if the year is too far away. -/
def render? (t : Timestamp) : Option String :=
  let isLeap := 1000000000 ≤ t.nanos
  let date := Date.ofDays (t.seconds / 86400)
  let second := t.seconds % 60
  if 2000000000 ≤ t.nanos ∨ (isLeap ∧ second ≠ 59) ∨ lastYear < date.year then none
  else
    some (String.ofList (date.render ++ ['T'] ++ padded 2 (t.seconds % 86400 / 3600) ++ [':']
      ++ padded 2 (t.seconds % 3600 / 60) ++ [':']
      ++ padded 2 (if isLeap then second + 1 else second)
      ++ renderFraction (if isLeap then t.nanos - 1000000000 else t.nanos)
      ++ ['+', '0', '0', ':', '0', '0']))

end Timestamp

end PbrTelemetry
