namespace WorkflowQueue

/-!
# Timestamps

Instants of coordinated universal time, given by their calendar day, the second
of the day and nanoseconds. A leap second is the second after the last one of a
minute: it is stored as that last second with a thousand million nanoseconds
more, so it differs from both of its neighbours.
-/

/-- Whether a year has a twenty-ninth of February. -/
def isLeapYear
    (year : Int) :
    Bool :=
  year % 4 = 0 && (year % 100 ≠ 0 || year % 400 = 0)

/-- The number of days of a month. -/
def daysInMonth
    (year : Int)
    (month : Nat) :
    Nat :=
  match month with
  | 2 => if isLeapYear year then 29 else 28
  | 4 => 30
  | 6 => 30
  | 9 => 30
  | 11 => 30
  | _ => 31

/-- The first year that a timestamp may lie in. -/
def firstYear : Int := -262143

/-- The last year that a timestamp may lie in. -/
def lastYear : Int := 262142

/-- A day of the Gregorian calendar, which is extended to all years. -/
structure Date where
  year : Int
  month : Nat
  day : Nat
  yearInRange : firstYear ≤ year ∧ year ≤ lastYear
  monthInRange : 1 ≤ month ∧ month ≤ 12
  dayInRange : 1 ≤ day ∧ day ≤ daysInMonth year month
  deriving DecidableEq

namespace Date

/-- The day with these numbers, where there is one. -/
def ofNumbers?
    (year : Int)
    (month day : Nat) :
    Option Date :=
  if yearInRange : firstYear ≤ year ∧ year ≤ lastYear then
    if monthInRange : 1 ≤ month ∧ month ≤ 12 then
      if dayInRange : 1 ≤ day ∧ day ≤ daysInMonth year month then
        some {
          year := year
          month := month
          day := day
          yearInRange := yearInRange
          monthInRange := monthInRange
          dayInRange := dayInRange
        }
      else none
    else none
  else none

/-- The following day, unless the calendar ends. -/
def next?
    (date : Date) :
    Option Date :=
  if date.day < daysInMonth date.year date.month then
    ofNumbers? date.year date.month (date.day + 1)
  else if date.month < 12 then ofNumbers? date.year (date.month + 1) 1
  else ofNumbers? (date.year + 1) 1 1

/-- The day before, unless the calendar begins. -/
def previous?
    (date : Date) :
    Option Date :=
  if 1 < date.day then ofNumbers? date.year date.month (date.day - 1)
  else if 1 < date.month then
    ofNumbers? date.year (date.month - 1)
      (daysInMonth date.year (date.month - 1))
  else ofNumbers? (date.year - 1) 12 31

end Date

/-- An instant of coordinated universal time. -/
structure Timestamp where
  date : Date
  second : Nat
  nanosecond : Nat
  secondInRange : second < 86400
  nanosecondInRange :
    nanosecond < 1000000000 ∨ nanosecond < 2000000000 ∧ second % 60 = 59
  deriving DecidableEq

namespace Timestamp

/-- The instant on a day, where the second and nanosecond are possible. -/
def ofParts?
    (date : Date)
    (second nanosecond : Nat) :
    Option Timestamp :=
  if secondInRange : second < 86400 then
    if nanosecondInRange :
        nanosecond < 1000000000 ∨ nanosecond < 2000000000 ∧
          second % 60 = 59 then
      some {
        date := date
        second := second
        nanosecond := nanosecond
        secondInRange := secondInRange
        nanosecondInRange := nanosecondInRange
      }
    else none
  else none

/-- Two digits of a number below a hundred. -/
def twoDigits
    (value : Nat) :
    List Char :=
  [Nat.digitChar (value / 10 % 10), Nat.digitChar (value % 10)]

/-- The last `count` digits of a number. -/
def fixedDigits :
    Nat →
    Nat →
    List Char
  | 0, _ => []
  | count + 1, value =>
      fixedDigits count (value / 10) ++ [Nat.digitChar (value % 10)]

/--
Four digits, or a sign and at least four digits where four do not suffice.
-/
def yearText
    (year : Int) :
    List Char :=
  if 0 ≤ year ∧ year ≤ 9999 then fixedDigits 4 year.natAbs
  else
    let sign := if year < 0 then '-' else '+'
    let digits := Nat.toDigits 10 year.natAbs
    sign :: (List.replicate (4 - digits.length) '0' ++ digits)

/-- The shortest of no, three, six and nine fraction digits that is exact. -/
def fractionText
    (nanosecond : Nat) :
    List Char :=
  if nanosecond = 0 then []
  else if nanosecond % 1000000 = 0 then
    '.' :: fixedDigits 3 (nanosecond / 1000000)
  else if nanosecond % 1000 = 0 then '.' :: fixedDigits 6 (nanosecond / 1000)
  else '.' :: fixedDigits 9 nanosecond

/--
Day and time separated by `T`, ending in `Z`. A leap second is written as second
60.
-/
def text
    (timestamp : Timestamp) :
    String :=
  let extra := if 1000000000 ≤ timestamp.nanosecond then 1 else 0
  String.ofList
    (yearText timestamp.date.year ++
      '-' :: twoDigits timestamp.date.month ++
      '-' :: twoDigits timestamp.date.day ++
      'T' :: twoDigits (timestamp.second / 3600) ++
      ':' :: twoDigits (timestamp.second / 60 % 60) ++
      ':' :: twoDigits (timestamp.second % 60 + extra) ++
      fractionText (timestamp.nanosecond - extra * 1000000000) ++ ['Z'])

end Timestamp

end WorkflowQueue
