import Gatehouse.Decimal.Integer

/-!
# Time stamps

A moment in Coordinated Universal Time, as its date and time of day down to the nanosecond.  The
calendar is the Gregorian one in both directions; a minute may end in a leap second.  A `Stamp`
carries the proof that its date exists, so that writing it never fails.
-/

set_option autoImplicit false

namespace Gatehouse

/-- The year has a 29th of February. -/
def isLeapYear (year : Int) : Bool := year % 4 == 0 && (year % 100 != 0 || year % 400 == 0)

/-- The number of days of a month. -/
def daysInMonth (year : Int) (month : Nat) : Nat :=
  if month = 2 then if isLeapYear year then 29 else 28
  else if month = 4 ∨ month = 6 ∨ month = 9 ∨ month = 11 then 30
  else 31

/-- The first and the last year of the calendar. -/
def firstYear : Int := -262143

@[inherit_doc firstYear] def lastYear : Int := 262142

/-- The parts name a day of the calendar and a time of day. -/
def isMoment (year : Int) (month day hour minute second nano : Nat) : Bool :=
  firstYear ≤ year && year ≤ lastYear && 1 ≤ month && month ≤ 12 && 1 ≤ day
    && day ≤ daysInMonth year month && hour < 24 && minute < 60 && second ≤ 60
    && nano < 1000000000

/-- A moment in Coordinated Universal Time. -/
structure Stamp where
  /-- The year, negative before the year 0. -/
  year : Int
  /-- The month, 1 to 12. -/
  month : Nat
  /-- The day of the month. -/
  day : Nat
  /-- The hour, 0 to 23. -/
  hour : Nat
  /-- The minute, 0 to 59. -/
  minute : Nat
  /-- The second, 60 in a leap second. -/
  second : Nat
  /-- The nanosecond. -/
  nano : Nat
  /-- The parts name an existing moment. -/
  moment : isMoment year month day hour minute second nano = true
deriving DecidableEq, Repr

/-- The moment with these parts, if it exists. -/
def Stamp.of? (year : Int) (month day hour minute second nano : Nat) : Option Stamp :=
  if h : isMoment year month day hour minute second nano then
    some ⟨year, month, day, hour, minute, second, nano, h⟩
  else none

/-- The last moment of the calendar, for programs in which the time does not matter. -/
def Stamp.last : Stamp := ⟨lastYear, 12, 31, 23, 59, 60, 999999999, by decide⟩

/-- The year in at least four digits, with its sign outside 0 to 9999. -/
def yearText (year : Int) : List Char :=
  if 0 ≤ year ∧ year ≤ 9999 then paddedNat 4 year.toNat
  else (if year < 0 then '-' else '+') :: paddedNat 4 year.natAbs

/-- The fraction of a second in three, six or nine digits, the fewest that are exact; nothing if it
is zero. -/
def fractionText (nano : Nat) : List Char :=
  if nano = 0 then []
  else if nano % 1000000 = 0 then '.' :: paddedNat 3 (nano / 1000000)
  else if nano % 1000 = 0 then '.' :: paddedNat 6 (nano / 1000)
  else '.' :: paddedNat 9 nano

/-- The moment as date and time with a `Z`. -/
def Stamp.chars (t : Stamp) : List Char :=
  yearText t.year ++ '-' :: paddedNat 2 t.month ++ '-' :: paddedNat 2 t.day
    ++ 'T' :: paddedNat 2 t.hour ++ ':' :: paddedNat 2 t.minute ++ ':' :: paddedNat 2 t.second
    ++ fractionText t.nano ++ ['Z']

/-- The moment as date and time with a `Z`. -/
def Stamp.text (t : Stamp) : String := String.ofList t.chars

end Gatehouse
