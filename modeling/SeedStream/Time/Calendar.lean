/-!
# The proleptic Gregorian calendar

Days are counted from 1 January of year 1. A day is split into its year and its
place in the year by whole cycles of 400, 100, 4 and 1 years.
-/

set_option autoImplicit false

namespace SeedStream.Calendar

def isLeap (year : Int) : Bool :=
  year % 4 == 0 && (year % 100 != 0 || year % 400 == 0)

def yearLength (year : Int) : Int :=
  if isLeap year then 366 else 365

def daysBefore (year : Int) : Int :=
  365 * (year - 1) + (year - 1) / 4 - (year - 1) / 100 + (year - 1) / 400

def dayNumber (year day : Int) : Int :=
  daysBefore year + day - 1

def epochDay : Int := 719162

/-- The year of a day and its place in the year, from 1. -/
def yearAndDay (number : Int) : Int × Int :=
  let inCycle := number % 146097
  let centuries := min (inCycle / 36524) 3
  let inCentury := inCycle - centuries * 36524
  let inFour := inCentury % 1461
  let years := min (inFour / 365) 3
  (400 * (number / 146097) + 100 * centuries + 4 * (inCentury / 1461) + years + 1,
    inFour - years * 365 + 1)

def monthLengths (leap : Bool) : List Int :=
  [31, if leap then 29 else 28, 31, 30, 31, 30, 31, 31, 30, 31, 30, 31]

def monthAndDayFrom (month day : Int) : List Int → Int × Int
  | [] => (month, day)
  | length :: lengths =>
    if day ≤ length then (month, day) else monthAndDayFrom (month + 1) (day - length) lengths

def monthAndDay (year day : Int) : Int × Int :=
  monthAndDayFrom 1 day (monthLengths (isLeap year))

end SeedStream.Calendar
