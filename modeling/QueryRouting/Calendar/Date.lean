/-!
# Calendar dates

Dates of the proleptic Gregorian calendar: the rule of leap years holds for every
year, and a year zero stands between the years before and after it.  Days are
numbered from 1 January 1970.

The number of a date counts the days of the whole years before it, of the whole
months before it in its year, and of its month.  The way back takes cycles of
four hundred, one hundred, four years and one year off the count; a cycle of one
hundred or of one year is taken at most three times, because the last day of the
longer cycle belongs to the last shorter one.

## Main definitions

* `Date`, `Date.ofCivil?` — a date, and the check that year, month and day name one.
* `Date.dayNumber` — days since 1 January 1970.
* `Date.ofDayNumber?` — the date of a day number, within the range of years.
-/

namespace QueryRouting

namespace Date

/-- The first year of the calendar. -/
def firstYear : Int := -262143

/-- The last year of the calendar. -/
def lastYear : Int := 262142

/-- Every fourth year is a leap year, save the hundredth, but not the four hundredth. -/
def isLeapYear (year : Int) : Bool := year % 4 = 0 && (year % 100 ≠ 0 || year % 400 = 0)

/-- The lengths of the twelve months. -/
def monthLengths (leap : Bool) : List Nat :=
  [31, if leap then 29 else 28, 31, 30, 31, 30, 31, 31, 30, 31, 30, 31]

/-- The number of days of a month; zero for a number that names no month. -/
def monthLength (year : Int) : Nat → Nat
  | 0 => 0
  | month + 1 => (monthLengths (isLeapYear year)).getD month 0

end Date

/-- A day of the proleptic Gregorian calendar. -/
structure Date where
  year : Int
  month : Nat
  day : Nat
  year_mem : Date.firstYear ≤ year ∧ year ≤ Date.lastYear
  month_mem : 1 ≤ month ∧ month ≤ 12
  day_mem : 1 ≤ day ∧ day ≤ Date.monthLength year month
  deriving DecidableEq, Repr

namespace Date

/-- The date of a year, a month and a day, when there is one. -/
def ofCivil? (year : Int) (month day : Nat) : Option Date :=
  if hy : firstYear ≤ year ∧ year ≤ lastYear then
    if hm : 1 ≤ month ∧ month ≤ 12 then
      if hd : 1 ≤ day ∧ day ≤ monthLength year month then some ⟨year, month, day, hy, hm, hd⟩
      else none
    else none
  else none

/-- The number of days from 1 January of year one to 1 January of `year`. -/
def daysBeforeYear (year : Int) : Int :=
  365 * (year - 1) + (year - 1) / 4 - (year - 1) / 100 + (year - 1) / 400

/-- The number of days of the year before its month `month`. -/
def daysBeforeMonth (year : Int) : Nat → Nat
  | 0 => 0
  | month + 1 => daysBeforeMonth year month + monthLength year month

/-- The number of days from 1 January of year one to 1 January 1970. -/
def epochOffset : Int := 719162

/-- The number of days since 1 January 1970. -/
def dayNumber (d : Date) : Int :=
  daysBeforeYear d.year + daysBeforeMonth d.year d.month + (d.day - 1 : Nat) - epochOffset

/-- The year that holds the day `n` days after 1 January of year one, and the
number of days of that year before it. -/
def yearOfDays (n : Int) : Int × Nat :=
  let fourHundreds := n / 146097
  let inFourHundred := n % 146097
  -- Four hundred years have a day more than four times one hundred.
  let hundreds := min 3 (inFourHundred / 36524)
  let inHundred := inFourHundred - 36524 * hundreds
  let fours := inHundred / 1461
  let inFour := inHundred % 1461
  -- Four years have a day more than four times one.
  let ones := min 3 (inFour / 365)
  (400 * fourHundreds + 100 * hundreds + 4 * fours + ones + 1, (inFour - 365 * ones).toNat)

/-- The month and the day `n` days after the first of month `month`, given the
lengths of that month and the later ones. -/
def monthOfDays (month : Nat) : List Nat → Nat → Nat × Nat
  | [], n => (month, n + 1)
  | length :: later, n =>
    if n < length then (month, n + 1) else monthOfDays (month + 1) later (n - length)

/-- The date a number of days after 1 January 1970, or before it when negative. -/
def ofDayNumber? (n : Int) : Option Date :=
  let (year, days) := yearOfDays (n + epochOffset)
  let (month, day) := monthOfDays 1 (monthLengths (isLeapYear year)) days
  ofCivil? year month day

/-- The parts of a date name it. -/
@[simp] theorem ofCivil?_parts (d : Date) : ofCivil? d.year d.month d.day = some d := by
  simp [ofCivil?, d.year_mem, d.month_mem, d.day_mem]

example : (ofCivil? 1970 1 1).map dayNumber = some 0 := by decide
example : ofDayNumber? (-719528) = ofCivil? 0 1 1 := by decide
example : ofDayNumber? 11016 = ofCivil? 2000 2 29 := by decide

end Date

end QueryRouting
