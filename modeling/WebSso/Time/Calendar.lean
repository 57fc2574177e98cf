/-!
# The civil calendar

Days are counted from 1970-01-01, backwards without end, and named by the proleptic Gregorian
calendar, in which a year 0 precedes the year 1.

## What is here

* `Calendar.dayNumber`, the day a date names, and `Calendar.date`, the date of a day;
* `Calendar.monthLength`, and with it `Calendar.ofDate?`, which refuses a date that does not exist;
* `Calendar.ofOrdinal?`, the day named by its place in the year;
* `Calendar.ofWeek?`, the day named by its week: weeks start on Monday, and week 1 of a year is
  the one that holds 4 January.

Years are counted from March here, so that the leap day is the last of its year and the lengths
of the months before it form one linear pattern (153 days in every five months).
-/

set_option autoImplicit false
namespace WebSso
namespace Calendar

/-- A year, a month from 1 and a day of the month from 1. -/
structure Date where
  /-- The year, 0 and below being those before the year 1. -/
  year : Int
  /-- The month, 1 to 12. -/
  month : Nat
  /-- The day of the month, from 1. -/
  day : Nat
  deriving DecidableEq

/-! ## Lengths -/

/-- Every fourth year has a leap day, but of the years that end a century only every fourth. -/
def isLeap (year : Int) : Bool :=
  year % 4 = 0 && (year % 100 ≠ 0 || year % 400 = 0)

/-- The number of days of a year. -/
def yearLength (year : Int) : Nat := if isLeap year then 366 else 365

/-- The number of days of a month; there is no month but 1 to 12. -/
def monthLength (year : Int) : Nat → Nat
  | 1 | 3 | 5 | 7 | 8 | 10 | 12 => 31
  | 4 | 6 | 9 | 11 => 30
  | 2 => if isLeap year then 29 else 28
  | _ => 0

/-! ## Days and dates -/

/-- The days of a 400-year cycle. -/
def cycleDays : Int := 146097

/-- The days from 1 March of the year 0 to 1970-01-01. -/
def epochShift : Int := 719468

/-- The number of the day named by a year, a month from 1 to 12 and a day of the month. -/
def dayNumber (year : Int) (month day : Nat) : Int :=
  let marchYear : Int := if month ≤ 2 then year - 1 else year
  let marchMonth : Int := if month ≤ 2 then (month : Int) + 9 else (month : Int) - 3
  let cycle := marchYear / 400
  let yearOfCycle := marchYear % 400
  let dayOfYear := (153 * marchMonth + 2) / 5 + (day : Int) - 1
  cycle * cycleDays + (yearOfCycle * 365 + yearOfCycle / 4 - yearOfCycle / 100 + dayOfYear)
    - epochShift

/-- The date of a day. -/
def date (dayCount : Int) : Date :=
  let shifted := dayCount + epochShift
  let cycle := shifted / cycleDays
  let dayOfCycle := shifted % cycleDays
  let yearOfCycle :=
    (dayOfCycle - dayOfCycle / 1460 + dayOfCycle / 36524 - dayOfCycle / 146096) / 365
  let dayOfYear :=
    dayOfCycle - (365 * yearOfCycle + yearOfCycle / 4 - yearOfCycle / 100)
  let marchMonth := (5 * dayOfYear + 2) / 153
  let day := dayOfYear - (153 * marchMonth + 2) / 5 + 1
  let month := if marchMonth < 10 then marchMonth + 3 else marchMonth - 9
  let marchYear := yearOfCycle + cycle * 400
  { year := if month ≤ 2 then marchYear + 1 else marchYear
    month := month.toNat
    day := day.toNat }

/-- The day of a date, if the calendar has it. -/
def ofDate? (year : Int) (month day : Nat) : Option Int :=
  if 1 ≤ month && month ≤ 12 && 1 ≤ day && day ≤ monthLength year month then
    some (dayNumber year month day)
  else none

/-- The day at a place of its year, counted from 1. -/
def ofOrdinal? (year : Int) (ordinal : Nat) : Option Int :=
  if 1 ≤ ordinal && ordinal ≤ yearLength year then
    some (dayNumber year 1 1 + (ordinal : Int) - 1)
  else none

/-! ## Weeks -/

/-- The day of the week, from 0 for Monday; 1970-01-01 was a Thursday. -/
def weekday (dayCount : Int) : Int := (dayCount + 3) % 7

/-- The Monday of week 1, the week that holds 4 January. -/
def firstMonday (year : Int) : Int :=
  let fourth := dayNumber year 1 4
  fourth - weekday fourth

/-- The number of weeks of a year, 52 or 53. -/
def weekCount (year : Int) : Int := (firstMonday (year + 1) - firstMonday year) / 7

/-- The day at a week of a year and a day of that week, 1 for Monday to 7 for Sunday. -/
def ofWeek? (year : Int) (week day : Nat) : Option Int :=
  if 1 ≤ week && (week : Int) ≤ weekCount year && 1 ≤ day && day ≤ 7 then
    some (firstMonday year + 7 * ((week : Int) - 1) + (day : Int) - 1)
  else none

end Calendar
end WebSso
