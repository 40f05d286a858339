namespace StalestFirst

/-! ## Dates of the Gregorian calendar

Days are counted from 1970-01-01. A year is taken to begin in March, so that the
day that leap years add is the last one of a year. -/

/-- A year, a month and a day, real or not. -/
structure Date where
  year : Int
  month : Nat
  day : Nat
  deriving DecidableEq

namespace Date

/-- How many days lie between 1970-01-01 and the first of March of the year 0. -/
private def epoch : Int := 719468

/-- The number of days in a cycle of 400 years. -/
private def cycle : Int := 146097

/-- The number of a day, counted from 1970-01-01. -/
def dayNumber (date : Date) : Int :=
  let year := if date.month ≤ 2 then date.year - 1 else date.year
  let yearOfCycle := year % 400
  let month : Int := (date.month + 9) % 12
  let dayOfYear := (153 * month + 2) / 5 + date.day - 1
  year / 400 * cycle +
    (yearOfCycle * 365 + yearOfCycle / 4 - yearOfCycle / 100 + dayOfYear) - epoch

def ofDayNumber (number : Int) : Date :=
  let days := number + epoch
  let day := days % cycle
  let yearOfCycle := (day - day / 1460 + day / 36524 - day / 146096) / 365
  let dayOfYear := day - (365 * yearOfCycle + yearOfCycle / 4 - yearOfCycle / 100)
  let march := (5 * dayOfYear + 2) / 153
  let month := if march < 10 then march + 3 else march - 9
  { year := days / cycle * 400 + yearOfCycle + if month ≤ 2 then 1 else 0
    month := month.toNat
    day := (dayOfYear - (153 * march + 2) / 5 + 1).toNat }

/-- Whether the calendar has the date: it is then the date of its own day. -/
def isReal (date : Date) : Bool := ofDayNumber date.dayNumber == date

end Date

end StalestFirst
