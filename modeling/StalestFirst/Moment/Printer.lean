import StalestFirst.Moment.Basic
import StalestFirst.Text.Digits

namespace StalestFirst.Moment

/-! ## Written form -/

/-- A year in four digits. Years outside 0 to 9999 have a sign, and as many digits
as they need beyond four. -/
def writtenYear (year : Int) : List Char :=
  if 0 ≤ year ∧ year ≤ 9999 then Text.fixedWidth 4 year.toNat
  else (if year < 0 then '-' else '+') :: Text.padded 4 year.natAbs

def writtenDate (date : Date) : List Char :=
  writtenYear date.year ++ '-' :: Text.fixedWidth 2 date.month ++
    '-' :: Text.fixedWidth 2 date.day

/-- The nanoseconds of a second after a point, in the fewest of 0, 3, 6 or 9
digits that lose nothing. -/
def writtenFraction (nanos : Nat) : List Char :=
  if nanos = 0 then []
  else if nanos % 1000000 = 0 then '.' :: Text.fixedWidth 3 (nanos / 1000000)
  else if nanos % 1000 = 0 then '.' :: Text.fixedWidth 6 (nanos / 1000)
  else '.' :: Text.fixedWidth 9 nanos

def date (moment : Moment) : Date := .ofDayNumber (moment.seconds / 86400)

/-- The seconds since the start of the day of a moment. -/
def secondOfDay (moment : Moment) : Nat := (moment.seconds % 86400).toNat

/-- The written form of a moment: date, the letter T, time, fraction and the
letter Z. A leap second is written as the number after that of its second, which is 60
at the end of a minute. -/
def written (moment : Moment) : List Char :=
  let second := moment.secondOfDay
  let (inMinute, nanos) :=
    if moment.isLeap then (second % 60 + 1, moment.nanos - 1000000000)
    else (second % 60, moment.nanos)
  writtenDate moment.date ++ 'T' :: Text.fixedWidth 2 (second / 3600) ++
    ':' :: Text.fixedWidth 2 (second / 60 % 60) ++
    ':' :: Text.fixedWidth 2 inMinute ++ writtenFraction nanos ++ ['Z']

def print (moment : Moment) : String := String.ofList moment.written

end StalestFirst.Moment
