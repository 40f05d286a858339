import StalestFirst.Moment.Basic
import StalestFirst.Text.Blank
import StalestFirst.Text.Digits

namespace StalestFirst.Moment

/-! ## Reading times

A time is a date, one of the letter T and a space, a time of day and an offset.
Blanks are allowed before every number and every separator of numbers, and at the
end. Each reader gives what it read and the rest of the text. -/

/-- Reads a number of one digit up to `most` digits. -/
def readNumber (most : Nat) (text : List Char) : Option (Nat × List Char) :=
  let digits := (text.take most).takeWhile Text.isDigit
  if digits.isEmpty then none
  else some (Text.valueOfDigits digits, text.drop digits.length)

/-- Reads a number of at most two digits after blanks. -/
def readField (text : List Char) : Option (Nat × List Char) :=
  readNumber 2 (Text.trimmedStart text)

/-- Reads a year: at most four digits, or any number of them after a sign. -/
def readYear (text : List Char) : Option (Int × List Char) :=
  match Text.trimmedStart text with
  | '-' :: rest =>
      (readNumber rest.length rest).map fun (year, rest) => (-(year : Int), rest)
  | '+' :: rest =>
      (readNumber rest.length rest).map fun (year, rest) => ((year : Int), rest)
  | text => (readNumber 4 text).map fun (year, rest) => ((year : Int), rest)

/-- Reads blanks and then the given mark. -/
def readMark (mark : Char) (text : List Char) : Option (List Char) :=
  match Text.trimmedStart text with
  | c :: rest => if c = mark then some rest else none
  | [] => none

/-- Reads a fraction of a second in nanoseconds, if there is a point. Digits
beyond the ninth do not count. -/
def readFraction (text : List Char) : Option (Nat × List Char) :=
  match text with
  | '.' :: rest =>
      let digits := rest.takeWhile Text.isDigit
      if digits.isEmpty then none
      else
        let counted := digits.take 9
        some (Text.valueOfDigits counted * Nat.pow 10 (9 - counted.length),
          rest.drop digits.length)
  | text => some (0, text)

/-- Reads the hours and minutes of an offset. -/
def readClock (text : List Char) : Option (Nat × List Char) :=
  match text with
  | h :: h' :: rest =>
      match rest.dropWhile fun c => c == ':' || Text.isBlank c with
      | m :: m' :: rest =>
          if [h, h', m, m'].all Text.isDigit ∧ m ≤ '5' then
            some (Text.valueOfDigits [h, h'] * 3600 +
              Text.valueOfDigits [m, m'] * 60, rest)
          else none
      | _ => none
  | _ => none

/-- Reads an offset in seconds: the letters UTC, the letter Z, or a sign with
hours and minutes. -/
def readOffset (text : List Char) : Option (Int × List Char) :=
  if Text.sameLetters (text.take 3) "UTC".toList then some (0, text.drop 3)
  else
    match text with
    | 'Z' :: rest => some (0, rest)
    | 'z' :: rest => some (0, rest)
    | '+' :: rest =>
        (readClock rest).map fun (offset, rest) => ((offset : Int), rest)
    | '-' :: rest =>
        (readClock rest).map fun (offset, rest) => (-(offset : Int), rest)
    | '−' :: rest =>
        (readClock rest).map fun (offset, rest) => (-(offset : Int), rest)
    | _ => none

def readDate (text : List Char) : Option (Date × List Char) := do
  let (year, text) ← readYear text
  let text ← readMark '-' text
  let (month, text) ← readField text
  let text ← readMark '-' text
  let (day, text) ← readField text
  pure (⟨year, month, day⟩, text)

/-- A time of day, in which a leap second is second 60. -/
structure TimeOfDay where
  hour : Nat
  minute : Nat
  second : Nat
  nanos : Nat

def readTimeOfDay (text : List Char) : Option (TimeOfDay × List Char) := do
  let (hour, text) ← readField text
  let text ← readMark ':' text
  let (minute, text) ← readField text
  let text ← readMark ':' text
  let (second, text) ← readField text
  let (nanos, text) ← readFraction text
  pure (⟨hour, minute, second, nanos⟩, text)

/-- The moment of a date and a time of day at a place with the given offset. -/
def ofLocal? (date : Date) (time : TimeOfDay) (offset : Int) : Option Moment :=
  if date.isReal ∧ time.hour ≤ 23 ∧ time.minute ≤ 59 ∧ time.second ≤ 60 ∧
      offset.natAbs < 86400 then
    let (second, nanos) :=
      if time.second = 60 then (59, time.nanos + 1000000000)
      else (time.second, time.nanos)
    let here := date.dayNumber * 86400 +
      ((time.hour * 3600 + time.minute * 60 + second : Nat) : Int)
    (ofUnix? here nanos).bind fun moment =>
      ofUnix? (moment.seconds - offset) nanos
  else none

def read? (text : List Char) : Option Moment := do
  let (date, text) ← readDate text
  match text with
  | separator :: text =>
      if separator = 'T' ∨ separator = 't' ∨ separator = ' ' then
        let (time, text) ← readTimeOfDay text
        let (offset, text) ← readOffset (Text.trimmedStart text)
        if text.all Text.isBlank then ofLocal? date time offset else none
      else none
  | [] => none

end StalestFirst.Moment
