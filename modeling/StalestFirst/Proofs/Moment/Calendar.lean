import Mathlib
import StalestFirst.Moment.Calendar

namespace StalestFirst.Date

/-! ## Days and dates

Every day is the day of its own date. -/

/-- The year that a day of a cycle lies in, counted from the start of the cycle. -/
def yearOfCycle (day : Int) : Int :=
  (day - day / 1460 + day / 36524 - day / 146096) / 365

/-- The number of a day since the start of its year. -/
def dayOfYear (day : Int) : Int :=
  day - (365 * yearOfCycle day + yearOfCycle day / 4 - yearOfCycle day / 100)

/-- A cycle has four centuries, and the last of them has a day more. -/
theorem century {day : Int} (first : 0 ≤ day) (last : day < 146097) :
    (yearOfCycle day / 100 = day / 36524 ∧ day / 36524 ≤ 3) ∨ day = 146096 := by
  unfold yearOfCycle
  by_cases final : day = 146096
  · exact Or.inr final
  · have inCentury : day / 36524 = 0 ∨ day / 36524 = 1 ∨ day / 36524 = 2 ∨ day / 36524 = 3 := by
      omega
    rcases inCentury with at0 | at1 | at2 | at3
    · omega
    · omega
    · omega
    · omega

theorem yearOfCycle_bounds {day : Int} (first : 0 ≤ day) (last : day < 146097) :
    0 ≤ yearOfCycle day ∧ yearOfCycle day ≤ 399 := by
  unfold yearOfCycle
  omega

theorem dayOfYear_bounds {day : Int} (first : 0 ≤ day) (last : day < 146097) :
    0 ≤ dayOfYear day ∧ dayOfYear day ≤ 365 := by
  have inCycle := yearOfCycle_bounds first last
  rcases century first last with ⟨sameCentury, few⟩ | rfl
  · have isYear : yearOfCycle day = (day - day / 1460 + day / 36524 - day / 146096) / 365 :=
      rfl
    have notLast : day / 146096 = 0 := by omega
    rw [notLast] at isYear
    unfold dayOfYear
    rw [sameCentury]
    generalize yearOfCycle day = year at *
    -- A leap day comes in every fourth year, at the end of it.
    have notEarly : year / 4 ≤ day / 1460 := by omega
    have notLate : day / 1460 ≤ year / 4 + 1 := by omega
    omega
  · decide

/-- The month that a day of a year lies in, counted from March. -/
def marchMonth (day : Int) : Int := (5 * day + 2) / 153

/-- The number in the calendar of a month that is counted from March. -/
def calendarMonth (month : Int) : Int := if month < 10 then month + 3 else month - 9

theorem marchMonth_bounds {day : Int} (first : 0 ≤ day) (last : day ≤ 365) :
    0 ≤ marchMonth day ∧ marchMonth day ≤ 11 := by
  unfold marchMonth
  omega

theorem calendarMonth_bounds {month : Int} (first : 0 ≤ month) (last : month ≤ 11) :
    1 ≤ calendarMonth month ∧ calendarMonth month ≤ 12 := by
  unfold calendarMonth
  split
  · omega
  · omega

theorem marchMonth_of_calendarMonth {month : Int} (first : 0 ≤ month) (last : month ≤ 11) :
    (calendarMonth month + 9) % 12 = month := by
  unfold calendarMonth
  split
  · omega
  · omega

theorem dayNumber_eq (date : Date) :
    date.dayNumber =
      let year := if date.month ≤ 2 then date.year - 1 else date.year
      let day := (153 * (((date.month : Int) + 9) % 12) + 2) / 5 + date.day - 1
      year / 400 * 146097 +
        (year % 400 * 365 + year % 400 / 4 - year % 400 / 100 + day) - 719468 :=
  rfl

/-! ### The date of a day -/

section

variable (number : Int)

/-- The number of a day since the start of its cycle. -/
def dayOfCycle : Int := (number + 719468) % 146097

/-- The month of a day, counted from March. -/
def march : Int := marchMonth (dayOfYear (dayOfCycle number))

theorem ofDayNumber_eq :
    ofDayNumber number =
      { year := (number + 719468) / 146097 * 400 + yearOfCycle (dayOfCycle number) +
          if calendarMonth (march number) ≤ 2 then 1 else 0
        month := (calendarMonth (march number)).toNat
        day := (dayOfYear (dayOfCycle number) - (153 * march number + 2) / 5 + 1).toNat } :=
  rfl

theorem dayOfCycle_bounds : 0 ≤ dayOfCycle number ∧ dayOfCycle number < 146097 := by
  unfold dayOfCycle
  omega

theorem dayOfYear_dayOfCycle_bounds :
    0 ≤ dayOfYear (dayOfCycle number) ∧ dayOfYear (dayOfCycle number) ≤ 365 :=
  dayOfYear_bounds (dayOfCycle_bounds number).1 (dayOfCycle_bounds number).2

theorem march_bounds : 0 ≤ march number ∧ march number ≤ 11 :=
  marchMonth_bounds (dayOfYear_dayOfCycle_bounds number).1
    (dayOfYear_dayOfCycle_bounds number).2

theorem month_ofDayNumber :
    ((ofDayNumber number).month : Int) = calendarMonth (march number) := by
  have inMonths := march_bounds number
  have inCalendar := calendarMonth_bounds inMonths.1 inMonths.2
  rw [ofDayNumber_eq]
  dsimp only
  omega

theorem day_ofDayNumber :
    ((ofDayNumber number).day : Int) =
      dayOfYear (dayOfCycle number) - (153 * march number + 2) / 5 + 1 := by
  have inYear := dayOfYear_dayOfCycle_bounds number
  have month : march number = (5 * dayOfYear (dayOfCycle number) + 2) / 153 := rfl
  rw [ofDayNumber_eq]
  dsimp only
  omega

theorem month_bounds :
    1 ≤ (ofDayNumber number).month ∧ (ofDayNumber number).month ≤ 12 := by
  have inMonths := march_bounds number
  have inCalendar := calendarMonth_bounds inMonths.1 inMonths.2
  have month := month_ofDayNumber number
  omega

theorem day_bounds :
    1 ≤ (ofDayNumber number).day ∧ (ofDayNumber number).day ≤ 31 := by
  have inYear := dayOfYear_dayOfCycle_bounds number
  have month : march number = (5 * dayOfYear (dayOfCycle number) + 2) / 153 := rfl
  have day := day_ofDayNumber number
  omega

/-- The year that starts in March is the year of the date, or the one before it. -/
theorem marchYear_ofDayNumber :
    (if (ofDayNumber number).month ≤ 2 then (ofDayNumber number).year - 1
      else (ofDayNumber number).year) =
        (number + 719468) / 146097 * 400 + yearOfCycle (dayOfCycle number) := by
  have month := month_ofDayNumber number
  have year : (ofDayNumber number).year =
      (number + 719468) / 146097 * 400 + yearOfCycle (dayOfCycle number) +
        if calendarMonth (march number) ≤ 2 then 1 else 0 := rfl
  split_ifs at year ⊢
  all_goals omega

/-- The day of the date of a day is that day. -/
theorem dayNumber_ofDayNumber : (ofDayNumber number).dayNumber = number := by
  have inCycle := yearOfCycle_bounds (dayOfCycle_bounds number).1 (dayOfCycle_bounds number).2
  have inMonths := march_bounds number
  have cycles : number + 719468 = (number + 719468) / 146097 * 146097 + dayOfCycle number := by
    unfold dayOfCycle
    omega
  have sameCycle : ((number + 719468) / 146097 * 400 + yearOfCycle (dayOfCycle number)) / 400 =
      (number + 719468) / 146097 := by omega
  have sameYear : ((number + 719468) / 146097 * 400 + yearOfCycle (dayOfCycle number)) % 400 =
      yearOfCycle (dayOfCycle number) := by omega
  have parts : dayOfYear (dayOfCycle number) =
      dayOfCycle number - (365 * yearOfCycle (dayOfCycle number) +
        yearOfCycle (dayOfCycle number) / 4 - yearOfCycle (dayOfCycle number) / 100) := rfl
  rw [dayNumber_eq]
  dsimp only
  rw [marchYear_ofDayNumber, month_ofDayNumber, day_ofDayNumber, sameCycle, sameYear,
    marchMonth_of_calendarMonth inMonths.1 inMonths.2]
  omega

/-- Every day has a real date. -/
theorem isReal_ofDayNumber : (ofDayNumber number).isReal = true := by
  rw [isReal, dayNumber_ofDayNumber, beq_self_eq_true]

end

end StalestFirst.Date
