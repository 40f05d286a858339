import Mathlib
import StalestFirst.Moment.Printer
import StalestFirst.Moment.Reader
import StalestFirst.Proofs.Moment.Calendar
import StalestFirst.Proofs.Text.Digits

namespace StalestFirst.Moment

/-! ## Reading what is written

Every reader takes just the part that was written for it, if what comes next cannot be
taken for one more digit. -/

/-- What comes next is no digit. -/
def EndsNumber (rest : List Char) : Prop :=
  ∀ c ∈ rest.head?, Text.isDigit c = false

theorem endsNumber_cons {c : Char} (rest : List Char) (mark : Text.isDigit c = false) :
    EndsNumber (c :: rest) := by
  intro other member
  rw [List.head?_cons, Option.mem_some_iff] at member
  rwa [← member]

section

variable {digits rest : List Char} (allDigits : ∀ c ∈ digits, Text.isDigit c = true)
  (present : digits ≠ []) (ended : EndsNumber rest)

include allDigits present

theorem trimmedStart_digits : Text.trimmedStart (digits ++ rest) = digits ++ rest := by
  cases digits with
  | nil =>
      exact absurd rfl present
  | cons c others =>
      have notBlank := Text.isBlank_of_isDigit (allDigits c List.mem_cons_self)
      rw [Text.trimmedStart, List.cons_append, List.dropWhile_cons_of_neg (by simp [notBlank])]

include ended

theorem readNumber_digits {most : Nat} (fits : digits.length ≤ most) :
    readNumber most (digits ++ rest) = some (Text.valueOfDigits digits, rest) := by
  have ended : ∀ c ∈ (rest.take (most - digits.length)).head?, Text.isDigit c = false := by
    intro c member
    rw [List.head?_take] at member
    split at member
    · cases member
    · exact ended c member
  have taken : ((digits ++ rest).take most).takeWhile Text.isDigit = digits := by
    rw [List.take_append, List.take_of_length_le fits]
    exact Text.takeWhile_isDigit allDigits ended
  rw [readNumber, taken, List.drop_left]
  simp [present]

theorem readFraction_digits (short : digits.length ≤ 9) :
    readFraction ('.' :: (digits ++ rest)) =
      some (Text.valueOfDigits digits * 10 ^ (9 - digits.length), rest) := by
  simp only [readFraction, Text.takeWhile_isDigit allDigits ended, List.drop_left,
    List.take_of_length_le short]
  simp [present]

end

/-! ### Fields -/

theorem readField_fixedWidth {number : Nat} {rest : List Char} (small : number < 100)
    (ended : EndsNumber rest) :
    readField (Text.fixedWidth 2 number ++ rest) = some (number, rest) := by
  have allDigits : ∀ c ∈ Text.fixedWidth 2 number, Text.isDigit c = true :=
    fun _ => Text.isDigit_of_mem_fixedWidth
  have wide := Text.fixedWidth_ne_nil (by decide : 0 < 2) number
  have length := Text.length_fixedWidth 2 number
  rw [readField, trimmedStart_digits allDigits wide,
    readNumber_digits allDigits wide ended (by omega), Text.valueOfDigits_fixedWidth small]

/-- A year that starts with a digit has at most four. -/
theorem readYear_of_digit {c : Char} {others : List Char} (digit : Text.isDigit c = true) :
    readYear (c :: others) =
      (readNumber 4 (c :: others)).map fun (year, rest) => ((year : Int), rest) := by
  have notBlank := Text.isBlank_of_isDigit digit
  rw [readYear, Text.trimmedStart, List.dropWhile_cons_of_neg (by simp [notBlank])]
  split
  · rename_i same
    injection same with sign
    rw [sign] at digit
    cases digit
  · rename_i same
    injection same with sign
    rw [sign] at digit
    cases digit
  · rfl

theorem readYear_writtenYear (year : Int) {rest : List Char} (ended : EndsNumber rest) :
    readYear (writtenYear year ++ rest) = some (year, rest) := by
  have allDigits : ∀ c ∈ Text.padded 4 year.natAbs, Text.isDigit c = true :=
    fun _ => Text.isDigit_of_mem_padded
  have present := Text.padded_ne_nil (by decide : 0 < 4) year.natAbs
  have signed : readNumber (Text.padded 4 year.natAbs ++ rest).length
      (Text.padded 4 year.natAbs ++ rest) = some (year.natAbs, rest) := by
    rw [readNumber_digits allDigits present ended (by simp), Text.valueOfDigits_padded]
  unfold writtenYear
  split
  · rename_i short
    have wide := Text.fixedWidth_ne_nil (by decide : 0 < 4) year.toNat
    have allDigits : ∀ c ∈ Text.fixedWidth 4 year.toNat, Text.isDigit c = true :=
      fun _ => Text.isDigit_of_mem_fixedWidth
    have length := Text.length_fixedWidth 4 year.toNat
    have unsigned : readYear (Text.fixedWidth 4 year.toNat ++ rest) =
        (readNumber 4 (Text.fixedWidth 4 year.toNat ++ rest)).map
          fun (year, rest) => ((year : Int), rest) := by
      obtain ⟨c, others, shape⟩ := List.exists_cons_of_ne_nil wide
      rw [shape, List.cons_append]
      refine readYear_of_digit (allDigits c ?_)
      rw [shape]
      exact List.mem_cons_self
    rw [unsigned, readNumber_digits allDigits wide ended (by omega),
      Text.valueOfDigits_fixedWidth (by omega), Option.map_some]
    simp [short.1]
  · rename_i long
    by_cases negative : year < 0
    · have shape : readYear ('-' :: (Text.padded 4 year.natAbs ++ rest)) =
          (readNumber (Text.padded 4 year.natAbs ++ rest).length
            (Text.padded 4 year.natAbs ++ rest)).map
              fun (year, rest) => (-(year : Int), rest) := rfl
      rw [if_pos negative, List.cons_append, shape, signed, Option.map_some]
      simp only [Option.some.injEq, Prod.mk.injEq, and_true]
      omega
    · have shape : readYear ('+' :: (Text.padded 4 year.natAbs ++ rest)) =
          (readNumber (Text.padded 4 year.natAbs ++ rest).length
            (Text.padded 4 year.natAbs ++ rest)).map
              fun (year, rest) => ((year : Int), rest) := rfl
      rw [if_neg negative, List.cons_append, shape, signed, Option.map_some]
      simp only [Option.some.injEq, Prod.mk.injEq, and_true]
      omega

/-- The marks between numbers are no blanks, so none is skipped. -/
theorem readMark_cons (mark : Char) (visible : Text.isBlank mark = false) (rest : List Char) :
    readMark mark (mark :: rest) = some rest := by
  rw [readMark, Text.trimmedStart, List.dropWhile_cons_of_neg (by simp [visible])]
  simp

theorem readFraction_writtenFraction {nanos : Nat} (small : nanos < 1000000000)
    (rest : List Char) :
    readFraction (writtenFraction nanos ++ 'Z' :: rest) = some (nanos, 'Z' :: rest) := by
  have ended : EndsNumber ('Z' :: rest) := endsNumber_cons rest rfl
  have read {width number : Nat} (wide : 0 < width) (short : width ≤ 9)
      (fits : number < 10 ^ width) :
      readFraction ('.' :: (Text.fixedWidth width number ++ 'Z' :: rest)) =
        some (number * 10 ^ (9 - width), 'Z' :: rest) := by
    have length := Text.length_fixedWidth width number
    rw [readFraction_digits (fun _ => Text.isDigit_of_mem_fixedWidth)
      (Text.fixedWidth_ne_nil wide number) ended (by omega), Text.valueOfDigits_fixedWidth fits,
      length]
  unfold writtenFraction
  split_ifs with none milli micro
  · rw [none]
    rfl
  · rw [List.cons_append, read (by decide) (by decide) (by omega)]
    simp only [Option.some.injEq, Prod.mk.injEq, and_true]
    omega
  · rw [List.cons_append, read (by decide) (by decide) (by omega)]
    simp only [Option.some.injEq, Prod.mk.injEq, and_true]
    omega
  · rw [List.cons_append, read (by decide) (by decide) (by omega)]
    simp

/-! ### Dates and times -/

theorem readDate_writtenDate {date : Date} (month : date.month < 100) (day : date.day < 100)
    {rest : List Char} (ended : EndsNumber rest) :
    readDate (writtenDate date ++ rest) = some (date, rest) := by
  have parts : writtenDate date ++ rest =
      writtenYear date.year ++ '-' :: (Text.fixedWidth 2 date.month ++
        '-' :: (Text.fixedWidth 2 date.day ++ rest)) := by
    simp [writtenDate]
  have hyphen (rest : List Char) : EndsNumber ('-' :: rest) := endsNumber_cons rest rfl
  simp only [parts, readDate, readYear_writtenYear _ (hyphen _), Option.bind_eq_bind,
    Option.bind_some, readMark_cons '-' rfl, readField_fixedWidth month (hyphen _),
    readField_fixedWidth day ended, Option.pure_def]

/-- The text of a date and a time of day. -/
def writtenTime (time : TimeOfDay) : List Char :=
  Text.fixedWidth 2 time.hour ++ ':' :: (Text.fixedWidth 2 time.minute ++
    ':' :: (Text.fixedWidth 2 time.second ++ writtenFraction time.nanos))

theorem readTimeOfDay_writtenTime {time : TimeOfDay} (hour : time.hour < 100)
    (minute : time.minute < 100) (second : time.second < 100)
    (nanos : time.nanos < 1000000000) (rest : List Char) :
    readTimeOfDay (writtenTime time ++ 'Z' :: rest) = some (time, 'Z' :: rest) := by
  have colon (rest : List Char) : EndsNumber (':' :: rest) := endsNumber_cons rest rfl
  have fraction : EndsNumber (writtenFraction time.nanos ++ 'Z' :: rest) := by
    unfold writtenFraction
    split_ifs
    all_goals exact endsNumber_cons _ rfl
  have parts : writtenTime time ++ 'Z' :: rest =
      Text.fixedWidth 2 time.hour ++ ':' :: (Text.fixedWidth 2 time.minute ++
        ':' :: (Text.fixedWidth 2 time.second ++
          (writtenFraction time.nanos ++ 'Z' :: rest))) := by
    simp [writtenTime]
  simp only [parts, readTimeOfDay, readField_fixedWidth hour (colon _), Option.bind_eq_bind,
    Option.bind_some, readMark_cons ':' rfl, readField_fixedWidth minute (colon _),
    readField_fixedWidth second fraction, readFraction_writtenFraction nanos, Option.pure_def]

theorem read?_writtenDate_writtenTime {date : Date} {time : TimeOfDay}
    (month : date.month < 100) (day : date.day < 100) (hour : time.hour < 100)
    (minute : time.minute < 100) (second : time.second < 100)
    (nanos : time.nanos < 1000000000) :
    read? (writtenDate date ++ 'T' :: (writtenTime time ++ ['Z'])) =
      ofLocal? date time 0 := by
  have ended : EndsNumber ('T' :: (writtenTime time ++ ['Z'])) := endsNumber_cons _ rfl
  have offset : readOffset (Text.trimmedStart ['Z']) = some (0, []) := by
    decide
  simp only [read?, readDate_writtenDate month day ended, Option.bind_eq_bind,
    Option.bind_some, readTimeOfDay_writtenTime hour minute second nanos, offset, true_or,
    if_true, List.all_nil]

/-! ### Moments -/

theorem ofUnix?_self {moment : Moment} (told : moment.LeapEndsMinute) :
    ofUnix? moment.seconds moment.nanos = some moment := by
  rw [ofUnix?, dif_pos moment.inRange, dif_pos moment.fraction]
  exact if_pos told

/-- The moment that the written form of a moment tells: a leap second that ends no minute
is told as the second after it. -/
def asWritten (moment : Moment) : Moment :=
  if told : moment.LeapEndsMinute then moment
  else
    { seconds := moment.seconds + 1
      nanos := moment.nanos - 1000000000
      inRange := by
        have inRange := moment.inRange
        unfold LeapEndsMinute at told
        omega
      fraction := by
        have fraction := moment.fraction
        omega }

theorem asWritten_eq_self_iff {moment : Moment} :
    moment.asWritten = moment ↔ moment.LeapEndsMinute := by
  unfold asWritten
  by_cases told : moment.LeapEndsMinute
  · rw [dif_pos told]
    exact iff_of_true rfl told
  · rw [dif_neg told]
    refine iff_of_false (fun same => ?_) told
    have seconds : moment.seconds + 1 = moment.seconds := congrArg Moment.seconds same
    omega

/-- The time of day of a moment, as it is written. -/
def timeOfDay (moment : Moment) : TimeOfDay where
  hour := moment.secondOfDay / 3600
  minute := moment.secondOfDay / 60 % 60
  second :=
    if moment.isLeap then moment.secondOfDay % 60 + 1 else moment.secondOfDay % 60
  nanos := if moment.isLeap then moment.nanos - 1000000000 else moment.nanos

theorem written_eq (moment : Moment) :
    moment.written =
      writtenDate moment.date ++ 'T' :: (writtenTime moment.timeOfDay ++ ['Z']) := by
  unfold written timeOfDay writtenTime
  cases moment.isLeap with
  | true =>
      simp
  | false =>
      simp

theorem secondOfDay_lt (moment : Moment) : moment.secondOfDay < 86400 := by
  unfold secondOfDay
  omega

theorem le_nanos_of_isLeap {moment : Moment} (leap : moment.isLeap = true) :
    1000000000 ≤ moment.nanos := by
  rwa [isLeap, decide_eq_true_eq] at leap

theorem nanos_lt_of_not_isLeap {moment : Moment} (ordinary : moment.isLeap = false) :
    moment.nanos < 1000000000 := by
  rw [isLeap, decide_eq_false_iff_not] at ordinary
  omega

/-- A minute ends with the second 59 of a day's minute. -/
theorem leapEndsMinute_iff_of_isLeap {moment : Moment} (leap : moment.isLeap = true) :
    moment.LeapEndsMinute ↔ moment.secondOfDay % 60 = 59 := by
  have late := le_nanos_of_isLeap leap
  unfold LeapEndsMinute secondOfDay
  omega

/-- The seconds of a day and of the days before it are those of the moment. -/
theorem seconds_eq (moment : Moment) :
    moment.date.dayNumber * 86400 + (moment.secondOfDay : Int) = moment.seconds := by
  rw [date, Date.dayNumber_ofDayNumber]
  unfold secondOfDay
  omega

theorem clock_bounds (moment : Moment) :
    moment.timeOfDay.hour ≤ 23 ∧ moment.timeOfDay.minute ≤ 59 := by
  have inDay := moment.secondOfDay_lt
  change moment.secondOfDay / 3600 ≤ 23 ∧ moment.secondOfDay / 60 % 60 ≤ 59
  omega

/-- The moments in the minute of a moment are counted from its start. -/
theorem clock_eq (moment : Moment) (second : Nat) :
    moment.date.dayNumber * 86400 +
        ((moment.timeOfDay.hour * 3600 + moment.timeOfDay.minute * 60 + second : Nat) : Int) =
      moment.seconds - (moment.secondOfDay % 60 : Nat) + second := by
  have seconds := moment.seconds_eq
  change _ + ((moment.secondOfDay / 3600 * 3600 + moment.secondOfDay / 60 % 60 * 60 +
    second : Nat) : Int) = _
  omega

section

variable {date : Date} {time : TimeOfDay} {moment : Moment}

/-- The moment of a time of day that is no leap second. -/
theorem ofLocal?_of_ne_sixty (real : date.isReal = true) (hour : time.hour ≤ 23)
    (minute : time.minute ≤ 59) (second : time.second < 60)
    (seconds : date.dayNumber * 86400 +
      ((time.hour * 3600 + time.minute * 60 + time.second : Nat) : Int) = moment.seconds)
    (nanos : time.nanos = moment.nanos) (told : moment.LeapEndsMinute) :
    ofLocal? date time 0 = some moment := by
  rw [ofLocal?, if_pos ⟨real, hour, minute, second.le, by decide⟩, if_neg second.ne]
  dsimp only
  rw [seconds, nanos, ofUnix?_self told, Option.bind_some, Int.sub_zero, ofUnix?_self told]

/-- The moment of a time of day inside a leap second. -/
theorem ofLocal?_of_sixty (real : date.isReal = true) (hour : time.hour ≤ 23)
    (minute : time.minute ≤ 59) (second : time.second = 60)
    (seconds : date.dayNumber * 86400 +
      ((time.hour * 3600 + time.minute * 60 + 59 : Nat) : Int) = moment.seconds)
    (nanos : time.nanos + 1000000000 = moment.nanos) (told : moment.LeapEndsMinute) :
    ofLocal? date time 0 = some moment := by
  rw [ofLocal?, if_pos ⟨real, hour, minute, second.le, by decide⟩, if_pos second]
  dsimp only
  rw [seconds, nanos, ofUnix?_self told, Option.bind_some, Int.sub_zero, ofUnix?_self told]

end

theorem ofLocal?_timeOfDay (moment : Moment) :
    ofLocal? moment.date moment.timeOfDay 0 = some moment.asWritten := by
  have real : moment.date.isReal = true := Date.isReal_ofDayNumber _
  obtain ⟨hour, minute⟩ := moment.clock_bounds
  cases leap : moment.isLeap with
  | true =>
      have late := le_nanos_of_isLeap leap
      have second : moment.timeOfDay.second = moment.secondOfDay % 60 + 1 := if_pos leap
      have nanos : moment.timeOfDay.nanos = moment.nanos - 1000000000 := if_pos leap
      by_cases told : moment.LeapEndsMinute
      · have last := (leapEndsMinute_iff_of_isLeap leap).1 told
        rw [asWritten_eq_self_iff.2 told]
        refine ofLocal?_of_sixty real hour minute ?_ ?_ ?_ told
        · rw [second, last]
        · rw [clock_eq, last]
          omega
        · omega
      · have notLast := mt (leapEndsMinute_iff_of_isLeap leap).2 told
        have short := moment.fraction
        rw [asWritten, dif_neg told]
        refine ofLocal?_of_ne_sixty real hour minute ?_ ?_ nanos (Or.inl ?_)
        · omega
        · rw [clock_eq, second]
          dsimp only
          omega
        · dsimp only
          omega
  | false =>
      have early := nanos_lt_of_not_isLeap leap
      have second : moment.timeOfDay.second = moment.secondOfDay % 60 :=
        if_neg (Bool.eq_false_iff.1 leap)
      have nanos : moment.timeOfDay.nanos = moment.nanos := if_neg (Bool.eq_false_iff.1 leap)
      rw [asWritten_eq_self_iff.2 (Or.inl early)]
      refine ofLocal?_of_ne_sixty real hour minute ?_ ?_ nanos (Or.inl early)
      · omega
      · rw [clock_eq, second]
        omega

/-- A moment is read back from its text as it is written. -/
theorem read?_written (moment : Moment) :
    read? moment.written = some moment.asWritten := by
  have month : moment.date.month ≤ 12 := (Date.month_bounds _).2
  have day : moment.date.day ≤ 31 := (Date.day_bounds _).2
  obtain ⟨hour, minute⟩ := moment.clock_bounds
  have second : moment.timeOfDay.second < 100 := by
    unfold timeOfDay
    dsimp only
    split
    · omega
    · omega
  have nanos : moment.timeOfDay.nanos < 1000000000 := by
    unfold timeOfDay
    dsimp only
    split
    · have short := moment.fraction
      omega
    · rename_i ordinary
      exact nanos_lt_of_not_isLeap (Bool.eq_false_of_not_eq_true ordinary)
  rw [written_eq, read?_writtenDate_writtenTime (by omega) (by omega) (by omega) (by omega)
    second nanos]
  exact moment.ofLocal?_timeOfDay

/-- The leap second before the year 0, half of it gone. -/
example : print ⟨-62167219201, 1500000000, by decide, by decide⟩ =
    "-0001-12-31T23:59:60.500Z" := by
  decide

end StalestFirst.Moment
