import Mathlib
import StalestFirst.Box
import StalestFirst.Moment.Basic

namespace StalestFirst.Moment

/-! ## Scores in order

A score is the count of nanoseconds, cut off at the ends of a word of 64 bits. Away
from leap seconds the count follows the order of the moments. -/

/-- The nanoseconds since the start of 1970. Those before are negative. -/
def count (moment : Moment) : Int :=
  moment.seconds * 1000000000 + moment.nanos

/-- The nearest integer that fits into a word of 64 bits. -/
def cutOff (value : Int) : Int :=
  max (-9223372036854775808) (min value 9223372036854775807)

theorem cutOff_mono {lower upper : Int} (ordered : lower ≤ upper) :
    cutOff lower ≤ cutOff upper := by
  unfold cutOff
  omega

/-- Two integers are cut off at the same place only if both lie at one end or beyond. -/
theorem cutOff_lt_iff {lower upper : Int} (ordered : lower < upper) :
    cutOff lower < cutOff upper ↔
      lower < 9223372036854775807 ∧ -9223372036854775808 < upper := by
  unfold cutOff
  omega

/-- Whether an integer fits into a word of 64 bits. -/
def Fits (value : Int) : Prop :=
  -9223372036854775808 ≤ value ∧ value ≤ 9223372036854775807

instance (value : Int) : Decidable (Fits value) :=
  inferInstanceAs (Decidable (_ ∧ _))

theorem cutOff_of_fits {value : Int} (fits : Fits value) : cutOff value = value := by
  unfold Fits at fits
  unfold cutOff
  omega

theorem fits_toInt (word : Int64) : Fits word.toInt := by
  have lowest := word.le_toInt
  have highest := word.toInt_lt
  unfold Fits
  omega

theorem toInt_ofInt_of_fits {value : Int} (fits : Fits value) :
    (Int64.ofInt value).toInt = value := by
  unfold Fits at fits
  apply Int64.toInt_ofInt_of_le
  · exact fits.1
  · omega

/-! ### Counting in words -/

theorem fit?_of_fits {value : Int} (fits : Fits value) :
    fit? value = some (Int64.ofInt value) :=
  if_pos fits

theorem fit?_of_not_fits {value : Int} (outside : ¬ Fits value) :
    fit? value = none :=
  if_neg outside

theorem fit?_eq_some_iff {value : Int} {word : Int64} :
    fit? value = some word ↔ word.toInt = value := by
  by_cases fits : Fits value
  · rw [fit?_of_fits fits, Option.some.injEq, ← Int64.toInt_inj, toInt_ofInt_of_fits fits]
    exact eq_comm
  · rw [fit?_of_not_fits fits]
    constructor
    · intro fitted
      cases fitted
    · rintro rfl
      exact absurd (fits_toInt word) fits

/-- Counting in two steps gives a word just when the first step fits and the word is
the sum. -/
theorem two_steps_eq_some_iff {start rest : Int} {word : Int64} :
    ((fit? start).bind fun first => fit? (first.toInt + rest)) = some word ↔
      Fits start ∧ word.toInt = start + rest := by
  simp only [Option.bind_eq_some_iff, fit?_eq_some_iff]
  constructor
  · rintro ⟨first, rfl, sum⟩
    exact ⟨fits_toInt first, sum⟩
  · rintro ⟨fits, sum⟩
    have first := toInt_ofInt_of_fits fits
    exact ⟨Int64.ofInt start, first, by rw [first, sum]⟩

section

variable (moment : Moment)

/-- The nanoseconds that are counted first: those of the whole seconds up to the moment,
or before 1970 up to the second after it. -/
def firstStep : Int :=
  (if moment.seconds < 0 then moment.seconds + 1 else moment.seconds) * 1000000000

/-- The nanoseconds that are then added. -/
def secondStep : Int :=
  if moment.seconds < 0 then moment.nanos - 1000000000 else moment.nanos

theorem nanoseconds?_eq :
    moment.nanoseconds? =
      (fit? moment.firstStep).bind fun first => fit? (first.toInt + moment.secondStep) :=
  rfl

theorem firstStep_add_secondStep :
    moment.firstStep + moment.secondStep = moment.count := by
  unfold firstStep secondStep count
  split
  · omega
  · rfl

/-- Only in one second does the first step leave the words where the count may not. -/
theorem fits_firstStep (reached : moment.seconds ≠ -9223372038)
    (fits : Fits moment.count) : Fits moment.firstStep := by
  have fraction := moment.fraction
  unfold Fits count at fits
  unfold Fits firstStep
  split
  · omega
  · omega

theorem not_fits_firstStep (unreached : moment.seconds = -9223372038) :
    ¬ Fits moment.firstStep := by
  unfold Fits firstStep
  rw [unreached]
  decide

theorem nanoseconds?_eq_some_iff {word : Int64} :
    moment.nanoseconds? = some word ↔
      moment.seconds ≠ -9223372038 ∧ word.toInt = moment.count := by
  rw [nanoseconds?_eq, two_steps_eq_some_iff, firstStep_add_secondStep]
  constructor
  · rintro ⟨fits, exactly⟩
    exact ⟨fun unreached => moment.not_fits_firstStep unreached fits, exactly⟩
  · rintro ⟨reached, exactly⟩
    exact ⟨moment.fits_firstStep reached (exactly ▸ fits_toInt word), exactly⟩

theorem uncounted_of_nanoseconds?_eq_none (uncounted : moment.nanoseconds? = none) :
    moment.seconds = -9223372038 ∨ ¬ Fits moment.count := by
  by_cases reached : moment.seconds = -9223372038
  · exact Or.inl reached
  · refine Or.inr fun fits => ?_
    have counted := moment.nanoseconds?_eq_some_iff.2 ⟨reached, toInt_ofInt_of_fits fits⟩
    rw [uncounted] at counted
    cases counted

theorem toInt_score_of_uncounted (uncounted : moment.nanoseconds? = none) :
    moment.score.toInt =
      if moment.seconds < 0 then -9223372036854775808 else 9223372036854775807 := by
  rw [score, uncounted, Option.getD_none]
  split
  · exact Int64.toInt_minValue
  · exact Int64.toInt_maxValue

/-- Inside the leap second after second -9223372038 the score is the smallest word, also
when the count is greater. -/
def Miscounted : Prop :=
  moment.seconds = -9223372038 ∧ 1145224192 < moment.nanos

/-- The score is the count, cut off, except inside that leap second. -/
theorem toInt_score_iff :
    moment.score.toInt = cutOff moment.count ↔ ¬ moment.Miscounted := by
  unfold Miscounted
  cases counted : moment.nanoseconds? with
  | some word =>
      obtain ⟨reached, exactly⟩ := moment.nanoseconds?_eq_some_iff.1 counted
      refine iff_of_true ?_ fun miscounted => reached miscounted.1
      rw [score, counted, Option.getD_some, ← exactly, cutOff_of_fits (fits_toInt word)]
  | none =>
      have fraction := moment.fraction
      have outside := moment.uncounted_of_nanoseconds?_eq_none counted
      rw [moment.toInt_score_of_uncounted counted]
      unfold Fits count at outside
      unfold cutOff count
      split
      · omega
      · omega

variable {moment}

/-- No minute ends with that second. -/
theorem LeapEndsMinute.not_miscounted (told : moment.LeapEndsMinute) :
    ¬ moment.Miscounted := by
  unfold LeapEndsMinute at told
  unfold Miscounted
  omega

theorem leapEndsMinute_of_not_isLeap (ordinary : moment.isLeap = false) :
    moment.LeapEndsMinute := by
  rw [isLeap, decide_eq_false_iff_not] at ordinary
  exact Or.inl (Nat.lt_of_not_le ordinary)

theorem toInt_score_of_not_isLeap (ordinary : moment.isLeap = false) :
    moment.score.toInt = cutOff moment.count :=
  moment.toInt_score_iff.2 (leapEndsMinute_of_not_isLeap ordinary).not_miscounted

end

/-! ### Moments in order -/

theorem Before.irrefl (moment : Moment) : ¬ moment.Before moment := by
  unfold Before
  omega

theorem Before.asymm {first second : Moment} (before : first.Before second) :
    ¬ second.Before first := by
  unfold Before at *
  omega

theorem notBefore_trans {first second third : Moment}
    (later : ¬ second.Before first) (latest : ¬ third.Before second) :
    ¬ third.Before first := by
  unfold Before at *
  omega

theorem eq_of_not_before {first second : Moment}
    (notEarlier : ¬ first.Before second) (notLater : ¬ second.Before first) :
    first = second := by
  unfold Before at notEarlier notLater
  apply Moment.ext
  · omega
  · omega

/-- Away from leap seconds, the count of an earlier moment is lower. -/
theorem Before.count_lt
    {first second : Moment} (before : first.Before second)
    (ordinary : first.isLeap = false) :
    first.count < second.count := by
  unfold Before at before
  simp only [isLeap, decide_eq_false_iff_not] at ordinary
  unfold count
  omega

/-- Away from leap seconds, a moment that is not later has no higher score. -/
theorem score_le_of_not_before
    {first second : Moment} (ordinary : first.isLeap = false)
    (ordinary' : second.isLeap = false) (notBefore : ¬ second.Before first) :
    first.score ≤ second.score := by
  by_cases before : first.Before second
  · rw [Int64.le_iff_toInt_le, toInt_score_of_not_isLeap ordinary,
      toInt_score_of_not_isLeap ordinary']
    exact cutOff_mono (Int.le_of_lt (before.count_lt ordinary))
  · rw [eq_of_not_before before notBefore]
    exact Int64.le_refl _

/-- Away from leap seconds, an earlier moment has a lower score unless the words end
before both or after both. -/
theorem Before.score_lt_iff
    {first second : Moment} (before : first.Before second)
    (ordinary : first.isLeap = false) (ordinary' : second.isLeap = false) :
    first.score < second.score ↔
      first.count < 9223372036854775807 ∧ -9223372036854775808 < second.count := by
  rw [Int64.lt_iff_toInt_lt, toInt_score_of_not_isLeap ordinary,
    toInt_score_of_not_isLeap ordinary']
  exact cutOff_lt_iff (before.count_lt ordinary)

/-- Inside a leap second the score runs ahead of the next minute. -/
example :
    let inLeap : Moment := ⟨59, 1500000000, by decide, by decide⟩
    let nextMinute : Moment := ⟨60, 0, by decide, by decide⟩
    inLeap.Before nextMinute ∧ nextMinute.score < inLeap.score := by
  decide

/-- The score is the count of nanoseconds, cut off at the ends of a word, of every moment
that the calendar has and of every other one but those late inside the leap second after
second -9223372038. A word is counted whenever it can hold the count, even where the whole
seconds alone would not fit, except in that second. Away from leap seconds the scores keep
the order of the moments, strictly where both counts fit, and then a box last viewed
earlier ranks first, whatever the boxes are called. -/
theorem scores_count_nanoseconds_in_order :
    (∀ moment : Moment,
      (moment.score.toInt = cutOff moment.count ↔ ¬ moment.Miscounted) ∧
      (moment.LeapEndsMinute → ¬ moment.Miscounted) ∧
      ∀ word, moment.nanoseconds? = some word ↔
        moment.seconds ≠ -9223372038 ∧ word.toInt = moment.count) ∧
    ∀ earlier later : Moment, earlier.isLeap = false → later.isLeap = false →
      (earlier = later ∨ earlier.Before later → earlier.score ≤ later.score) ∧
      (earlier.Before later → Fits earlier.count → Fits later.count →
        earlier.score < later.score ∧
        ∀ id other, (ViewedBox.item ⟨id, earlier⟩).Before (ViewedBox.item ⟨other, later⟩)) := by
  refine ⟨fun moment => ⟨moment.toInt_score_iff, LeapEndsMinute.not_miscounted,
    fun word => moment.nanoseconds?_eq_some_iff⟩,
    fun earlier later ordinary ordinary' => ⟨?_, ?_⟩⟩
  · rintro (rfl | before)
    · exact Int64.le_refl _
    · exact score_le_of_not_before ordinary ordinary' before.asymm
  · intro before earlierFits laterFits
    have lower := before.count_lt ordinary
    have lowerScore : earlier.score < later.score := by
      rw [before.score_lt_iff ordinary ordinary']
      exact ⟨Int.lt_of_lt_of_le lower laterFits.2, Int.lt_of_le_of_lt earlierFits.1 lower⟩
    exact ⟨lowerScore, fun _ _ => Or.inl lowerScore⟩

/-- The first moment whose count a word can hold. Its whole seconds alone would not fit. -/
def firstCounted : Moment := ⟨-9223372037, 145224192, by decide, by decide⟩

/-- The nanosecond after it. -/
def secondCounted : Moment := ⟨-9223372037, 145224193, by decide, by decide⟩

theorem scores_count_nanoseconds_in_order_firstWords :
    firstCounted.isLeap = false ∧ secondCounted.isLeap = false ∧
    firstCounted.Before secondCounted ∧ Fits firstCounted.count ∧ Fits secondCounted.count ∧
    ¬ Fits (firstCounted.seconds * 1000000000) ∧
    firstCounted.nanoseconds? = some Int64.minValue ∧
    firstCounted.score.toInt = firstCounted.count ∧
    firstCounted.score < secondCounted.score ∧
    (ViewedBox.item ⟨"b", firstCounted⟩).Before (ViewedBox.item ⟨"a", secondCounted⟩) := by
  have ordinary : firstCounted.isLeap = false ∧ secondCounted.isLeap = false := by
    decide
  have before : firstCounted.Before secondCounted := by
    decide
  have fits : Fits firstCounted.count ∧ Fits secondCounted.count := by
    decide
  have overflows : ¬ Fits (firstCounted.seconds * 1000000000) := by
    decide
  obtain ⟨scored, told, counted⟩ := scores_count_nanoseconds_in_order.1 firstCounted
  have exactly := scored.2 (told (by decide))
  have ordered := scores_count_nanoseconds_in_order.2 firstCounted secondCounted
    ordinary.1 ordinary.2
  obtain ⟨lower, ranked⟩ := ordered.2 before fits.1 fits.2
  rw [cutOff_of_fits fits.1] at exactly
  exact ⟨ordinary.1, ordinary.2, before, fits.1, fits.2, overflows,
    (counted Int64.minValue).2 (by decide), exactly, lower, ranked "b" "a"⟩

/-- Half a leap second after second -9223372038 a word can hold the count, and the score is
a lower word. -/
theorem leap_second_scored_too_low :
    let moment : Moment := ⟨-9223372038, 1500000000, by decide, by decide⟩
    moment.count = -9223372036500000000 ∧ Fits moment.count ∧
    moment.score.toInt = -9223372036854775808 ∧
    moment.score.toInt ≠ cutOff moment.count := by
  decide

/-- The moment so many seconds after the start of 1970, or that start if there is no
such moment. -/
def afterEpoch (seconds : Nat) : Moment := (ofUnix? seconds 0).getD epoch

end StalestFirst.Moment
