import StalestFirst.Moment.Calendar

namespace StalestFirst

/-! ## Moments

Moments are counted in seconds from the start of 1970 in coordinated universal
time. -/

/-- A second and a number of nanoseconds after its start. Inside a leap second
the number is a milliard or more. The years go from -262143 to 262142. -/
structure Moment where
  seconds : Int
  nanos : Nat
  inRange : -8334601228800 ≤ seconds ∧ seconds ≤ 8210266876799
  fraction : nanos < 2000000000

namespace Moment

@[ext]
theorem ext {left right : Moment}
    (sameSeconds : left.seconds = right.seconds)
    (sameNanos : left.nanos = right.nanos) : left = right := by
  cases left
  cases right
  cases sameSeconds
  cases sameNanos
  rfl

instance : DecidableEq Moment := fun left right =>
  decidable_of_iff (left.seconds = right.seconds ∧ left.nanos = right.nanos)
    ⟨fun same => Moment.ext same.1 same.2, fun equality => by simp [equality]⟩

def epoch : Moment := ⟨0, 0, by decide, by decide⟩

instance : Inhabited Moment := ⟨epoch⟩

def isLeap (moment : Moment) : Bool := 1000000000 ≤ moment.nanos

/-- A leap second of the calendar only follows the last second of a minute. A moment
may also lie inside one that follows another second. -/
def LeapEndsMinute (moment : Moment) : Prop :=
  moment.nanos < 1000000000 ∨ moment.seconds % 60 = 59

instance (moment : Moment) : Decidable moment.LeapEndsMinute :=
  inferInstanceAs (Decidable (_ ∨ _))

/-- The moment of a second and its nanoseconds, if the calendar has it. -/
def ofUnix? (seconds : Int) (nanos : Nat) : Option Moment :=
  if inRange : -8334601228800 ≤ seconds ∧ seconds ≤ 8210266876799 then
    if fraction : nanos < 2000000000 then
      let moment : Moment := ⟨seconds, nanos, inRange, fraction⟩
      if moment.LeapEndsMinute then some moment else none
    else none
  else none

/-- One moment comes before another when its second does, or in the same second
its nanoseconds do. -/
def Before (first second : Moment) : Prop :=
  first.seconds < second.seconds ∨
    (first.seconds = second.seconds ∧ first.nanos < second.nanos)

instance (first second : Moment) : Decidable (first.Before second) :=
  inferInstanceAs (Decidable (_ ∨ _))

/-! ## Scores -/

def fit? (value : Int) : Option Int64 :=
  if -9223372036854775808 ≤ value ∧ value ≤ 9223372036854775807 then
    some (Int64.ofInt value)
  else none

/-- The nanoseconds since the start of 1970, if they can be counted in words of
64 bits. A negative count is made from the second after, so that the smallest
word can be reached. Nothing is counted in second -9223372038, since the one after it starts
below that word: not even inside a leap second at its end, where the count may fit. No minute
ends there, so the calendar has no such leap second. -/
def nanoseconds? (moment : Moment) : Option Int64 :=
  let second := if moment.seconds < 0 then moment.seconds + 1 else moment.seconds
  let rest : Int :=
    if moment.seconds < 0 then moment.nanos - 1000000000 else moment.nanos
  (fit? (second * 1000000000)).bind fun start => fit? (start.toInt + rest)

/-- The score of a box last viewed at this moment: the nanoseconds since the
start of 1970, or the outermost word in their direction where they are not counted. -/
def score (moment : Moment) : Int64 :=
  moment.nanoseconds?.getD
    (if moment.seconds < 0 then Int64.minValue else Int64.maxValue)

end Moment

end StalestFirst
