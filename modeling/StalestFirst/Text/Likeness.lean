namespace StalestFirst.Text

/-! ## Likeness of words

Two words are the more alike the more characters they share at nearby places, and
the fewer of these come in another order. -/

/-- How alike two words are, as a fraction between zero and one. -/
structure Likeness where
  numerator : Nat
  denominator : Nat
  deriving DecidableEq

namespace Likeness

def le (left right : Likeness) : Bool :=
  left.numerator * right.denominator ≤ right.numerator * left.denominator

/-- Whether words with this likeness may be taken for one another. -/
def isClose (likeness : Likeness) : Bool :=
  7 * likeness.denominator < 10 * likeness.numerator

end Likeness

/-- The first place from `lowest` up to `highest` that holds a character, among
places that are counted from `index`. Places that are taken hold none. -/
def placeOf? (c : Char) (lowest highest : Nat) :
    (index : Nat) → List (Option Char) → Option Nat
  | _, [] => none
  | index, place :: rest =>
      if highest < index then none
      else if lowest ≤ index ∧ place = some c then some index
      else placeOf? c lowest highest (index + 1) rest

/-- Pairs the characters of a word, counted from `index`, with those of another
that stand at most `reach` places away. Gives every character that has a partner,
with the place of the partner. -/
def partners (reach : Nat) :
    (index : Nat) → List Char → List (Option Char) → List (Char × Nat)
  | _, [], _ => []
  | index, c :: rest, places =>
      match placeOf? c (index - reach) (index + reach) 0 places with
      | some place =>
          (c, place) :: partners reach (index + 1) rest (places.set place none)
      | none => partners reach (index + 1) rest places

/-- How alike two words are: the mean of three fractions, which are the share of
paired characters in either word and the share of pairs in order. -/
def likeness (left right : List Char) : Likeness :=
  let reach := max left.length right.length / 2 - 1
  let pairs := partners reach 0 left (right.map some)
  let inOrder := pairs.mergeSort fun first second => first.2 ≤ second.2
  let displaced := (pairs.zip inOrder).countP fun (first, second) =>
    first.1 != second.1
  let count := pairs.length
  let kept := count - displaced / 2
  if left.isEmpty && right.isEmpty then ⟨1, 1⟩
  else if count = 0 then ⟨0, 1⟩
  else
    ⟨count * count * right.length + count * count * left.length +
        kept * left.length * right.length,
      3 * left.length * right.length * count⟩

/-- The words close to a given one, the closest last. -/
def closeWords (word : String) (words : List String) : List String :=
  let rated := words.map fun other =>
    (likeness word.toList other.toList, other)
  ((rated.filter fun entry => entry.1.isClose).mergeSort
    fun left right => left.1.le right.1).map Prod.snd

end StalestFirst.Text
