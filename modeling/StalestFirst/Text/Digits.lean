namespace StalestFirst.Text

/-! ## Numbers in decimal digits -/

def isDigit (c : Char) : Bool := '0' ≤ c && c ≤ '9'

def valueOfDigits (digits : List Char) : Nat :=
  Nat.ofDigitChars 10 digits 0

/-- The digits of a number, without leading zeros. -/
def decimal (number : Nat) : List Char :=
  Nat.toDigits 10 number

def signedDecimal : Int → List Char
  | .ofNat number => decimal number
  | .negSucc number => '-' :: decimal (number + 1)

/-- The last `width` digits of a number, with leading zeros. -/
def fixedWidth : (width : Nat) → (number : Nat) → List Char
  | 0, _ => []
  | width + 1, number => fixedWidth width (number / 10) ++ [(number % 10).digitChar]

/-- The digits of a number, with leading zeros up to `width` digits. -/
def padded (width number : Nat) : List Char :=
  let digits := decimal number
  List.replicate (width - digits.length) '0' ++ digits

def number (value : Nat) : String := String.ofList (decimal value)

theorem valueOfDigits_decimal (number : Nat) :
    valueOfDigits (decimal number) = number :=
  Nat.ofDigitChars_ten_toDigits

theorem length_fixedWidth (width number : Nat) :
    (fixedWidth width number).length = width := by
  induction width generalizing number with
  | zero => rfl
  | succ width inductionHypothesis => simp [fixedWidth, inductionHypothesis]

end StalestFirst.Text
