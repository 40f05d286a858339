import StalestFirst.Text.Digits
import StalestFirst.Text.Quoted
import StalestFirst.Yaml.Node

namespace StalestFirst.Yaml

/-! ## Values of plain scalars

A plain scalar may mean no value, a truth value or a number. Any other scalar means
its text. -/

/-- A decimal number: its digits before and behind the point. -/
structure Decimal where
  negative : Bool
  whole : List Char
  fraction : List Char
  deriving DecidableEq

inductive Value where
  | absent
  | truth (value : Bool)
  | integer (value : Int)
  | decimal (value : Decimal)
  | infinite (negative : Bool)
  | notANumber
  | text (value : String)
  | sequence
  | mapping
  deriving DecidableEq

/-! ## Integers -/

def digitValue? (base : Nat) (c : Char) : Option Nat :=
  (hexValue? c).filter (· < base)

def numberOfBase? (base : Nat) (digits : List Char) : Option Nat :=
  if digits.isEmpty then none
  else
    digits.foldlM
      (fun number c => (digitValue? base c).map (base * number + ·)) 0

/-- Whether a text is a zero with more digits behind it. Such a text is no
number. -/
def hasLeadingZero (text : List Char) : Bool :=
  match text with
  | '0' :: c :: rest => (c :: rest).all Text.isDigit
  | _ => false

/-- The natural number that digits spell, or digits of another base behind `0x`,
`0o` or `0b`. -/
def magnitude? (text : List Char) : Option Nat :=
  match text with
  | '0' :: 'x' :: rest => numberOfBase? 16 rest
  | '0' :: 'o' :: rest => numberOfBase? 8 rest
  | '0' :: 'b' :: rest => numberOfBase? 2 rest
  | _ => if hasLeadingZero text then none else numberOfBase? 10 text

/-- The natural number that a text spells, possibly behind a plus sign. -/
def natural? (text : List Char) : Option Nat :=
  match text with
  | '+' :: rest => magnitude? rest
  | _ => magnitude? text

def integer? (text : List Char) : Option Int :=
  match text with
  | '-' :: rest => (magnitude? rest).map fun number => -(number : Int)
  | _ => (natural? text).map fun number => (number : Int)

/-! ## Decimals -/

/-- The exponent that a text gives, which must be empty or start with an E. -/
def exponent? (text : List Char) : Option Int :=
  let digitsOf (digits : List Char) : Option Int :=
    if !digits.isEmpty && digits.all Text.isDigit then
      some (Text.valueOfDigits digits)
    else none
  match text with
  | [] => some 0
  | mark :: rest =>
      if mark = 'e' ∨ mark = 'E' then
        match rest with
        | '-' :: digits => (digitsOf digits).map (- ·)
        | '+' :: digits => digitsOf digits
        | digits => digitsOf digits
      else none

/-- A decimal with its point moved to the right, or to the left. -/
def Decimal.shifted (decimal : Decimal) (places : Int) : Decimal :=
  let digits := decimal.whole ++ decimal.fraction
  let point : Int := decimal.whole.length + places
  let leading := List.replicate (-point).toNat '0'
  let trailing := List.replicate (point - digits.length).toNat '0'
  let all := leading ++ digits ++ trailing
  { decimal with
    whole := all.take point.toNat
    fraction := all.drop point.toNat }

/-- A decimal with no needless zeros, but with a digit on either side of the
point. -/
def Decimal.normal (decimal : Decimal) : Decimal :=
  let whole := decimal.whole.dropWhile (· == '0')
  let fraction := (decimal.fraction.reverse.dropWhile (· == '0')).reverse
  { decimal with
    whole := if whole.isEmpty then ['0'] else whole
    fraction := if fraction.isEmpty then ['0'] else fraction }

def Decimal.print (decimal : Decimal) : String :=
  (if decimal.negative then "-" else "") ++
    String.ofList (decimal.whole ++ '.' :: decimal.fraction)

/-- The decimal that a text without a sign spells, if it is not beyond the range
of numbers. -/
def decimalOf? (negative : Bool) (text : List Char) : Option Decimal :=
  let whole := text.takeWhile Text.isDigit
  let behind := text.drop whole.length
  let (fraction, rest) := match behind with
    | '.' :: digits =>
        let fraction := digits.takeWhile Text.isDigit
        (fraction, digits.drop fraction.length)
    | _ => ([], behind)
  if whole.isEmpty && fraction.isEmpty then none
  else
    match exponent? rest with
    | none => none
    | some exponent =>
        if 400 < exponent then none
        else
          let decimal :=
            (Decimal.shifted ⟨negative, whole, fraction⟩ (max exponent (-400))).normal
          if 309 < decimal.whole.length then none else some decimal

/-- The decimal or the limit that a text spells. -/
def decimal? (text : List Char) : Option Value :=
  let unsigned := match text with
    | '+' :: rest => rest
    | _ => text
  let word := String.ofList unsigned
  if [".inf", ".Inf", ".INF"].contains word then some (.infinite false)
  else if ["-.inf", "-.Inf", "-.INF"].contains (String.ofList text) then
    some (.infinite true)
  else if [".nan", ".NaN", ".NAN"].contains (String.ofList text) then
    some .notANumber
  else
    match unsigned with
    | '-' :: rest =>
        if unsigned = text then (decimalOf? true rest).map .decimal else none
    | rest => (decimalOf? false rest).map .decimal

/-! ## All values -/

/-- Whether a text is a number but for zeros at its start. -/
def isPaddedNumber (text : List Char) : Bool :=
  match text with
  | '-' :: rest | '+' :: rest => hasLeadingZero rest
  | _ => hasLeadingZero text

def Value.ofPlain (scalar : String) : Value :=
  let characters := scalar.toList
  if ["", "~", "null", "Null", "NULL"].contains scalar then .absent
  else if ["true", "True", "TRUE"].contains scalar then .truth true
  else if ["false", "False", "FALSE"].contains scalar then .truth false
  else
    match integer? characters with
    | some number => .integer number
    | none =>
        if isPaddedNumber characters then .text scalar
        else (decimal? characters).getD (.text scalar)

def Value.ofNode : Node → Value
  | .scalar _ _ .plain scalar => .ofPlain scalar
  | .scalar _ _ _ scalar => .text scalar
  | .sequence _ _ => .sequence
  | .mapping _ _ => .mapping
  | .alias _ _ | .missing => .absent

def Value.describe : Value → String
  | .absent => "unit value"
  | .truth value => "boolean \x60" ++ (if value then "true" else "false") ++ "\x60"
  | .integer value =>
      let digits := String.ofList (Text.signedDecimal value)
      let size :=
        if 18446744073709551616 ≤ value then " as u128"
        else if value < -9223372036854775808 then " as i128"
        else ""
      "integer \x60" ++ digits ++ "\x60" ++ size
  | .decimal value => "floating point \x60" ++ value.print ++ "\x60"
  | .infinite negative =>
      "floating point \x60" ++ (if negative then "-inf" else "inf") ++ "\x60"
  | .notANumber => "floating point \x60NaN\x60"
  | .text value => "string " ++ Text.Quoted.quote value
  | .sequence => "sequence"
  | .mapping => "map"

end StalestFirst.Yaml
