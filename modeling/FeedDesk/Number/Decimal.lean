import FeedDesk.Number.Binary64
import FeedDesk.Text.Basic

namespace FeedDesk

/-!
The decimal writing of doubles. `Decimal.shortest` finds the fewest digits that read back as the
same double and among those the nearest; what a tie between two such decimals means is left to the
format, and so is everything about points, exponents and signs. Three formats are kept: the
positional one of parameter lists and caps, the exchange one of JSON, and prices with two places.
-/

/-- A decimal `digits * 10 ^ exponent`. -/
structure Decimal where
  digits : Nat
  exponent : Int
  deriving DecidableEq

/-- Which of two equally near decimals is written. -/
inductive TieRule
  | upward
  | toEven
  deriving DecidableEq

namespace Decimal

/-- Three fractions over one denominator: the lower end of the interval of reals that round to a
positive double, its value, and the upper end. -/
structure Interval where
  low : Nat
  value : Nat
  high : Nat
  denominator : Nat
  /-- The ends themselves round to the double. -/
  closed : Bool

def intervalOf (number : Binary64) : Interval :=
  let significand := number.significand
  let lowered :=
    if significand = Binary64.leadingBit ∧ -1074 < number.exponent then 4 * significand - 1
    else 4 * significand - 2
  let power := number.exponent - 2
  let scale : Nat := if 0 ≤ power then 1 <<< power.toNat else 1
  { low := lowered * scale
    value := 4 * significand * scale
    high := (4 * significand + 2) * scale
    denominator := if 0 ≤ power then 1 else 1 <<< (-power).toNat
    closed := significand % 2 = 0 }

namespace Interval

/-- The decimal lies in the interval. -/
def contains (interval : Interval) (candidate : Nat) (exponent : Int) : Bool :=
  let up : Nat := Nat.pow 10 exponent.toNat
  let down : Nat := Nat.pow 10 (-exponent).toNat
  let point := candidate * up * interval.denominator
  if interval.closed then interval.low * down ≤ point && point ≤ interval.high * down
  else interval.low * down < point && point < interval.high * down

/-- The decimal of the given exponent that stands for the double, if there is one. -/
def onGrid (interval : Interval) (rule : TieRule) (exponent : Int) : Option Decimal :=
  let up : Nat := Nat.pow 10 exponent.toNat
  let down : Nat := Nat.pow 10 (-exponent).toNat
  let step := up * interval.denominator
  let below := interval.value * down / step
  let twice := 2 * (interval.value * down % step)
  let lowerIn := interval.contains below exponent
  let upperIn := interval.contains (below + 1) exponent
  let upperNearer :=
    step < twice || (twice == step && (rule == .upward || below % 2 == 1))
  if lowerIn && !(upperIn && upperNearer) then some ⟨below, exponent⟩
  else if upperIn then some ⟨below + 1, exponent⟩
  else none

end Interval

/-- The number of decimal digits of a positive number. -/
def digitCount (number : Nat) : Nat :=
  (Text.ofNat number).length

/-- The exponent of the least power of ten above a positive quotient. -/
def decimalTop (numerator denominator : Nat) : Int :=
  let guess : Int := (digitCount numerator : Int) - digitCount denominator
  let above :=
    if 0 ≤ guess then numerator < denominator * Nat.pow 10 guess.toNat
    else numerator * Nat.pow 10 (-guess).toNat < denominator
  if above then guess else guess + 1

/-- Moves factors of ten from the digits into the exponent. -/
def stripZeros : (fuel : Nat) → Decimal → Decimal
  | 0, decimal => decimal
  | fuel + 1, decimal =>
    if decimal.digits % 10 = 0 then stripZeros fuel ⟨decimal.digits / 10, decimal.exponent + 1⟩
    else decimal

/-- The shortest decimal of a positive finite double. -/
def shortest (rule : TieRule) (number : Binary64) : Decimal :=
  let interval := intervalOf number
  let top := decimalTop interval.value interval.denominator
  let found := (List.range 17).findSome? fun (extra : Nat) =>
    interval.onGrid rule (top - 1 - (extra : Int))
  stripZeros 20 (found.getD ⟨interval.value / interval.denominator, 0⟩)

/-- Digits before the point, the point when places follow, and the places. -/
def positional (decimal : Decimal) : Text :=
  let digits := Text.ofNat decimal.digits
  if 0 ≤ decimal.exponent then digits ++ List.replicate decimal.exponent.toNat '0'
  else
    let places := (-decimal.exponent).toNat
    let padded := List.replicate (places + 1 - digits.length) '0' ++ digits
    padded.take (padded.length - places) ++ '.' :: padded.drop (padded.length - places)

/-- One digit, the point when more follow, and a signed exponent. -/
def scientific (decimal : Decimal) : Text :=
  let digits := Text.ofNat decimal.digits
  let power := decimal.exponent + (digits.length : Int) - 1
  let sign : Text := if 0 ≤ power then "e+" else "e-"
  let places : Text := if digits.length = 1 then [] else '.' :: digits.drop 1
  digits.take 1 ++ places ++ sign ++ Text.ofNat power.natAbs

end Decimal

namespace Binary64

def signed (value : Binary64) (text : Text) : Text :=
  if value.negative then '-' :: text else text

/-- Shortest digits in positional form without an exponent; a whole number has no point. -/
def plainText (value : Binary64) : Text :=
  if value.isNaN then "NaN"
  else if value.isInfinite then value.signed "inf"
  else if value.isZero then value.signed "0"
  else value.signed (Decimal.shortest .upward value).positional

/-- Shortest digits as JSON writes them: a whole number ends in `.0`, and the exponent form is
used from `1e16` upward and below `1e-5`. -/
def jsonText (value : Binary64) : Text :=
  if value.isZero then value.signed "0.0"
  else
    let decimal := Decimal.shortest .toEven value
    let top := decimal.exponent + (Decimal.digitCount decimal.digits : Int)
    let written :=
      if top ≤ -5 ∨ 16 < top then decimal.scientific
      else if 0 ≤ decimal.exponent then decimal.positional ++ ".0"
      else decimal.positional
    value.signed written

/-- Exactly two places, rounded from the exact value with ties to the even neighbour. -/
def priceText (value : Binary64) : Text :=
  if value.isNaN then "NaN"
  else if value.isInfinite then value.signed "inf"
  else
    let hundredths := nearestEven (value.fraction.1 * 100) value.fraction.2
    value.signed (Decimal.positional ⟨hundredths, -2⟩)

/-- A whole number with all its digits, any other in shortest digits. -/
def capText (value : Binary64) : Text :=
  if value.isWhole then value.signed (Text.ofNat (value.fraction.1 / value.fraction.2))
  else value.plainText

/-- The double nearest to the value rounded to two places, a half going away from zero. Doubles
beyond `2 ^ 52` have no places and are kept. -/
def roundHundredths (value : Binary64) : Binary64 :=
  if value.isNaN || !(value.abs.le (ofNat leadingBit)) then value
  else if value.isZero then zero
  else
    let (numerator, denominator) := value.fraction
    let hundredths := (2 * numerator * 100 + denominator) / (2 * denominator)
    ofFraction value.negative hundredths 100

end Binary64
end FeedDesk
