import FeedDesk.Json.Basic
import FeedDesk.Number.Word

namespace FeedDesk
namespace Json

/-!
A numeral as it is written and the number it stands for. A numeral without point and exponent is
an integer while it fits 64 bits. Any other numeral is read in two steps: its leading digits, as
many as fit an unsigned word of 64 bits, become a double, and that double is multiplied or
divided once by the nearest double of a power of ten. Both steps round, so for long numerals the
result may differ from the nearest double; it is the value that every reader of the catalog's
files agrees on. A numeral beyond the doubles stands for no number.
-/

structure Numeral where
  negative : Bool
  whole : Text
  /-- The digits after the point, when there is one. -/
  places : Option Text
  /-- The sign (negative or not) and the digits of the exponent, when there is one. -/
  power : Option (Bool × Text)
  deriving DecidableEq

namespace Numeral

/-- Takes digits while the value fits the word; the second component is the number of digits left
over. -/
def gather (significand : Nat) : Text → Nat × Nat
  | [] => (significand, 0)
  | digit :: digits =>
    let next := significand * 10 + (digit.toNat - 48)
    if next < wordLimit then gather next digits else (significand, digits.length + 1)

/-- Powers of ten up to this one are multiplied or divided by at once. -/
def largestPower : Nat := 308

def powerOfTen (exponent : Nat) : Binary64 :=
  Binary64.ofDecimal false 1 exponent

/-- The value times a power of ten; `none` above the largest double. A power far below zero is
applied in strides, the last of which leaves zero. -/
def scale : (strides : Nat) → Binary64 → Int → Option Binary64
  | strides, value, exponent =>
    if exponent.natAbs ≤ largestPower then
      if 0 ≤ exponent then
        let product := value * powerOfTen exponent.toNat
        if product.isInfinite then none else some product
      else some (value / powerOfTen exponent.natAbs)
    else if value.isZero then some value
    else if 0 ≤ exponent then none
    else match strides with
      | 0 => some Binary64.zero
      | strides + 1 => scale strides (value / powerOfTen largestPower) (exponent + largestPower)

/-- The exponent that is written, when it fits 32 bits. -/
def power? (numeral : Numeral) : Option Int :=
  match numeral.power with
  | none => some 0
  | some (negative, digits) =>
    let value := Text.digitsValue digits
    if value < 2147483648 then some (if negative then -(value : Int) else value) else none

/-- The double that the numeral is read as. -/
def real? (numeral : Numeral) : Option Binary64 :=
  let (leading, dropped) := gather 0 numeral.whole
  let places := numeral.places.getD []
  let (significand, ignored) := gather leading places
  let base : Int := (dropped : Int) - ((places.length - ignored : Nat) : Int)
  let absolute : Option Binary64 :=
    match numeral.power? with
    | some power => scale 4 (Binary64.ofNat significand) (base + power)
    | none =>
      let grows : Bool := numeral.power.any fun (negative, _) => !negative
      if significand != 0 && grows then none else some Binary64.zero
  absolute.map fun value => if numeral.negative then -value else value

/-- The number of the numeral: an integer where it is written as one and fits, else a double. -/
def number? (numeral : Numeral) : Option Json :=
  let whole := Text.digitsValue numeral.whole
  match numeral.places, numeral.power with
  | none, none =>
    if numeral.negative then
      if 0 < whole ∧ whole ≤ signedLimit then some (.integer (-(whole : Int)))
      else numeral.real?.map .real
    else if whole < wordLimit then some (.integer whole)
    else numeral.real?.map .real
  | _, _ => numeral.real?.map .real

end Numeral
end Json
end FeedDesk
