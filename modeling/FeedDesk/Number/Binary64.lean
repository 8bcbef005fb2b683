namespace FeedDesk

/-!
Prices, averages and caps are doubles. A double is kept as its sign and its magnitude word: the
biased exponent followed by the 52 fraction bits, so that magnitudes are ordered as the values
they stand for. Every operation is computed on exact fractions and rounded once, to the nearest
double with ties to the even neighbour; `ofFraction` is the only place where rounding happens.
-/

structure Binary64 where
  negative : Bool
  magnitude : Nat
  deriving DecidableEq, Inhabited

namespace Binary64

/-- Two to the 52: the least magnitude word with a biased exponent, and the leading bit that such
a word leaves out of its fraction. -/
def leadingBit : Nat := 4503599627370496

/-- The magnitude word of infinity; words above it are not numbers. -/
def infinityWord : Nat := 2047 * leadingBit

def zero : Binary64 := ⟨false, 0⟩
def infinity (negative : Bool) : Binary64 := ⟨negative, infinityWord⟩
def nan : Binary64 := ⟨false, infinityWord + leadingBit / 2⟩

def isNaN (value : Binary64) : Bool := infinityWord < value.magnitude
def isInfinite (value : Binary64) : Bool := value.magnitude == infinityWord
def isFinite (value : Binary64) : Bool := value.magnitude < infinityWord
def isZero (value : Binary64) : Bool := value.magnitude == 0

/-- The whole number whose multiple by a power of two is the absolute value. -/
def significand (value : Binary64) : Nat :=
  if value.magnitude < leadingBit then value.magnitude
  else leadingBit + value.magnitude % leadingBit

/-- The power of two that goes with `significand`. -/
def exponent (value : Binary64) : Int :=
  if value.magnitude < leadingBit then -1074
  else (value.magnitude / leadingBit : Nat) - 1075

/-- The absolute value of a finite double as a fraction. -/
def fraction (value : Binary64) : Nat × Nat :=
  if 0 ≤ value.exponent then (value.significand <<< value.exponent.toNat, 1)
  else (value.significand, 1 <<< (-value.exponent).toNat)

/-- The whole number nearest to a quotient; a tie goes to the even one. -/
def nearestEven (numerator denominator : Nat) : Nat :=
  let below := numerator / denominator
  let twice := 2 * (numerator % denominator)
  if twice < denominator then below
  else if denominator < twice then below + 1
  else below + below % 2

/-- The exponent of the largest power of two that is not above a positive quotient. -/
def floorLog (numerator denominator : Nat) : Int :=
  let guess : Int := (Nat.log2 numerator : Int) - Nat.log2 denominator
  let reached :=
    if 0 ≤ guess then denominator <<< guess.toNat ≤ numerator
    else denominator ≤ numerator <<< (-guess).toNat
  if reached then guess else guess - 1

/-- The double nearest to a fraction, with ties to even; beyond the largest double, infinity. -/
def ofFraction (negative : Bool) (numerator denominator : Nat) : Binary64 :=
  if numerator = 0 then ⟨negative, 0⟩
  else
    let power := max (floorLog numerator denominator - 52) (-1074)
    let whole :=
      if 0 ≤ power then nearestEven numerator (denominator <<< power.toNat)
      else nearestEven (numerator <<< (-power).toNat) denominator
    ⟨negative, min ((power + 1074).toNat * leadingBit + whole) infinityWord⟩

def ofNat (number : Nat) : Binary64 :=
  ofFraction false number 1

def ofInt (number : Int) : Binary64 :=
  ofFraction (number < 0) number.natAbs 1

/-- The double nearest to `digits * 10 ^ exponent`. -/
def ofDecimal (negative : Bool) (digits : Nat) (exponent : Int) : Binary64 :=
  if digits = 0 then ⟨negative, 0⟩
  else
    let size : Int := Nat.log2 digits
    if 1100 < size + 3 * exponent ∧ 0 < exponent then infinity negative
    else if size + 3 * exponent < -1200 ∧ exponent < 0 then ⟨negative, 0⟩
    else if 0 ≤ exponent then ofFraction negative (digits * Nat.pow 10 exponent.toNat) 1
    else ofFraction negative digits (Nat.pow 10 (-exponent).toNat)

def neg (value : Binary64) : Binary64 :=
  ⟨!value.negative, value.magnitude⟩

def abs (value : Binary64) : Binary64 :=
  ⟨false, value.magnitude⟩

instance : Neg Binary64 := ⟨neg⟩

/-- The same value, with zero in place of negative zero. -/
def withOneZero (value : Binary64) : Binary64 :=
  if value.isZero then zero else value

/-- Position of a number among the doubles: the two zeros share theirs, and a greater value has a
greater position. -/
def position (value : Binary64) : Int :=
  if value.negative then -(value.magnitude : Int) else value.magnitude

def le (left right : Binary64) : Bool :=
  !left.isNaN && !right.isNaN && left.position ≤ right.position

def lt (left right : Binary64) : Bool :=
  !left.isNaN && !right.isNaN && left.position < right.position

/-- The exact value times `2 ^ 1074`, a whole number for every finite double. -/
def scaled (value : Binary64) : Int :=
  let absolute : Nat := value.significand <<< (value.exponent + 1074).toNat
  if value.negative then -(absolute : Int) else absolute

def add (left right : Binary64) : Binary64 :=
  if left.isNaN || right.isNaN then nan
  else if left.isInfinite then
    if right.isInfinite && left.negative != right.negative then nan else left
  else if right.isInfinite then right
  else
    let sum := left.scaled + right.scaled
    if sum = 0 then ⟨left.negative && right.negative, 0⟩
    else ofFraction (sum < 0) sum.natAbs (1 <<< 1074)

instance : Add Binary64 := ⟨add⟩
instance : Sub Binary64 := ⟨fun left right => left + -right⟩

def mul (left right : Binary64) : Binary64 :=
  let negative := left.negative != right.negative
  if left.isNaN || right.isNaN then nan
  else if left.isInfinite || right.isInfinite then
    if left.isZero || right.isZero then nan else infinity negative
  else
    ofFraction negative (left.fraction.1 * right.fraction.1) (left.fraction.2 * right.fraction.2)

instance : Mul Binary64 := ⟨mul⟩

def div (left right : Binary64) : Binary64 :=
  let negative := left.negative != right.negative
  if left.isNaN || right.isNaN then nan
  else if left.isInfinite then if right.isInfinite then nan else infinity negative
  else if right.isInfinite then ⟨negative, 0⟩
  else if right.isZero then if left.isZero then nan else infinity negative
  else
    ofFraction negative (left.fraction.1 * right.fraction.2) (left.fraction.2 * right.fraction.1)

instance : Div Binary64 := ⟨div⟩

/-- A finite double without a fractional part. -/
def isWhole (value : Binary64) : Bool :=
  value.isFinite && value.fraction.1 % value.fraction.2 == 0

end Binary64
end FeedDesk
