import FeedDesk.Number.Binary64
import Mathlib.Algebra.Order.Field.Power
import Mathlib.Data.Rat.Cast.Order
import Mathlib.Tactic.NormNum
import Mathlib.Tactic.Positivity

namespace FeedDesk
namespace Binary64

/-!
# Rounding stays below infinity

A fraction is rounded to a whole number of units, and the unit is a power of
two that is chosen by the size of the fraction.  The choice is described here
over the rational numbers, where a power of two may have any exponent.  From it
follows that a fraction that is not above the largest finite double is never
rounded up to infinity: only in the topmost range could the whole number of
units spill over, and there the fraction itself leaves no room for that.
-/

/-- The largest finite double. -/
def largest : Nat := (2 ^ 53 - 1) * 2 ^ 971

theorem isNaN_of_isFinite {value : Binary64} (finite : value.isFinite = true) : value.isNaN = false :=
  decide_eq_false (Nat.lt_asymm (of_decide_eq_true finite))

theorem isInfinite_of_isFinite {value : Binary64} (finite : value.isFinite = true) : value.isInfinite = false :=
  beq_eq_false_iff_ne.mpr (Nat.ne_of_lt (of_decide_eq_true finite))

theorem isFinite_of_bounded {value : Binary64} (number : value.isNaN = false)
    (bounded : value.isInfinite = false) : value.isFinite = true := by
  have notAbove : value.magnitude ≤ infinityWord := Nat.not_lt.mp (of_decide_eq_false number)
  have different : value.magnitude ≠ infinityWord := beq_eq_false_iff_ne.mp bounded
  exact decide_eq_true (Nat.lt_of_le_of_ne notAbove different)

variable {numerator denominator : Nat}

theorem nearestEven_le {bound : Nat} (positive : 0 < denominator) (small : numerator ≤ bound * denominator) :
    nearestEven numerator denominator ≤ bound := by
  have below : numerator / denominator ≤ bound := Nat.div_le_of_le_mul (Nat.mul_comm bound _ ▸ small)
  have parts := Nat.div_add_mod numerator denominator
  rcases Nat.lt_or_eq_of_le below with less | same
  · have parity : numerator / denominator % 2 ≤ 1 := by omega
    rw [nearestEven]
    split
    · exact below
    · split <;> omega
  · -- The quotient is the bound itself, so that nothing is left over to round.
    have exact : numerator % denominator = 0 := by
      rw [same, Nat.mul_comm] at parts
      omega
    rw [nearestEven]
    rw [exact, if_pos (by omega)]
    exact below

/-! ## The size of a fraction -/

/-- A power of any exponent as a quotient of whole ones, of which one is trivial. -/
theorem zpow_eq_div {base : ℚ} (nonzero : base ≠ 0) (exponent : Int) :
    base ^ exponent = base ^ exponent.toNat / base ^ (-exponent).toNat := by
  rw [← zpow_natCast, ← zpow_natCast, ← zpow_sub₀ nonzero, Int.toNat_sub_toNat_neg]

/-- A power of two, of any exponent, against a fraction. -/
theorem power_le_iff (numerator : Nat) (positive : 0 < denominator) (exponent : Int) :
    (if 0 ≤ exponent then denominator <<< exponent.toNat ≤ numerator
      else denominator ≤ numerator <<< (-exponent).toNat) ↔
      (2 : ℚ) ^ exponent ≤ numerator / denominator := by
  have divisor : (0 : ℚ) < denominator := Nat.cast_pos.mpr positive
  rw [zpow_eq_div (by norm_num), div_le_div_iff₀ (by positivity) divisor]
  split
  · rename_i whole
    rw [Int.toNat_of_nonpos (Int.neg_nonpos_of_nonneg whole), pow_zero, mul_one, mul_comm, Nat.shiftLeft_eq]
    exact_mod_cast Iff.rfl
  · rename_i negative
    rw [Int.toNat_of_nonpos (Int.le_of_not_le negative), pow_zero, one_mul, Nat.shiftLeft_eq]
    exact_mod_cast Iff.rfl

/-- The fraction lies between the power of two that is found and the next one. -/
theorem floorLog_bounds (nonzero : numerator ≠ 0) (positive : 0 < denominator) :
    (2 : ℚ) ^ floorLog numerator denominator ≤ numerator / denominator ∧
      (numerator / denominator : ℚ) < 2 ^ (floorLog numerator denominator + 1) := by
  have divisor : (0 : ℚ) < denominator := Nat.cast_pos.mpr positive
  have two : (2 : ℚ) ≠ 0 := by norm_num
  have numeratorLow : (2 : ℚ) ^ numerator.log2 ≤ numerator := by exact_mod_cast Nat.log2_self_le nonzero
  have numeratorHigh : (numerator : ℚ) < 2 ^ (numerator.log2 + 1) := by exact_mod_cast Nat.lt_log2_self
  have denominatorLow : (2 : ℚ) ^ denominator.log2 ≤ denominator := by
    exact_mod_cast Nat.log2_self_le positive.ne'
  have denominatorHigh : (denominator : ℚ) < 2 ^ (denominator.log2 + 1) := by exact_mod_cast Nat.lt_log2_self
  have above : (numerator / denominator : ℚ) < 2 ^ ((numerator.log2 : Int) - denominator.log2 + 1) := by
    rw [div_lt_iff₀ divisor, sub_add_eq_add_sub, zpow_sub₀ two, div_mul_eq_mul_div,
      lt_div_iff₀ (by positivity)]
    have high : (2 : ℚ) ^ ((numerator.log2 : Int) + 1) = 2 ^ (numerator.log2 + 1) := by exact_mod_cast rfl
    rw [high, zpow_natCast]
    calc (numerator : ℚ) * 2 ^ denominator.log2
        ≤ numerator * denominator := by gcongr
      _ < 2 ^ (numerator.log2 + 1) * denominator := by gcongr
  have beneath : (2 : ℚ) ^ ((numerator.log2 : Int) - denominator.log2 - 1) ≤ numerator / denominator := by
    rw [le_div_iff₀ divisor, sub_sub, zpow_sub₀ two, div_mul_eq_mul_div, div_le_iff₀ (by positivity)]
    have high : (2 : ℚ) ^ ((denominator.log2 : Int) + 1) = 2 ^ (denominator.log2 + 1) := by exact_mod_cast rfl
    rw [high, zpow_natCast]
    gcongr
  have choice := power_le_iff numerator positive ((numerator.log2 : Int) - denominator.log2)
  rw [floorLog]
  by_cases reached : (2 : ℚ) ^ ((numerator.log2 : Int) - denominator.log2) ≤ numerator / denominator
  · rw [if_pos (choice.mpr reached)]
    exact ⟨reached, above⟩
  · rw [if_neg (mt choice.mp reached)]
    refine ⟨beneath, ?_⟩
    rw [sub_add_cancel]
    exact not_le.mp reached

/-! ## The whole number of units -/

theorem units_le {bound : Nat} {power : Int} (positive : 0 < denominator)
    (small : (numerator / denominator : ℚ) ≤ bound * 2 ^ power) :
    (if 0 ≤ power then nearestEven numerator (denominator <<< power.toNat)
      else nearestEven (numerator <<< (-power).toNat) denominator) ≤ bound := by
  have divisor : (0 : ℚ) < denominator := Nat.cast_pos.mpr positive
  rw [zpow_eq_div (by norm_num), mul_div_assoc', div_le_div_iff₀ divisor (by positivity)] at small
  split
  · rename_i whole
    rw [Int.toNat_of_nonpos (Int.neg_nonpos_of_nonneg whole), pow_zero, mul_one, mul_assoc,
      mul_comm ((2 : ℚ) ^ _)] at small
    rw [Nat.shiftLeft_eq]
    exact nearestEven_le (by positivity) (by exact_mod_cast small)
  · rename_i negative
    rw [Int.toNat_of_nonpos (Int.le_of_not_le negative), pow_zero, mul_one] at small
    rw [Nat.shiftLeft_eq]
    exact nearestEven_le positive (by exact_mod_cast small)

/-- A fraction that is not above the largest finite double is rounded to a finite one. -/
theorem isFinite_ofFraction (negative : Bool) (positive : 0 < denominator)
    (small : numerator ≤ largest * denominator) : (ofFraction negative numerator denominator).isFinite = true := by
  rw [ofFraction]
  split
  · rfl
  · rename_i nonzero
    obtain ⟨low, high⟩ := floorLog_bounds nonzero positive
    have divisor : (0 : ℚ) < denominator := Nat.cast_pos.mpr positive
    have bounded : (numerator / denominator : ℚ) ≤ (2 ^ 53 - 1 : Nat) * 2 ^ (971 : Int) := by
      rw [div_le_iff₀ divisor]
      exact_mod_cast small
    have size : floorLog numerator denominator < 1024 := by
      have topmost : ((2 ^ 53 - 1 : Nat) : ℚ) * 2 ^ (971 : Int) < 2 ^ ((53 : Int) + 971) := by
        rw [zpow_add₀ (by norm_num)]
        exact mul_lt_mul_of_pos_right (by norm_num) (by positivity)
      have below : (2 : ℚ) ^ floorLog numerator denominator < 2 ^ (1024 : Int) :=
        lt_of_le_of_lt (low.trans bounded) topmost
      exact (zpow_lt_zpow_iff_right₀ (by norm_num)).mp below
    have units : (numerator / denominator : ℚ) ≤
        (2 ^ 53 : Nat) * 2 ^ max (floorLog numerator denominator - 52) (-1074) := by
      have joined : ((2 ^ 53 : Nat) : ℚ) * 2 ^ max (floorLog numerator denominator - 52) (-1074) =
          2 ^ (53 + max (floorLog numerator denominator - 52) (-1074)) := by
        rw [zpow_add₀ (by norm_num)]
        norm_num
      rw [joined]
      exact high.le.trans (zpow_le_zpow_right₀ (by norm_num) (by omega))
    refine decide_eq_true (lt_of_le_of_lt (Nat.min_le_left _ _) ?_)
    rcases Int.lt_or_le (max (floorLog numerator denominator - 52) (-1074)) 971 with inside | topmost
    · have count := units_le positive units
      rw [infinityWord, leadingBit]
      omega
    · have top : max (floorLog numerator denominator - 52) (-1074) = 971 := by omega
      rw [top]
      have count := units_le positive bounded
      rw [infinityWord, leadingBit]
      omega

/-! ## Dividing by at least one -/

theorem fraction_pos (value : Binary64) : 0 < value.fraction.2 := by
  rw [fraction]
  split
  · exact Nat.one_pos
  · rw [Nat.shiftLeft_eq]
    positivity

theorem fraction_le_largest {value : Binary64} (finite : value.isFinite = true) :
    value.fraction.1 ≤ largest * value.fraction.2 := by
  have word : value.magnitude < infinityWord := of_decide_eq_true finite
  have digits : value.significand ≤ 2 ^ 53 - 1 := by
    rw [significand, leadingBit]
    split <;> omega
  have range : value.exponent ≤ 971 := by
    rw [exponent]
    rw [infinityWord, leadingBit] at word
    rw [leadingBit]
    split <;> omega
  rw [fraction, largest]
  split
  · dsimp only
    rw [Nat.shiftLeft_eq, Nat.mul_one]
    have places : value.exponent.toNat ≤ 971 := by omega
    exact Nat.mul_le_mul digits (pow_le_pow_right₀ one_le_two places)
  · dsimp only
    rw [Nat.shiftLeft_eq, mul_assoc, Nat.one_mul]
    have power : 0 < 2 ^ 971 := pow_pos two_pos 971
    have unit : 0 < 2 ^ (-value.exponent).toNat := pow_pos two_pos _
    exact digits.trans (Nat.le_mul_of_pos_right (2 ^ 53 - 1) (Nat.mul_pos power unit))

/-- A number that is at least one. -/
structure AtLeastOne (value : Binary64) : Prop where
  finite : value.isFinite = true
  nonzero : value.isZero = false
  bound : value.fraction.2 ≤ value.fraction.1

theorem isFinite_div {left right : Binary64} (finite : left.isFinite = true) (divisor : right.AtLeastOne) :
    (left / right).isFinite = true := by
  change (div left right).isFinite = true
  rw [div, isNaN_of_isFinite finite, isNaN_of_isFinite divisor.finite, isInfinite_of_isFinite finite,
    isInfinite_of_isFinite divisor.finite, divisor.nonzero]
  have one := divisor.bound
  have positive := Nat.lt_of_lt_of_le right.fraction_pos one
  refine isFinite_ofFraction _ (Nat.mul_pos left.fraction_pos positive) ?_
  rw [← mul_assoc]
  exact Nat.mul_le_mul (fraction_le_largest finite) one

end Binary64
end FeedDesk
