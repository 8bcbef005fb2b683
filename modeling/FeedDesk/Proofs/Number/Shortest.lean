import FeedDesk.Proofs.Number.Neighbours
import Mathlib.Tactic.Linarith
import Mathlib.Tactic.Ring

namespace FeedDesk
namespace Decimal

/-!
# The shortest decimal rounds to its double

The decimals of one exponent form a grid.  A double lies between two neighbours
of the grid, and one of them rounds to it if the grid is finer than the interval
of the double is wide.  With seventeen digits the grid is as fine as that: the
interval is wide against the double, which has no more than 53 binary digits.  So
the search for the shortest decimal finds one, and what it finds rounds to the
double.
-/

namespace Interval

variable {interval : Interval} {exponent : Int}

/-- The double that the interval belongs to. -/
def middle (interval : Interval) : ℚ :=
  interval.value / interval.denominator

/-- The digits of the last decimal on a grid that is not above the double. -/
def digitsBelow (interval : Interval) (exponent : Int) : Nat :=
  interval.value * Nat.pow 10 (-exponent).toNat / (Nat.pow 10 exponent.toNat * interval.denominator)

theorem holds_of_between {number : ℚ} (low : interval.lowEnd < number) (high : number < interval.highEnd) :
    interval.Holds number := by
  unfold Holds
  split
  · exact ⟨low.le, high.le⟩
  · exact ⟨low, high⟩

/-- Grid decimals around the double. -/
theorem digitsBelow_bounds (positive : 0 < interval.denominator) (exponent : Int) :
    Decimal.value ⟨interval.digitsBelow exponent, exponent⟩ ≤ interval.middle ∧
      interval.middle < Decimal.value ⟨interval.digitsBelow exponent + 1, exponent⟩ := by
  have divisor : (0 : ℚ) < interval.denominator := Nat.cast_pos.mpr positive
  have down : (0 : ℚ) < 10 ^ (-exponent).toNat := by positivity
  have step : 0 < Nat.pow 10 exponent.toNat * interval.denominator :=
    Nat.mul_pos (Nat.pow_pos (by decide)) positive
  have below := Nat.div_mul_le_self (interval.value * Nat.pow 10 (-exponent).toNat)
    (Nat.pow 10 exponent.toNat * interval.denominator)
  have above := Nat.lt_mul_of_div_lt (Nat.lt_succ_self (interval.value * Nat.pow 10 (-exponent).toNat /
    (Nat.pow 10 exponent.toNat * interval.denominator))) step
  unfold Decimal.value middle digitsBelow
  rw [Binary64.zpow_eq_div (by norm_num), mul_div_assoc', mul_div_assoc', div_le_div_iff₀ down divisor,
    div_lt_div_iff₀ divisor down, mul_assoc, mul_assoc]
  exact ⟨by exact_mod_cast below, by exact_mod_cast above⟩

theorem contains_of_onGrid {rule : TieRule} {decimal : Decimal} (found : interval.onGrid rule exponent = some decimal) :
    interval.contains decimal.digits decimal.exponent = true := by
  unfold onGrid at found
  dsimp only at found
  split at found
  · rename_i lower
    cases found
    exact (Bool.and_eq_true_iff.mp lower).1
  · split at found
    · rename_i upper
      cases found
      exact upper
    · cases found

theorem not_contains_of_onGrid {rule : TieRule} (none : interval.onGrid rule exponent = none) :
    interval.contains (interval.digitsBelow exponent) exponent = false ∧
      interval.contains (interval.digitsBelow exponent + 1) exponent = false := by
  unfold onGrid at none
  dsimp only at none
  split at none
  · cases none
  · rename_i lower
    split at none
    · cases none
    · rename_i upper
      have missed := Bool.eq_false_iff.mpr upper
      rw [missed, Bool.false_and, Bool.not_false, Bool.and_true] at lower
      exact ⟨Bool.eq_false_iff.mpr lower, missed⟩

/-- A grid finer than the interval has a decimal in it. -/
theorem onGrid_isSome (rule : TieRule) (positive : 0 < interval.denominator)
    (low : interval.lowEnd < interval.middle) (high : interval.middle < interval.highEnd)
    (fine : (10 : ℚ) ^ exponent < interval.highEnd - interval.lowEnd) :
    (interval.onGrid rule exponent).isSome = true := by
  rw [← Option.ne_none_iff_isSome]
  intro none
  obtain ⟨lower, upper⟩ := not_contains_of_onGrid none
  obtain ⟨below, above⟩ := digitsBelow_bounds positive exponent
  have beneath : Decimal.value ⟨interval.digitsBelow exponent, exponent⟩ ≤ interval.lowEnd := by
    by_contra within
    exact absurd ((contains_iff positive _ _).mpr (holds_of_between (not_le.mp within) (below.trans_lt high)))
      (Bool.eq_false_iff.mp lower)
  have beyond : interval.highEnd ≤ Decimal.value ⟨interval.digitsBelow exponent + 1, exponent⟩ := by
    by_contra within
    exact absurd ((contains_iff positive _ _).mpr (holds_of_between (low.trans above) (not_le.mp within)))
      (Bool.eq_false_iff.mp upper)
  have step : Decimal.value ⟨interval.digitsBelow exponent + 1, exponent⟩ =
      Decimal.value ⟨interval.digitsBelow exponent, exponent⟩ + 10 ^ exponent := by
    unfold Decimal.value
    push_cast
    ring
  linarith

end Interval

/-! ## The size of a double -/

theorem lt_pow_digitCount (number : Nat) : number < 10 ^ digitCount number :=
  (Nat.length_toDigits_le_iff (by decide) (List.length_pos_iff.mpr Nat.toDigits_ne_nil)).mp le_rfl

theorem pow_digitCount_le {number : Nat} (positive : 0 < number) : 10 ^ (digitCount number - 1) ≤ number := by
  by_contra small
  rcases Nat.eq_zero_or_pos (digitCount number - 1) with one | more
  · rw [one] at small
    omega
  · have short := (Nat.length_toDigits_le_iff (by decide) more).mpr (not_le.mp small)
    change digitCount number ≤ digitCount number - 1 at short
    omega

variable {numerator denominator : Nat}

theorem lt_power_iff (numerator : Nat) (positive : 0 < denominator) (exponent : Int) :
    (if 0 ≤ exponent then numerator < denominator * Nat.pow 10 exponent.toNat
      else numerator * Nat.pow 10 (-exponent).toNat < denominator) ↔
      (numerator / denominator : ℚ) < 10 ^ exponent := by
  have divisor : (0 : ℚ) < denominator := Nat.cast_pos.mpr positive
  rw [Binary64.zpow_eq_div (by norm_num), div_lt_div_iff₀ divisor (by positivity)]
  split
  · rename_i whole
    rw [Int.toNat_of_nonpos (Int.neg_nonpos_of_nonneg whole), pow_zero, mul_one, mul_comm (10 ^ _)]
    exact_mod_cast Iff.rfl
  · rename_i negative
    rw [Int.toNat_of_nonpos (Int.le_of_not_le negative), pow_zero, one_mul]
    exact_mod_cast Iff.rfl

/-- A power of ten below the one that is found is not above the quotient. -/
theorem power_le_of_decimalTop (nonzero : 0 < numerator) (positive : 0 < denominator) :
    (10 : ℚ) ^ (decimalTop numerator denominator - 1) ≤ numerator / denominator := by
  have divisor : (0 : ℚ) < denominator := Nat.cast_pos.mpr positive
  have choice := lt_power_iff numerator positive
    ((digitCount numerator : Int) - digitCount denominator)
  unfold decimalTop
  dsimp only
  by_cases above : (numerator / denominator : ℚ) < 10 ^ ((digitCount numerator : Int) - digitCount denominator)
  · rw [if_pos (choice.mpr above)]
    have count : 0 < digitCount numerator := List.length_pos_iff.mpr Nat.toDigits_ne_nil
    have exponents : (digitCount numerator : Int) - digitCount denominator - 1 =
        (digitCount numerator - 1 : Nat) - (digitCount denominator : Nat) := by omega
    rw [exponents, zpow_sub₀ (by norm_num), zpow_natCast, zpow_natCast]
    have top : (10 : ℚ) ^ (digitCount numerator - 1) ≤ numerator := by exact_mod_cast pow_digitCount_le nonzero
    have bottom : (denominator : ℚ) ≤ 10 ^ digitCount denominator := by
      exact_mod_cast (lt_pow_digitCount denominator).le
    gcongr
  · rw [if_neg (mt choice.mp above), add_sub_cancel_right]
    exact not_lt.mp above

/-! ## The search -/

variable {number : Binary64}

theorem middle_intervalOf (number : Binary64) :
    (intervalOf number).middle = (4 * number.significand : Nat) * 2 ^ (number.exponent - 2) := by
  rw [← scale_div_denominator, ← mul_div_assoc, Interval.middle]
  exact_mod_cast rfl

theorem significand_pos (nonzero : number.isZero = false) : 0 < number.significand := by
  have magnitude : number.magnitude ≠ 0 := beq_eq_false_iff_ne.mp nonzero
  unfold Binary64.significand Binary64.leadingBit
  split <;> omega

/-- Seventeen digits tell a double from its neighbours. -/
theorem fine_of_seventeen (nonzero : number.isZero = false) :
    (10 : ℚ) ^ (decimalTop (intervalOf number).value (intervalOf number).denominator - 1 - (16 : Nat)) <
      (intervalOf number).highEnd - (intervalOf number).lowEnd := by
  have significant := significand_pos nonzero
  have unit : (0 : ℚ) < 2 ^ (number.exponent - 2) := by positivity
  have size : number.significand < 2 * Binary64.leadingBit := by
    unfold Binary64.significand Binary64.leadingBit
    split <;> omega
  have wide : 4 * number.significand + lowered number * 10 ^ 16 < (4 * number.significand + 2) * 10 ^ 16 := by
    unfold lowered Binary64.leadingBit at *
    split <;> omega
  have value : 0 < (intervalOf number).value := by
    have positive : (0 : ℚ) < (intervalOf number).middle := by
      rw [middle_intervalOf]
      positivity
    rw [Interval.middle] at positive
    exact Nat.cast_pos.mp ((div_pos_iff_of_pos_right (Nat.cast_pos.mpr (denominator_pos number))).mp positive)
  have reach := power_le_of_decimalTop value (denominator_pos number)
  rw [zpow_sub₀ (by norm_num), div_lt_iff₀ (by positivity), zpow_natCast]
  refine reach.trans_lt ?_
  change (intervalOf number).middle < _
  rw [middle_intervalOf, highEnd_intervalOf, lowEnd_intervalOf, ← sub_mul, mul_right_comm]
  refine mul_lt_mul_of_pos_right ?_ unit
  rw [sub_mul, lt_sub_iff_add_lt]
  exact_mod_cast wide

theorem value_stripZeros (fuel : Nat) (decimal : Decimal) : (stripZeros fuel decimal).value = decimal.value := by
  induction fuel generalizing decimal with
  | zero => rfl
  | succ fuel inductionHypothesis =>
      rw [stripZeros]
      split
      · rename_i round
        have digits : (decimal.digits : ℚ) = (decimal.digits / 10 : Nat) * 10 := by
          exact_mod_cast (Nat.div_mul_cancel (Nat.dvd_of_mod_eq_zero round)).symm
        rw [inductionHypothesis, value, value, digits, zpow_add_one₀ (by norm_num)]
        ring
      · rfl

theorem holds_shortest (rule : TieRule) (nonzero : number.isZero = false) :
    (intervalOf number).Holds (shortest rule number).value := by
  have significant := significand_pos nonzero
  have low : (intervalOf number).lowEnd < (intervalOf number).middle := by
    have less : lowered number < 4 * number.significand := by
      unfold lowered
      split <;> omega
    rw [lowEnd_intervalOf, middle_intervalOf]
    gcongr
  have high : (intervalOf number).middle < (intervalOf number).highEnd := by
    rw [middle_intervalOf, highEnd_intervalOf]
    gcongr
    omega
  have last := Interval.onGrid_isSome rule (denominator_pos number) low high (fine_of_seventeen nonzero)
  obtain ⟨decimal, found⟩ : ∃ decimal, (List.range 17).findSome? (fun (extra : Nat) => (intervalOf number).onGrid rule
      (decimalTop (intervalOf number).value (intervalOf number).denominator - 1 - (extra : Int))) = some decimal :=
    Option.isSome_iff_exists.mp
      (List.findSome?_isSome_iff.mpr ⟨16, List.mem_range.mpr (Nat.lt_succ_self 16), last⟩)
  obtain ⟨extra, _, grid⟩ := List.exists_of_findSome?_eq_some found
  unfold shortest
  dsimp only
  rw [value_stripZeros, found, Option.getD_some]
  exact (Interval.contains_iff (denominator_pos number) _ _).mp (Interval.contains_of_onGrid grid)

end Decimal
end FeedDesk
