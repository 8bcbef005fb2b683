import FeedDesk.Number.Decimal
import FeedDesk.Number.Mean
import FeedDesk.Proofs.Number.Least
import FeedDesk.Proofs.Number.Numbers

namespace FeedDesk
namespace Binary64

/-!
# Means and rounded prices are finite

Values are added up one by one, and only this sum may leave the range of the
numbers.  Where it stays finite, nothing that follows leaves the range again: a
count is at least one, and so the mean is not above the sum; and a number that
is rounded to two places is kept if it is large, and small otherwise.
-/

variable {value : Binary64} {numerator denominator : Nat}

/-! ## A count is at least one -/

theorem le_nearestEven {bound : Nat} (positive : 0 < denominator) (large : bound * denominator ≤ numerator) :
    bound ≤ nearestEven numerator denominator := by
  have below : bound ≤ numerator / denominator := (Nat.le_div_iff_mul_le positive).mpr large
  rw [nearestEven]
  split
  · exact below
  · split <;> omega

theorem le_units {bound : Nat} {power : Int} (positive : 0 < denominator)
    (large : bound * 2 ^ power ≤ (numerator / denominator : ℚ)) :
    bound ≤ if 0 ≤ power then nearestEven numerator (denominator <<< power.toNat)
      else nearestEven (numerator <<< (-power).toNat) denominator := by
  have divisor : (0 : ℚ) < denominator := Nat.cast_pos.mpr positive
  rw [zpow_eq_div (by norm_num), mul_div_assoc', div_le_div_iff₀ (by positivity) divisor] at large
  split
  · rename_i whole
    rw [Int.toNat_of_nonpos (Int.neg_nonpos_of_nonneg whole), pow_zero, mul_one, mul_assoc,
      mul_comm ((2 : ℚ) ^ _)] at large
    rw [Nat.shiftLeft_eq]
    apply le_nearestEven (by positivity)
    exact_mod_cast large
  · rename_i negative
    rw [Int.toNat_of_nonpos (Int.le_of_not_le negative), pow_zero, mul_one] at large
    rw [Nat.shiftLeft_eq]
    apply le_nearestEven positive
    exact_mod_cast large

/-- The power of two that a fraction is rounded to a multiple of. -/
def unitPower (numerator denominator : Nat) : Int :=
  max (floorLog numerator denominator - 52) (-1074)

/-- How many of these units there are in the rounded fraction. -/
def unitCount (numerator denominator : Nat) : Nat :=
  if 0 ≤ unitPower numerator denominator then
    nearestEven numerator (denominator <<< (unitPower numerator denominator).toNat)
  else nearestEven (numerator <<< (-unitPower numerator denominator).toNat) denominator

theorem ofFraction_eq (negative : Bool) (nonzero : numerator ≠ 0) :
    ofFraction negative numerator denominator =
      ⟨negative, min ((unitPower numerator denominator + 1074).toNat * leadingBit +
        unitCount numerator denominator) infinityWord⟩ := by
  rw [ofFraction, if_neg nonzero]
  rfl

theorem magnitude_ofFraction {negative : Bool} (nonzero : numerator ≠ 0)
    (finite : (ofFraction negative numerator denominator).isFinite = true) :
    (ofFraction negative numerator denominator).magnitude =
      (unitPower numerator denominator + 1074).toNat * leadingBit + unitCount numerator denominator := by
  have word := of_decide_eq_true finite
  rw [ofFraction_eq negative nonzero] at word ⊢
  exact Nat.min_eq_left (Nat.le_of_not_le (inf_lt_right.mp word))

/-- Apart from the least unit, a unit is taken at least 2 ^ 52 times. -/
theorem leadingBit_le_unitCount (nonzero : numerator ≠ 0) (positive : 0 < denominator)
    (power : unitPower numerator denominator = floorLog numerator denominator - 52) :
    leadingBit ≤ unitCount numerator denominator := by
  have joined : (leadingBit : ℚ) * 2 ^ unitPower numerator denominator = 2 ^ floorLog numerator denominator := by
    have bit : (leadingBit : ℚ) = 2 ^ (52 : Int) := by
      rw [leadingBit]
      norm_num
    rw [power, bit, ← zpow_add₀ (by norm_num), add_sub_cancel]
  have units : (leadingBit : ℚ) * 2 ^ unitPower numerator denominator ≤ numerator / denominator := by
    rw [joined]
    exact (floorLog_bounds nonzero positive).1
  exact le_units positive units

/-- The magnitude word of one. -/
def oneWord : Nat := 1023 * leadingBit

theorem atLeastOne_of_oneWord_le (finite : value.isFinite = true) (large : oneWord ≤ value.magnitude) :
    value.AtLeastOne where
  finite := finite
  nonzero := by
    rw [oneWord, leadingBit] at large
    exact beq_eq_false_iff_ne.mpr (by omega)
  bound := by
    rw [oneWord] at large
    have normal : ¬value.magnitude < leadingBit := by
      rw [leadingBit] at large ⊢
      omega
    have digits : leadingBit ≤ value.significand := by
      rw [significand, if_neg normal]
      exact Nat.le_add_right _ _
    have range : -52 ≤ value.exponent := by
      rw [exponent, if_neg normal]
      rw [leadingBit] at large ⊢
      omega
    rw [fraction]
    split
    · dsimp only
      rw [Nat.shiftLeft_eq]
      have unit : 0 < 2 ^ value.exponent.toNat := by positivity
      exact Nat.mul_pos (Nat.lt_of_lt_of_le (by decide) digits) unit
    · dsimp only
      rw [Nat.shiftLeft_eq, Nat.one_mul]
      have places : (-value.exponent).toNat ≤ 52 := by omega
      exact (Nat.pow_le_pow_right (by decide) places).trans digits

theorem oneWord_le_ofNat {count : Nat} (positive : 0 < count) (finite : (ofNat count).isFinite = true) :
    oneWord ≤ (ofNat count).magnitude := by
  have high := (floorLog_bounds positive.ne' Nat.one_pos).2
  have size : 0 ≤ floorLog count 1 := by
    have one : (2 : ℚ) ^ (0 : Int) < 2 ^ (floorLog count 1 + 1) := by
      refine lt_of_le_of_lt ?_ high
      rw [zpow_zero, Nat.cast_one, div_one]
      exact_mod_cast positive
    have order := (zpow_lt_zpow_iff_right₀ (by norm_num)).mp one
    omega
  have power : unitPower count 1 = floorLog count 1 - 52 := by
    rw [unitPower]
    omega
  have whole := leadingBit_le_unitCount positive.ne' Nat.one_pos power
  rw [ofNat, magnitude_ofFraction positive.ne' finite, power, oneWord, leadingBit]
  rw [leadingBit] at whole
  omega

/-- A number can be divided by any count, as the counts beyond all numbers give zero. -/
theorem isFinite_div_ofNat {count : Nat} (finite : value.isFinite = true) (positive : 0 < count) :
    (value / ofNat count).isFinite = true := by
  by_cases bounded : (ofNat count).isFinite = true
  · exact isFinite_div finite (atLeastOne_of_oneWord_le bounded (oneWord_le_ofNat positive bounded))
  -- A count beyond the numbers is infinite.
  · have number : (ofNat count).isNaN = false := isNaN_ofFraction _ _ _
    have infinite : (ofNat count).isInfinite = true := by
      by_contra other
      exact bounded (isFinite_of_bounded number (Bool.eq_false_iff.mpr other))
    change (div value (ofNat count)).isFinite = true
    rw [div, isNaN_of_isFinite finite, number, isInfinite_of_isFinite finite, infinite]
    rfl

/-! ## The mean -/

/-- The sum of which the mean is taken. -/
def sum (values : List Binary64) : Binary64 :=
  (values.foldl RunningSum.add RunningSum.start).result

/-- Values of a finite sum have a mean. -/
theorem exists_mean? {values : List Binary64} (nonempty : values ≠ []) (finite : (sum values).isFinite = true) :
    ∃ mean, mean? values = some mean ∧ mean.isFinite = true := by
  have quotient := isFinite_div_ofNat finite (List.length_pos_of_ne_nil nonempty)
  refine ⟨_, ?_, quotient⟩
  rw [mean?, if_neg (mt List.isEmpty_iff.mp nonempty)]
  dsimp only
  rw [← sum, isNaN_of_isFinite quotient]
  rfl

/-! ## The greatest value -/

/-- What is chosen step by step is one of the values. -/
theorem foldl_mem_of_choice {choose : Binary64 → Binary64 → Binary64}
    (either : ∀ first second, choose first second = first ∨ choose first second = second)
    (start : Binary64) (values : List Binary64) : values.foldl choose start ∈ start :: values := by
  induction values generalizing start with
  | nil => exact List.mem_singleton_self start
  | cons other values inductionHypothesis =>
      have later := inductionHypothesis (choose start other)
      rw [List.foldl_cons]
      rcases List.mem_cons.mp later with chosen | behind
      · rw [chosen]
        rcases either start other with same | same
        · rw [same]
          exact List.mem_cons_self
        · rw [same]
          exact List.mem_cons_of_mem start List.mem_cons_self
      · exact List.mem_cons_of_mem start (List.mem_cons_of_mem other behind)

theorem exists_greatest? {values : List Binary64} (nonempty : values ≠ []) :
    ∃ greatest ∈ values, greatest? values = some greatest := by
  cases values with
  | nil => exact absurd rfl nonempty
  | cons value values =>
      refine ⟨_, foldl_mem_of_choice (fun first second => ?_) value values, rfl⟩
      split
      · exact Or.inr rfl
      · exact Or.inl rfl

/-! ## Two places -/

theorem fraction_le_of_abs_le (finite : value.isFinite = true) (small : value.abs.le (ofNat leadingBit) = true) :
    value.fraction.1 ≤ 2 ^ 53 := by
  have limit : (ofNat leadingBit).isFinite = true ∧ (ofNat leadingBit).position = 1075 * leadingBit := by
    decide +kernel
  have absolute : value.abs.isFinite = true := finite
  have order := (le_iff absolute limit.1).mp small
  rw [limit.2] at order
  have word : value.magnitude ≤ 1075 * leadingBit := by
    change ((value.magnitude : Int) ≤ _) at order
    exact_mod_cast order
  have digits : value.significand ≤ 2 ^ 53 := by
    rw [significand, leadingBit]
    split <;> omega
  have range : value.exponent ≤ 0 := by
    rw [exponent]
    rw [leadingBit] at word ⊢
    split <;> omega
  rw [fraction]
  split
  · have none : value.exponent = 0 := by omega
    dsimp only
    rw [none, Int.toNat_zero, Nat.shiftLeft_zero]
    exact digits
  · exact digits

theorem isFinite_roundHundredths (finite : value.isFinite = true) : value.roundHundredths.isFinite = true := by
  rw [roundHundredths]
  split
  · exact finite
  · rename_i inside
    rw [Bool.or_eq_true, not_or, Bool.not_eq_true', Bool.not_eq_false] at inside
    split
    · rfl
    · have numerator := fraction_le_of_abs_le finite inside.2
      have denominator := value.fraction_pos
      refine isFinite_ofFraction _ (by decide) ?_
      have quotient : (2 * value.fraction.1 * 100 + value.fraction.2) / (2 * value.fraction.2) ≤
          200 * value.fraction.1 + 1 := by
        apply Nat.div_le_of_le_mul
        have once := Nat.le_mul_of_pos_left (200 * value.fraction.1) denominator
        rw [Nat.mul_add, Nat.mul_assoc 2 value.fraction.2]
        omega
      have reach : 200 * 2 ^ 53 + 1 ≤ largest * 100 := by decide +kernel
      exact quotient.trans (by omega)

end Binary64
end FeedDesk
