import FeedDesk.Proofs.Number.Mean
import Mathlib.Tactic.Ring

namespace FeedDesk
namespace Binary64

/-!
# Sums of small numbers are finite

A sum is kept in two parts, the running total and what the additions have lost
to rounding.  The bounds of both are counted in one unit, a power of two: as
long as the count stays below two to the 53, a multiple of the unit needs no
rounding, and so rounding never passes it.  With every value the total may grow
by one unit, and the lost part by twice the total and a little more.  The count
thus grows with the square of the number of values, which leaves room for more
than sixty million of them.
-/

variable {places bound other : Nat} {value left right : Binary64}

/-- The absolute value, as a multiple of the least positive number. -/
def size (value : Binary64) : Nat :=
  value.scaled.natAbs

theorem size_eq (value : Binary64) : value.size = value.significand * 2 ^ (value.exponent + 1074).toNat := by
  rw [size, scaled, Nat.shiftLeft_eq]
  split
  · rw [Int.natAbs_neg, Int.natAbs_natCast]
  · rw [Int.natAbs_natCast]

theorem size_of_zero (none : value.magnitude = 0) : value.size = 0 := by
  rw [size_eq, significand, none, if_pos (by decide), Nat.zero_mul]

/-- The number is finite, and its absolute value is not above so many units. -/
structure Within (places bound : Nat) (value : Binary64) : Prop where
  finite : value.isFinite = true
  size : value.size ≤ bound * 2 ^ places

/-! ## The value of a rounded fraction -/

/-- A word that is put together from a power of two and a count stands for their product. -/
theorem size_of_magnitude {power count : Nat} (word : value.magnitude = power * leadingBit + count)
    (most : count ≤ 2 * leadingBit) (normal : power = 0 ∨ leadingBit ≤ count) :
    value.size = count * 2 ^ power := by
  rw [size_eq, significand, exponent, word]
  rcases Nat.lt_or_ge count leadingBit with low | high
  · have none : power = 0 := normal.resolve_right (Nat.not_le.mpr low)
    rw [none, Nat.zero_mul, Nat.zero_add, if_pos low, if_pos low]
    rfl
  · have above : ¬power * leadingBit + count < leadingBit := by omega
    rw [if_neg above, if_neg above]
    rcases Nat.lt_or_eq_of_le most with inside | whole
    · have parts : power * leadingBit + count = (power + 1) * leadingBit + (count - leadingBit) := by
        rw [Nat.succ_mul]
        omega
      have remainder : count - leadingBit < leadingBit := by omega
      have quotient : (power * leadingBit + count) / leadingBit = power + 1 := by
        rw [parts, Nat.mul_comm, Nat.mul_add_div (by decide), Nat.div_eq_of_lt remainder, Nat.add_zero]
      have rest : (power * leadingBit + count) % leadingBit = count - leadingBit := by
        rw [parts, Nat.mul_comm, Nat.mul_add_mod, Nat.mod_eq_of_lt remainder]
      have scale : (((power + 1 : Nat) : Int) - 1075 + 1074).toNat = power := by omega
      rw [quotient, rest, scale, Nat.add_sub_cancel' high]
    -- A full count carries over into the next power, where it is the leading bit alone.
    · have parts : power * leadingBit + count = (power + 2) * leadingBit := by
        rw [whole, Nat.add_mul]
      have scale : (((power + 2 : Nat) : Int) - 1075 + 1074).toNat = power + 1 := by omega
      rw [parts, Nat.mul_mod_left, Nat.mul_div_cancel _ (by decide : 0 < leadingBit), scale, whole, Nat.pow_succ,
        Nat.add_zero, Nat.mul_comm 2 leadingBit, Nat.mul_assoc, Nat.mul_comm 2]

section Rounding

variable {numerator denominator : Nat}

/-- A rounded fraction has at most 2 ^ 53 units, and only the least unit may be
taken fewer than 2 ^ 52 times. -/
theorem unitCount_bounds (nonzero : numerator ≠ 0) (positive : 0 < denominator) :
    unitCount numerator denominator ≤ 2 * leadingBit ∧
      (unitPower numerator denominator = -1074 ∨ leadingBit ≤ unitCount numerator denominator) := by
  constructor
  · have double : 2 * leadingBit = 2 ^ 53 := by decide
    have units : (numerator / denominator : ℚ) ≤ (2 ^ 53 : Nat) * 2 ^ unitPower numerator denominator := by
      have joined : ((2 ^ 53 : Nat) : ℚ) * 2 ^ unitPower numerator denominator =
          2 ^ (53 + unitPower numerator denominator) := by
        rw [zpow_add₀ (by norm_num)]
        norm_num
      have reach : floorLog numerator denominator + 1 ≤ 53 + unitPower numerator denominator := by
        rw [unitPower]
        omega
      rw [joined]
      exact (floorLog_bounds nonzero positive).2.le.trans (zpow_le_zpow_right₀ (by norm_num) reach)
    rw [double]
    exact units_le positive units
  · by_cases least : unitPower numerator denominator = -1074
    · exact Or.inl least
    · apply Or.inr
      apply leadingBit_le_unitCount nonzero positive
      rw [unitPower] at least ⊢
      omega

variable (few : bound < 2 ^ 53)
  (small : (numerator / denominator : ℚ) ≤ bound * 2 ^ ((places : Int) - 1074))

include few small

theorem unitPower_le (nonzero : numerator ≠ 0) (positive : 0 < denominator) :
    unitPower numerator denominator ≤ (places : Int) - 1074 := by
  have count : (bound : ℚ) < 2 ^ (53 : Int) := by exact_mod_cast few
  have below : (2 : ℚ) ^ floorLog numerator denominator < 2 ^ (53 + ((places : Int) - 1074)) := by
    refine lt_of_le_of_lt ((floorLog_bounds nonzero positive).1.trans small) ?_
    rw [zpow_add₀ (by norm_num)]
    exact mul_lt_mul_of_pos_right count (by positivity)
  have order := (zpow_lt_zpow_iff_right₀ (by norm_num)).mp below
  rw [unitPower]
  omega

theorem isFinite_ofFraction_of_units (negative : Bool) (positive : 0 < denominator) (range : places ≤ 2044) :
    (ofFraction negative numerator denominator).isFinite = true := by
  have divisor : (0 : ℚ) < denominator := Nat.cast_pos.mpr positive
  have count : (bound : ℚ) ≤ 2 ^ (53 : Int) := by exact_mod_cast few.le
  have topmost : (numerator / denominator : ℚ) ≤ (2 ^ 53 - 1 : Nat) * 2 ^ (971 : Int) := by
    calc (numerator / denominator : ℚ)
        ≤ bound * 2 ^ ((places : Int) - 1074) := small
      _ ≤ 2 ^ (53 : Int) * 2 ^ (970 : Int) := by
          gcongr
          · norm_num
          · omega
      _ = 2 ^ (52 : Int) * 2 ^ (971 : Int) := by
          rw [← zpow_add₀ (by norm_num), ← zpow_add₀ (by norm_num)]
          norm_num only
      _ ≤ (2 ^ 53 - 1 : Nat) * 2 ^ (971 : Int) := by
          gcongr
          norm_num
  rw [div_le_iff₀ divisor] at topmost
  apply isFinite_ofFraction negative positive
  exact_mod_cast topmost

/-- Rounding does not pass a multiple of the unit that needs no rounding. -/
theorem within_ofFraction (negative : Bool) (positive : 0 < denominator) (range : places ≤ 2044) :
    Within places bound (ofFraction negative numerator denominator) := by
  have finite := isFinite_ofFraction_of_units few small negative positive range
  refine ⟨finite, ?_⟩
  by_cases none : numerator = 0
  · rw [size_of_zero (by rw [none, ofFraction, if_pos rfl])]
    exact Nat.zero_le _
  · rcases unitCount_bounds none positive with ⟨most, normal⟩
    have power := unitPower_le few small none positive
    rcases Int.eq_ofNat_of_zero_le (a := unitPower numerator denominator + 1074) (by rw [unitPower]; omega) with
      ⟨shift, same⟩
    have inside : shift ≤ places := by omega
    have units : (numerator / denominator : ℚ) ≤
        (bound * 2 ^ (places - shift) : Nat) * 2 ^ unitPower numerator denominator := by
      refine small.trans (le_of_eq ?_)
      rw [Nat.cast_mul, Nat.cast_pow, mul_assoc, ← zpow_natCast, Nat.cast_ofNat, ← zpow_add₀ (by norm_num)]
      congr 2
      omega
    have word := magnitude_ofFraction none finite
    rw [same, Int.toNat_natCast] at word
    rw [size_of_magnitude word most (normal.imp_left fun least => by omega)]
    calc unitCount numerator denominator * 2 ^ shift
        ≤ bound * 2 ^ (places - shift) * 2 ^ shift := Nat.mul_le_mul_right _ (units_le positive units)
      _ = bound * 2 ^ places := by rw [Nat.mul_assoc, ← Nat.pow_add, Nat.sub_add_cancel inside]

end Rounding

/-! ## Adding within bounds -/

namespace Within

theorem neg (within : Within places bound value) : Within places bound (-value) where
  finite := within.finite
  size := by
    have same : (-value).size = value.size := by
      rw [size_eq, size_eq]
      rfl
    rw [same]
    exact within.size

/-- The exact sum of two numbers as a fraction. -/
theorem quotient_le {total places bound : Nat} (small : total ≤ bound * 2 ^ places) (shift : Nat) :
    (total / (1 <<< shift : Nat) : ℚ) ≤ bound * 2 ^ ((places : Int) - shift) := by
  have unit : (0 : ℚ) < 2 ^ shift := by positivity
  rw [Nat.shiftLeft_eq, Nat.one_mul, Nat.cast_pow, Nat.cast_ofNat, div_le_iff₀ unit, mul_assoc, ← zpow_natCast,
    ← zpow_add₀ (by norm_num), sub_add_cancel, zpow_natCast]
  exact_mod_cast small

theorem add (range : places ≤ 2044) (few : bound + other < 2 ^ 53) (first : Within places bound left)
    (second : Within places other right) : Within places (bound + other) (left + right) := by
  have small : (left.scaled + right.scaled).natAbs ≤ (bound + other) * 2 ^ places := by
    rw [Nat.add_mul]
    exact (Int.natAbs_add_le _ _).trans (Nat.add_le_add first.size second.size)
  change Within places (bound + other) (Binary64.add left right)
  rw [Binary64.add, isNaN_of_isFinite first.finite, isNaN_of_isFinite second.finite,
    isInfinite_of_isFinite first.finite, isInfinite_of_isFinite second.finite]
  simp only [Bool.or_false, Bool.false_eq_true, if_false]
  split
  · exact ⟨rfl, (size_of_zero rfl).le.trans (Nat.zero_le _)⟩
  · have positive : ∀ shift, 0 < 1 <<< shift := by
      intro shift
      rw [Nat.shiftLeft_eq]
      positivity
    exact within_ofFraction few (quotient_le small 1074) _ (positive 1074) range

theorem sub (range : places ≤ 2044) (few : bound + other < 2 ^ 53) (first : Within places bound left)
    (second : Within places other right) : Within places (bound + other) (left - right) :=
  add range few first second.neg

end Within

/-! ## The running sum -/

/-- The bounds of both parts of a running sum. -/
structure RunningWithin (places total lost : Nat) (sum : RunningSum) : Prop where
  total : Within places total sum.total
  lost : Within places lost sum.lost

section Run

variable {total lost : Nat} {sum : RunningSum} (range : places ≤ 2044)

include range

/-- With a value of one unit the total grows by one unit, and the lost part by
the total, the new total and the value. -/
theorem RunningWithin.add (few : lost + (2 * total + 2) < 2 ^ 53) (within : RunningWithin places total lost sum)
    (small : Within places 1 value) : RunningWithin places (total + 1) (lost + (2 * total + 2)) (sum.add value) := by
  have next : Within places (total + 1) (sum.total + value) := within.total.add range (by omega) small
  refine ⟨next, ?_⟩
  apply within.lost.add range few
  -- What is lost is computed from the greater of the total and the value.
  split
  · have missing := (within.total.sub range (by omega) next).add range (by omega) small
    have same : total + (total + 1) + 1 = 2 * total + 2 := by omega
    rw [same] at missing
    exact missing
  · have missing := (small.sub range (by omega) next).add range (by omega) within.total
    have same : 1 + (total + 1) + total = 2 * total + 2 := by omega
    rw [same] at missing
    exact missing

/-- The bounds after a run, by induction on the values. -/
theorem RunningWithin.foldl {values : List Binary64} (small : ∀ value ∈ values, Within places 1 value)
    (few : total + lost + values.length * (2 * total + values.length + 2) < 2 ^ 53)
    (within : RunningWithin places total lost sum) :
    RunningWithin places (total + values.length) (lost + values.length * (2 * total + values.length + 1))
      (values.foldl RunningSum.add sum) := by
  induction values generalizing total lost sum with
  | nil =>
      rw [List.length_nil, Nat.zero_mul]
      exact within
  | cons value values inductionHypothesis =>
      have here := small value List.mem_cons_self
      have behind : ∀ other ∈ values, Within places 1 other := fun other member =>
        small other (List.mem_cons_of_mem value member)
      rw [List.length_cons] at few ⊢
      have room : total + 1 + (lost + (2 * total + 2)) + values.length * (2 * (total + 1) + values.length + 2) =
          total + lost + (values.length + 1) * (2 * total + (values.length + 1) + 2) := by ring
      rw [← room] at few
      have stepped := within.add range (by omega) here
      have later := inductionHypothesis behind few stepped
      have totals : total + 1 + values.length = total + (values.length + 1) := by omega
      have losses : lost + (2 * total + 2) + values.length * (2 * (total + 1) + values.length + 1) =
          lost + (values.length + 1) * (2 * total + (values.length + 1) + 1) := by ring
      rw [totals, losses] at later
      exact later

end Run

/-- How many values can be added up. -/
def summandCount : Nat := 2 ^ 26

theorem isFinite_sum_of_within {values : List Binary64} (range : places ≤ 2044)
    (small : ∀ value ∈ values, Within places 1 value) (few : values.length ≤ summandCount) :
    (sum values).isFinite = true := by
  have room : values.length * (values.length + 2) < 2 ^ 53 := by
    have square := Nat.mul_le_mul few (Nat.add_le_add_right few 2)
    exact Nat.lt_of_le_of_lt square (by decide)
  have zero : Within places 0 Binary64.zero := ⟨rfl, (size_of_zero rfl).le.trans (Nat.zero_le _)⟩
  have start : RunningWithin places 0 0 RunningSum.start := ⟨zero, zero⟩
  have run := start.foldl range small (by simpa only [Nat.zero_add, Nat.mul_zero] using room)
  simp only [Nat.zero_add, Nat.mul_zero] at run
  have both : values.length + values.length * (values.length + 1) = values.length * (values.length + 2) := by ring
  have whole := run.total.add range (by rw [both]; exact room) run.lost
  rw [sum, RunningSum.result]
  split
  · exact run.total.finite
  · exact whole.finite

/-- Two to the 970, as a multiple of the least positive number. -/
def summandLimit : Nat := 2 ^ 2044

/-- The sum of not too many values of this size is finite. -/
theorem isFinite_sum {values : List Binary64}
    (small : ∀ value ∈ values, value.isFinite = true ∧ value.size ≤ summandLimit)
    (few : values.length ≤ summandCount) : (sum values).isFinite = true := by
  apply isFinite_sum_of_within (Nat.le_refl 2044) _ few
  intro value member
  rcases small value member with ⟨finite, size⟩
  rw [summandLimit, ← Nat.one_mul (2 ^ _)] at size
  exact ⟨finite, size⟩

end Binary64
end FeedDesk
