import FeedDesk.Number.Decimal
import FeedDesk.Proofs.Number.Rounding
import Mathlib.Algebra.Order.Field.Basic
import Mathlib.Order.Monotone.Basic

namespace FeedDesk

/-!
# A number rounds to one double

The numbers that round to a double fill an interval.  Where the interval of one
double ends, that of the next one begins: half a step above the first is half a
step below the second, also where the steps double.  Both may claim the common
end only if both significands are even, and those of neighbours are not.
-/

namespace Decimal

/-- The number that a decimal stands for. -/
def value (decimal : Decimal) : ℚ :=
  decimal.digits * 10 ^ decimal.exponent

namespace Interval

def lowEnd (interval : Interval) : ℚ :=
  interval.low / interval.denominator

def highEnd (interval : Interval) : ℚ :=
  interval.high / interval.denominator

/-- The number rounds to the double that the interval belongs to. -/
def Holds (interval : Interval) (number : ℚ) : Prop :=
  if interval.closed then interval.lowEnd ≤ number ∧ number ≤ interval.highEnd
  else interval.lowEnd < number ∧ number < interval.highEnd

variable {interval : Interval} {number : ℚ}

theorem Holds.bounds (held : interval.Holds number) : interval.lowEnd ≤ number ∧ number ≤ interval.highEnd := by
  unfold Holds at held
  split at held
  · exact held
  · exact ⟨held.1.le, held.2.le⟩

theorem Holds.closed_of_end (held : interval.Holds number)
    (reached : number = interval.lowEnd ∨ number = interval.highEnd) : interval.closed = true := by
  unfold Holds at held
  split at held
  · assumption
  · rcases reached with same | same
    · exact absurd held.1 (by rw [same]; exact lt_irrefl _)
    · exact absurd held.2 (by rw [same]; exact lt_irrefl _)

theorem contains_iff (positive : 0 < interval.denominator) (digits : Nat) (exponent : Int) :
    interval.contains digits exponent = true ↔ interval.Holds (Decimal.value ⟨digits, exponent⟩) := by
  have divisor : (0 : ℚ) < interval.denominator := Nat.cast_pos.mpr positive
  have down : (0 : ℚ) < 10 ^ (-exponent).toNat := by positivity
  rw [contains, Holds, lowEnd, highEnd, Decimal.value, Binary64.zpow_eq_div (by norm_num), mul_div_assoc',
    div_le_div_iff₀ divisor down, div_le_div_iff₀ down divisor, div_lt_div_iff₀ divisor down,
    div_lt_div_iff₀ down divisor]
  dsimp only
  split
  · rw [Bool.and_eq_true, decide_eq_true_iff, decide_eq_true_iff]
    exact_mod_cast Iff.rfl
  · rw [Bool.and_eq_true, decide_eq_true_iff, decide_eq_true_iff]
    exact_mod_cast Iff.rfl

end Interval

/-! ## The interval of a double -/

/-- Four times the significand, less what lies between a double and the lower end
of its interval.  Below a power of two the doubles stand closer. -/
def lowered (number : Binary64) : Nat :=
  if number.significand = Binary64.leadingBit ∧ -1074 < number.exponent then 4 * number.significand - 1
  else 4 * number.significand - 2

variable (number : Binary64)

theorem denominator_pos : 0 < (intervalOf number).denominator := by
  unfold intervalOf
  dsimp only
  split
  · exact Nat.one_pos
  · rw [Nat.shiftLeft_eq]
    positivity

/-- The interval in quarters of a step. -/
theorem scale_div_denominator :
    ((if 0 ≤ number.exponent - 2 then 1 <<< (number.exponent - 2).toNat else 1 : Nat) : ℚ) /
      (intervalOf number).denominator = 2 ^ (number.exponent - 2) := by
  rw [Binary64.zpow_eq_div (by norm_num), intervalOf]
  by_cases whole : 0 ≤ number.exponent - 2
  · rw [if_pos whole, if_pos whole, Int.toNat_of_nonpos (Int.neg_nonpos_of_nonneg whole), Nat.shiftLeft_eq,
      Nat.one_mul]
    push_cast
    rfl
  · rw [if_neg whole, if_neg whole, Int.toNat_of_nonpos (Int.le_of_not_le whole), Nat.shiftLeft_eq, Nat.one_mul]
    push_cast
    rfl

theorem lowEnd_intervalOf : (intervalOf number).lowEnd = lowered number * 2 ^ (number.exponent - 2) := by
  rw [← scale_div_denominator, ← mul_div_assoc, Interval.lowEnd]
  exact_mod_cast rfl

theorem highEnd_intervalOf :
    (intervalOf number).highEnd = (4 * number.significand + 2 : Nat) * 2 ^ (number.exponent - 2) := by
  rw [← scale_div_denominator, ← mul_div_assoc, Interval.highEnd]
  exact_mod_cast rfl

end Decimal

namespace Binary64

/-- The next double away from zero. -/
def next (number : Binary64) : Binary64 :=
  ⟨number.negative, number.magnitude + 1⟩

variable (number : Binary64)

/-- The next significand is greater by one, unless the steps double there. -/
theorem next_cases :
    (number.next.significand = number.significand + 1 ∧ number.next.exponent = number.exponent ∧
        (number.next.significand = leadingBit → number.exponent = -1074)) ∨
      (number.significand + 1 = 2 * leadingBit ∧ number.next.significand = leadingBit ∧
        number.next.exponent = number.exponent + 1 ∧ -1074 ≤ number.exponent) := by
  unfold next significand exponent leadingBit
  dsimp only
  split <;> split <;> omega

theorem significand_parity : number.significand % 2 = number.magnitude % 2 := by
  unfold significand leadingBit
  split <;> omega

end Binary64

namespace Decimal

theorem lowEnd_lt_highEnd (number : Binary64) : (intervalOf number).lowEnd < (intervalOf number).highEnd := by
  have ordered : lowered number < 4 * number.significand + 2 := by
    unfold lowered
    split <;> omega
  rw [lowEnd_intervalOf, highEnd_intervalOf]
  gcongr

/-- Where an interval ends, the next one begins. -/
theorem lowEnd_next (number : Binary64) : (intervalOf number.next).lowEnd = (intervalOf number).highEnd := by
  rw [lowEnd_intervalOf, highEnd_intervalOf, lowered]
  rcases number.next_cases with ⟨more, same, first⟩ | ⟨last, leading, greater, least⟩
  · rw [if_neg (by omega), more, same]
    congr 2
  · have doubled : (2 : ℚ) ^ (number.next.exponent - 2) = 2 * 2 ^ (number.exponent - 2) := by
      rw [greater, add_sub_right_comm, zpow_add_one₀ (by norm_num), mul_comm]
    have quarters : ((4 * Binary64.leadingBit - 1 : Nat) : ℚ) * 2 = (4 * number.significand + 2 : Nat) := by
      exact_mod_cast (by rw [Binary64.leadingBit] at last ⊢; omega)
    rw [if_pos ⟨leading, by omega⟩, leading, doubled, ← mul_assoc, quarters]

theorem closed_intervalOf (number : Binary64) : (intervalOf number).closed = true ↔ number.magnitude % 2 = 0 := by
  rw [← number.significand_parity]
  exact decide_eq_true_iff

/-- Lower ends by magnitude. -/
theorem lowEnd_strictMono : StrictMono fun magnitude => (intervalOf ⟨false, magnitude⟩).lowEnd := by
  refine strictMono_nat_of_lt_succ fun magnitude => ?_
  calc (intervalOf ⟨false, magnitude⟩).lowEnd
      < (intervalOf ⟨false, magnitude⟩).highEnd := lowEnd_lt_highEnd _
    _ = (intervalOf ⟨false, magnitude + 1⟩).lowEnd := (lowEnd_next ⟨false, magnitude⟩).symm

/-- No number rounds to two magnitudes. -/
theorem not_holds_of_lt {lesser greater : Nat} {number : ℚ} (ordered : lesser < greater)
    (below : (intervalOf ⟨false, lesser⟩).Holds number) : ¬ (intervalOf ⟨false, greater⟩).Holds number := by
  intro above
  have between : (intervalOf ⟨false, lesser + 1⟩).lowEnd ≤ (intervalOf ⟨false, greater⟩).lowEnd :=
    lowEnd_strictMono.monotone ordered
  have upper := below.bounds.2
  rw [← lowEnd_next ⟨false, lesser⟩] at upper
  -- The number is squeezed between the two ends, which are therefore one.
  have common : (intervalOf ⟨false, lesser + 1⟩).lowEnd = (intervalOf ⟨false, greater⟩).lowEnd :=
    between.antisymm (above.bounds.1.trans upper)
  have adjacent : lesser + 1 = greater := lowEnd_strictMono.injective common
  have reached : number = (intervalOf ⟨false, greater⟩).lowEnd :=
    (upper.trans_eq common).antisymm above.bounds.1
  have first := (closed_intervalOf _).mp (below.closed_of_end (Or.inr (by
    rw [reached, ← common]
    exact lowEnd_next ⟨false, lesser⟩)))
  have second := (closed_intervalOf _).mp (above.closed_of_end (Or.inl reached))
  dsimp only at first second
  omega

theorem magnitude_eq_of_holds {left right : Binary64} {number : ℚ} (first : (intervalOf left).Holds number)
    (second : (intervalOf right).Holds number) : left.magnitude = right.magnitude := by
  rcases Nat.lt_trichotomy left.magnitude right.magnitude with less | same | more
  · exact absurd second (not_holds_of_lt less first)
  · exact same
  · exact absurd first (not_holds_of_lt more second)

end Decimal
end FeedDesk
