import FeedDesk.Json.Record
import FeedDesk.Proofs.Number.Rounding

namespace FeedDesk

/-!
# What a file can give is a finite number

The leading digits of a numeral fit a word, so the double nearest to them is
finite.  It is then divided by powers of ten, which are at least one, or
multiplied by one of them, and an infinite product is refused.  So every numeral
that has a value has a finite number for it.
-/

namespace Binary64

variable {left right value : Binary64}

theorem isNaN_ofFraction (negative : Bool) (numerator denominator : Nat) :
    (ofFraction negative numerator denominator).isNaN = false := by
  rw [ofFraction]
  split
  · rfl
  · exact decide_eq_false (Nat.not_lt.mpr (Nat.min_le_right _ _))

theorem isFinite_withOneZero (finite : value.isFinite = true) : value.withOneZero.isFinite = true := by
  rw [withOneZero]
  split
  · rfl
  · exact finite

theorem isNaN_mul (leftFinite : left.isFinite = true) (rightFinite : right.isFinite = true) :
    (left * right).isNaN = false := by
  change (mul left right).isNaN = false
  rw [mul, isNaN_of_isFinite leftFinite, isNaN_of_isFinite rightFinite, isInfinite_of_isFinite leftFinite,
    isInfinite_of_isFinite rightFinite]
  exact isNaN_ofFraction _ _ _

theorem isFinite_ofFraction_word {number : Nat} (word : number ≤ wordLimit) (negative : Bool) :
    (ofFraction negative number 1).isFinite = true := by
  have reach : wordLimit ≤ largest := by decide +kernel
  exact isFinite_ofFraction negative Nat.one_pos (by rw [Nat.mul_one]; exact word.trans reach)

end Binary64

namespace Json

namespace Numeral

theorem atLeastOne_powerOfTen {exponent : Nat} (small : exponent ≤ largestPower) :
    (powerOfTen exponent).AtLeastOne := by
  have table : ∀ exponent < 309, (powerOfTen exponent).isFinite = true ∧
      (powerOfTen exponent).isZero = false ∧
      (powerOfTen exponent).fraction.2 ≤ (powerOfTen exponent).fraction.1 := by decide +kernel
  obtain ⟨finite, nonzero, bound⟩ := table exponent (Nat.lt_succ_of_le small)
  exact ⟨finite, nonzero, bound⟩

theorem gather_lt {significand : Nat} (digits : Text) (word : significand < wordLimit) :
    (gather significand digits).1 < wordLimit := by
  induction digits generalizing significand with
  | nil => exact word
  | cons digit digits inductionHypothesis =>
      rw [gather]
      split
      · rename_i fits
        exact inductionHypothesis fits
      · exact word

theorem scale_cases {strides : Nat} {value scaled : Binary64} {exponent : Int}
    (found : scale strides value exponent = some scaled) :
    (∃ power ≤ largestPower, scaled = value * powerOfTen power ∧ scaled.isInfinite = false ∨
        scaled = value / powerOfTen power) ∨
      scaled = value ∨ scaled = Binary64.zero ∨
      ∃ less, strides = less + 1 ∧
        scale less (value / powerOfTen largestPower) (exponent + largestPower) = some scaled := by
  rw [scale.eq_def] at found
  dsimp only at found
  split at found
  · rename_i small
    split at found
    · rename_i positive
      split at found
      · cases found
      · rename_i bounded
        cases found
        exact Or.inl ⟨_, by omega, Or.inl ⟨rfl, Bool.eq_false_iff.mpr bounded⟩⟩
    · cases found
      exact Or.inl ⟨_, small, Or.inr rfl⟩
  · split at found
    · cases found
      exact Or.inr (Or.inl rfl)
    · split at found
      · cases found
      · split at found
        · cases found
          exact Or.inr (Or.inr (Or.inl rfl))
        · exact Or.inr (Or.inr (Or.inr ⟨_, rfl, found⟩))

theorem isFinite_scale {strides : Nat} {value scaled : Binary64} {exponent : Int}
    (finite : value.isFinite = true) (found : scale strides value exponent = some scaled) :
    scaled.isFinite = true := by
  induction strides generalizing value exponent with
  | zero =>
      rcases scale_cases found with ⟨power, small, ⟨rfl, bounded⟩ | rfl⟩ | rfl | rfl | ⟨_, impossible, _⟩
      · exact Binary64.isFinite_of_bounded
          (Binary64.isNaN_mul finite (atLeastOne_powerOfTen small).finite) bounded
      · exact Binary64.isFinite_div finite (atLeastOne_powerOfTen small)
      · exact finite
      · rfl
      · cases impossible
  | succ strides inductionHypothesis =>
      rcases scale_cases found with ⟨power, small, ⟨rfl, bounded⟩ | rfl⟩ | rfl | rfl | ⟨less, same, deeper⟩
      · exact Binary64.isFinite_of_bounded
          (Binary64.isNaN_mul finite (atLeastOne_powerOfTen small).finite) bounded
      · exact Binary64.isFinite_div finite (atLeastOne_powerOfTen small)
      · exact finite
      · rfl
      · cases same
        exact inductionHypothesis (Binary64.isFinite_div finite (atLeastOne_powerOfTen (Nat.le_refl _))) deeper

theorem isFinite_real? {numeral : Numeral} {value : Binary64} (read : numeral.real? = some value) :
    value.isFinite = true := by
  obtain ⟨absolute, found, rfl⟩ := Option.map_eq_some_iff.mp read
  have finite : absolute.isFinite = true := by
    split at found
    · have leading := gather_lt numeral.whole (show 0 < wordLimit by decide)
      have word := gather_lt (numeral.places.getD []) leading
      exact isFinite_scale (Binary64.isFinite_ofFraction_word word.le false) found
    · dsimp only at found
      split at found
      · cases found
      · cases found
        rfl
  split
  · exact finite
  · exact finite

/-- The number of a numeral is an integer that fits a word, or a finite double. -/
theorem number?_cases {numeral : Numeral} {number : Json} (read : numeral.number? = some number) :
    (∃ value : Int, number = .integer value ∧ value.natAbs ≤ wordLimit) ∨
      ∃ value, number = .real value ∧ value.isFinite = true := by
  have real : ∀ {number : Json}, numeral.real?.map .real = some number →
      ∃ value, number = .real value ∧ value.isFinite = true := by
    intro number found
    obtain ⟨value, found', rfl⟩ := Option.map_eq_some_iff.mp found
    exact ⟨value, rfl, isFinite_real? found'⟩
  have signed : signedLimit ≤ wordLimit := by decide
  unfold number? at read
  dsimp only at read
  split at read
  · split at read
    · split at read
      · rename_i fits
        cases read
        exact Or.inl ⟨_, rfl, by rw [Int.natAbs_neg, Int.natAbs_natCast]; exact fits.2.trans signed⟩
      · exact Or.inr (real read)
    · split at read
      · rename_i fits
        cases read
        exact Or.inl ⟨_, rfl, Nat.le_of_lt fits⟩
      · exact Or.inr (real read)
  · exact Or.inr (real read)

end Numeral

theorem Written.isFinite_of_asReal {written : Written} {value : Binary64} (read : written.asReal = some value) :
    value.isFinite = true := by
  cases written with
  | numeral numeral =>
      obtain ⟨number, found, read⟩ := Option.bind_eq_some_iff.mp read
      rcases Numeral.number?_cases found with ⟨_, rfl, word⟩ | ⟨_, rfl, finite⟩
      · cases read
        exact Binary64.isFinite_ofFraction_word word _
      · cases read
        exact finite
  | null => cases read
  | boolean flag => cases read
  | string pieces => cases read
  | array items => cases read
  | object members => cases read

end Json
end FeedDesk
