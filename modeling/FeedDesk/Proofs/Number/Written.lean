import FeedDesk.Proofs.Number.Rounding
import FeedDesk.Proofs.Number.Shortest
import FeedDesk.Proofs.Text.Placeholders

namespace FeedDesk

/-!
# A written double can be told from every other

The text of a double has a sign, digits, and places behind a point.  The number
that it stands for can be read from it, and that number rounds to the double.
Since a number rounds to one double only, different doubles have different texts.
Zero is no exception, as its interval is that of the least magnitude.
-/

namespace Text

/-- Places behind their point, which is left out when there are none. -/
def pointed : Text → Text
  | [] => []
  | places => '.' :: places

theorem apart_pointed (places : Text) : Apart (pointed places) := by
  cases places <;> rfl

theorem pointed_injective : Function.Injective pointed := by
  intro places others same
  cases places <;> cases others <;> cases same <;> rfl

/-- A text of digits is cut off by the point. -/
theorem append_pointed_inj {whole places whole' places' : Text} (digits : ∀ char ∈ whole, isAsciiDigit char = true)
    (digits' : ∀ char ∈ whole', isAsciiDigit char = true)
    (same : whole ++ pointed places = whole' ++ pointed places') : whole = whole' ∧ places = places' := by
  obtain ⟨front, back⟩ := append_inj_of_all digits digits' (apart_pointed places) (apart_pointed places') same
  exact ⟨front, pointed_injective back⟩

end Text

namespace Decimal

/-- A positional text with the digits it is made of. -/
structure Placed (text whole places : Text) : Prop where
  cut : text = whole ++ Text.pointed places
  nonempty : whole ≠ []
  digits : ∀ char ∈ whole ++ places, Text.isAsciiDigit char = true

theorem isAsciiDigit_of_mem_replicate {count : Nat} {char : Char} (member : char ∈ List.replicate count '0') :
    Text.isAsciiDigit char = true := by
  rw [List.eq_of_mem_replicate member]
  rfl

/-- The number of a decimal is read from the digits of its text. -/
theorem exists_placed (decimal : Decimal) : ∃ whole places, Placed decimal.positional whole places ∧
    decimal.value = (Nat.ofDigitChars 10 (whole ++ places) 0 : ℚ) / 10 ^ places.length := by
  have each : ∀ char ∈ Text.ofNat decimal.digits, Text.isAsciiDigit char = true :=
    fun _ => Text.isAsciiDigit_of_mem_ofNat
  have read : Nat.ofDigitChars 10 (Text.ofNat decimal.digits) 0 = decimal.digits :=
    Nat.ofDigitChars_toDigits (by decide) (by decide)
  by_cases whole : 0 ≤ decimal.exponent
  · refine ⟨decimal.positional, [], ⟨(List.append_nil _).symm, ?_, ?_⟩, ?_⟩
    · rw [positional, if_pos whole]
      exact List.append_ne_nil_of_left_ne_nil Nat.toDigits_ne_nil _
    · rw [positional, if_pos whole, List.append_nil]
      exact fun char member =>
        (List.mem_append.mp member).elim (each char) isAsciiDigit_of_mem_replicate
    · rw [positional, if_pos whole, List.append_nil, Nat.ofDigitChars_append, read,
        Nat.ofDigitChars_replicate_zero, value, Binary64.zpow_eq_div (by norm_num),
        Int.toNat_of_nonpos (Int.neg_nonpos_of_nonneg whole), List.length_nil]
      push_cast
      ring
  · rw [positional, if_neg whole]
    dsimp only
    -- There is at least one digit in front of the point, and as many behind it as the exponent says.
    generalize padding : List.replicate ((-decimal.exponent).toNat + 1 - (Text.ofNat decimal.digits).length) '0' ++
      Text.ofNat decimal.digits = padded
    have long : (-decimal.exponent).toNat < padded.length := by
      rw [← padding, List.length_append, List.length_replicate]
      omega
    have behind : (padded.drop (padded.length - (-decimal.exponent).toNat)).length = (-decimal.exponent).toNat := by
      rw [List.length_drop]
      omega
    refine ⟨padded.take (padded.length - (-decimal.exponent).toNat),
      padded.drop (padded.length - (-decimal.exponent).toNat), ⟨?_, ?_, ?_⟩, ?_⟩
    · cases places : padded.drop (padded.length - (-decimal.exponent).toNat) with
      | nil =>
          rw [places, List.length_nil] at behind
          omega
      | cons digit digits => rfl
    · rw [← List.length_pos_iff, List.length_take]
      omega
    · rw [List.take_append_drop, ← padding]
      exact fun char member =>
        (List.mem_append.mp member).elim isAsciiDigit_of_mem_replicate (each char)
    · rw [List.take_append_drop, behind, ← padding, Nat.ofDigitChars_append, Nat.ofDigitChars_replicate_zero,
        Nat.mul_zero, read, value, Binary64.zpow_eq_div (by norm_num), Int.toNat_of_nonpos (Int.le_of_not_le whole)]
      ring

theorem value_eq_of_positional {decimal other : Decimal} (same : decimal.positional = other.positional) :
    decimal.value = other.value := by
  obtain ⟨whole, places, placed, amount⟩ := exists_placed decimal
  obtain ⟨whole', places', placed', amount'⟩ := exists_placed other
  rw [placed.cut, placed'.cut] at same
  obtain ⟨rfl, rfl⟩ := Text.append_pointed_inj (fun char member => placed.digits char (List.mem_append_left _ member))
    (fun char member => placed'.digits char (List.mem_append_left _ member)) same
  rw [amount, amount']

theorem mem_positional {decimal : Decimal} {char : Char} (member : char ∈ decimal.positional) :
    char = '.' ∨ Text.isAsciiDigit char = true := by
  obtain ⟨whole, places, placed, _⟩ := exists_placed decimal
  rw [placed.cut] at member
  rcases List.mem_append.mp member with front | back
  · exact Or.inr (placed.digits char (List.mem_append_left _ front))
  · cases places with
    | nil => cases back
    | cons digit digits =>
        rcases List.mem_cons.mp back with point | place
        · exact Or.inl point
        · exact Or.inr (placed.digits char (List.mem_append_right _ place))

end Decimal

namespace Binary64

variable {value other : Binary64}

/-- The decimal that is written for a finite double. -/
def plainDecimal (value : Binary64) : Decimal :=
  if value.isZero then ⟨0, 0⟩ else Decimal.shortest .upward value

theorem plainText_of_isFinite (finite : value.isFinite = true) :
    value.plainText = value.signed value.plainDecimal.positional := by
  have naught : (⟨0, 0⟩ : Decimal).positional = "0" := by decide
  rw [plainText, isNaN_of_isFinite finite, isInfinite_of_isFinite finite, plainDecimal, ← naught]
  cases value.isZero <;> rfl

theorem holds_plainDecimal (value : Binary64) : (Decimal.intervalOf value).Holds value.plainDecimal.value := by
  unfold plainDecimal
  split
  · rename_i zero
    have magnitude : value.magnitude = 0 := beq_iff_eq.mp zero
    have none : value.significand = 0 := by rw [significand, magnitude]; rfl
    have closed := (Decimal.closed_intervalOf value).mpr (by rw [magnitude])
    have nothing : (⟨0, 0⟩ : Decimal).value = 0 := by rw [Decimal.value, Nat.cast_zero, zero_mul]
    have lowered : Decimal.lowered value = 0 := by rw [Decimal.lowered, none]; rfl
    rw [Decimal.Interval.Holds, if_pos closed, nothing, Decimal.lowEnd_intervalOf, Decimal.highEnd_intervalOf,
      lowered, Nat.cast_zero, zero_mul]
    exact ⟨le_rfl, by positivity⟩
  · rename_i nonzero
    exact Decimal.holds_shortest .upward (Bool.eq_false_iff.mpr nonzero)

theorem signed_inj {text text' : Text} (unsigned : '-' ∉ text) (unsigned' : '-' ∉ text')
    (same : value.signed text = other.signed text') : value.negative = other.negative ∧ text = text' := by
  revert same
  unfold signed
  cases value.negative with
  | true =>
      cases other.negative with
      | true => exact fun same => ⟨rfl, (List.cons.inj same).2⟩
      | false =>
          intro same
          change '-' :: text = text' at same
          exact absurd (same ▸ List.mem_cons_self) unsigned'
  | false =>
      cases other.negative with
      | true =>
          intro same
          change text = '-' :: text' at same
          exact absurd (same ▸ List.mem_cons_self) unsigned
      | false => exact fun same => ⟨rfl, same⟩

/-- Finite doubles with one text are one double. -/
theorem eq_of_plainText (finite : value.isFinite = true) (finite' : other.isFinite = true)
    (same : value.plainText = other.plainText) : value = other := by
  have unsigned : ∀ decimal : Decimal, '-' ∉ decimal.positional := by
    intro decimal member
    rcases Decimal.mem_positional member with point | digit
    · exact absurd point (by decide)
    · exact absurd digit (by decide)
  rw [plainText_of_isFinite finite, plainText_of_isFinite finite'] at same
  obtain ⟨sign, written⟩ := signed_inj (unsigned _) (unsigned _) same
  have held := value.holds_plainDecimal
  rw [Decimal.value_eq_of_positional written] at held
  have size := Decimal.magnitude_eq_of_holds held other.holds_plainDecimal
  cases value
  cases other
  exact congrArg₂ Binary64.mk sign size

/-- A character that finite doubles are written with. -/
def isPlainChar (char : Char) : Bool :=
  char == '-' || char == '.' || Text.isAsciiDigit char

theorem isPlainChar_of_mem_plainText (finite : value.isFinite = true) :
    ∀ char ∈ value.plainText, isPlainChar char = true := by
  have unsigned : ∀ char ∈ value.plainDecimal.positional, isPlainChar char = true := by
    intro char member
    rcases Decimal.mem_positional member with rfl | digit
    · rfl
    · rw [isPlainChar, digit, Bool.or_true]
  rw [plainText_of_isFinite finite, signed]
  split
  · exact List.forall_mem_cons.mpr ⟨rfl, unsigned⟩
  · exact unsigned

end Binary64
end FeedDesk
