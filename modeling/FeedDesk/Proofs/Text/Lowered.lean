import FeedDesk.Proofs.Text.Folding

namespace FeedDesk
namespace Text

/-!
# Basic letters and the null character under lower case

The lower case of a text holds no basic capital, so the basic mapping leaves it
alone, and it holds no null character unless the text does.  Both facts come
from the table of the simple mapping: every image in it is a valid code point
outside of the basic capitals.
-/

theorem isAsciiUpper_iff {char : Char} : isAsciiUpper char = true ↔ 0x41 ≤ char.toNat ∧ char.toNat ≤ 0x5A := by
  simp only [isAsciiUpper, Bool.and_eq_true, decide_eq_true_eq, Char.le_def, UInt32.le_iff_toNat_le]
  rfl

/-- Images are valid code points, not null and no basic capitals. -/
theorem lowerRows_images : ∀ row ∈ lowerRows, 0 < row.2.2.2 ∧
    (row.2.2.2 + (row.2.1 - row.1) < 0xD800 ∨
      0xE000 ≤ row.2.2.2 ∧ row.2.2.2 + (row.2.1 - row.1) < 0x110000) ∧
    (row.2.2.2 + (row.2.1 - row.1) < 0x41 ∨ 0x5A < row.2.2.2) := by
  decide +kernel

/-- The lower case of a character that the table changes. -/
theorem lowerSimple_cases (char : Char) :
    lowerSimple char = char ∨ (lowerSimple char).toNat ≠ 0 ∧ isAsciiUpper (lowerSimple char) = false := by
  rcases lowerCode_eq_or_mem_image lowerRows char.toNat with same | ⟨row, listed, low, high⟩
  · left
    rw [lowerSimple, same, Char.ofNat_toNat]
  · right
    obtain ⟨positive, valid, apart⟩ := lowerRows_images row listed
    have isValid : (lowerCode lowerRows char.toNat).isValidChar := by
      rcases valid with below | ⟨above, below⟩
      · exact Or.inl (by omega)
      · exact Or.inr ⟨by omega, by omega⟩
    have code : (lowerSimple char).toNat = lowerCode lowerRows char.toNat := by
      rw [lowerSimple, Char.ofNat, dif_pos isValid]
      rfl
    refine ⟨by omega, Bool.eq_false_iff.mpr fun upper => ?_⟩
    have capital := isAsciiUpper_iff.mp upper
    omega

theorem mem_lowerFrom_cases {casedBefore : Bool} {text : Text} {char : Char}
    (member : char ∈ lowerFrom casedBefore text) :
    char ∈ ['ς', 'σ', 'i', '\u0307'] ∨ ∃ source ∈ text, char = lowerSimple source := by
  induction text generalizing casedBefore with
  | nil => cases member
  | cons first text inductionHypothesis =>
      rw [lowerFrom] at member
      rcases List.mem_append.mp member with here | later
      · by_cases sigma : first = 'Σ'
        · rw [if_pos sigma] at here
          split at here
          · rw [List.mem_singleton.mp here]
            exact Or.inl (by decide)
          · rw [List.mem_singleton.mp here]
            exact Or.inl (by decide)
        · rw [if_neg sigma] at here
          split at here
          · rcases List.mem_cons.mp here with rfl | dot
            · exact Or.inl (by decide)
            · rw [List.mem_singleton.mp dot]
              exact Or.inl (by decide)
          · exact Or.inr ⟨first, List.mem_cons_self, List.mem_singleton.mp here⟩
      · rcases inductionHypothesis later with known | ⟨source, member, same⟩
        · exact Or.inl known
        · exact Or.inr ⟨source, List.mem_cons_of_mem first member, same⟩

theorem null_not_mem_lower {text : Text} (free : '\x00' ∉ text) : '\x00' ∉ text.lower := by
  intro member
  rcases mem_lowerFrom_cases member with known | ⟨source, inside, same⟩
  · exact absurd known (by decide)
  · rcases lowerSimple_cases source with fixed | ⟨positive, _⟩
    · rw [same, fixed] at free
      exact free inside
    · rw [← same] at positive
      exact positive rfl

theorem asciiLowerChar_of_not_upper {char : Char} (other : isAsciiUpper char = false) :
    asciiLowerChar char = char := by
  rw [asciiLowerChar, other]
  rfl

/-- What holds of the capitals, by a table, and of all the rest holds of every
character. -/
@[elab_as_elim]
theorem forall_of_capitals {Holds : Char → Prop} (table : ∀ code < 0x5B, Holds (Char.ofNat code))
    (others : ∀ char, isAsciiUpper char = false → Holds char) (char : Char) : Holds char := by
  cases upper : isAsciiUpper char with
  | false => exact others char upper
  | true =>
      have here := table char.toNat (Nat.lt_succ_of_le (isAsciiUpper_iff.mp upper).2)
      rwa [Char.ofNat_toNat] at here

theorem asciiLowerChar_eq_null_iff {char : Char} : asciiLowerChar char = '\x00' ↔ char = '\x00' := by
  refine forall_of_capitals ?_ (fun char other => ?_) char
  · decide
  · rw [asciiLowerChar_of_not_upper other]

theorem asciiLowerChar_idem (char : Char) : asciiLowerChar (asciiLowerChar char) = asciiLowerChar char := by
  refine forall_of_capitals ?_ (fun char other => ?_) char
  · decide
  · rw [asciiLowerChar_of_not_upper other, asciiLowerChar_of_not_upper other]

theorem asciiLowerChar_lowerSimple (char : Char) : asciiLowerChar (lowerSimple char) = lowerSimple char := by
  rcases lowerSimple_cases char with fixed | ⟨_, small⟩
  · -- No basic capital is left alone by the table.
    have table : ∀ code < 0x5B,
        asciiLowerChar (lowerSimple (Char.ofNat code)) = lowerSimple (Char.ofNat code) := by decide +kernel
    by_cases basic : char.toNat < 0x5B
    · have here := table char.toNat basic
      rwa [Char.ofNat_toNat] at here
    · refine asciiLowerChar_of_not_upper (Bool.eq_false_iff.mpr fun upper => ?_)
      rw [fixed] at upper
      have capital := isAsciiUpper_iff.mp upper
      omega
  · exact asciiLowerChar_of_not_upper small

theorem asciiLower_asciiLower (text : Text) : text.asciiLower.asciiLower = text.asciiLower := by
  unfold asciiLower
  rw [List.map_map]
  exact List.map_congr_left fun char _ => asciiLowerChar_idem char

theorem asciiLowerChar_of_mem_lower {text : Text} {char : Char} (member : char ∈ text.lower) :
    asciiLowerChar char = char := by
  rcases mem_lowerFrom_cases member with known | ⟨source, _, same⟩
  · have fixed : (['ς', 'σ', 'i', '\u0307'].all fun char => asciiLowerChar char == char) = true := by decide
    exact beq_iff_eq.mp (List.all_eq_true.mp fixed char known)
  · rw [same, asciiLowerChar_lowerSimple]

theorem asciiLower_lower (value : Text) : value.lower.asciiLower = value.lower := by
  have fixed := List.map_congr_left fun char (member : char ∈ value.lower) =>
    asciiLowerChar_of_mem_lower member
  rwa [List.map_id'] at fixed

end Text
end FeedDesk
