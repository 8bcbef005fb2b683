import FeedDesk.Proofs.Text.Lowered

namespace FeedDesk
namespace Text

/-!
# Texts that differ in the case of basic letters

Two texts are the same but for case when lowering the basic capitals makes them
equal.  Whatever is asked about a text is then compared at one of the two only:
at the text and at its version without basic capitals.

A question about a character is blind to case when it does not tell a basic
capital from its small letter.  There are few capitals, so blindness is read off
a table.  Full lower case is blind to case, too.  Its one decision, the form of
a sigma, looks at whether the neighbours are cased or ignorable, and basic
letters are cased in either case.
-/

/-- The texts differ at most in the case of basic letters. -/
def SameButForCase (left right : Text) : Prop :=
  left.asciiLower = right.asciiLower

instance (left right : Text) : Decidable (SameButForCase left right) :=
  inferInstanceAs (Decidable (left.asciiLower = right.asciiLower))

namespace SameButForCase

theorem refl (text : Text) : SameButForCase text text :=
  rfl

theorem symm {left right : Text} (same : SameButForCase left right) : SameButForCase right left :=
  Eq.symm same

theorem trans {left middle right : Text} (same : SameButForCase left middle)
    (next : SameButForCase middle right) : SameButForCase left right :=
  Eq.trans same next

theorem append {front left back right : Text} (fronts : SameButForCase front left)
    (backs : SameButForCase back right) : SameButForCase (front ++ back) (left ++ right) := by
  unfold SameButForCase asciiLower at *
  rw [List.map_append, List.map_append, fronts, backs]

/-- A text and its version without basic capitals. -/
theorem lowered (text : Text) : SameButForCase text.asciiLower text :=
  asciiLower_asciiLower text

/-- What does not notice that basic capitals are lowered does not notice case. -/
theorem congr {Value : Type} {left right : Text} (same : SameButForCase left right) (read : Text → Value)
    (unnoticed : ∀ text, read text.asciiLower = read text) : read left = read right := by
  rw [← unnoticed left, same, unnoticed]

end SameButForCase

/-! ## Characters -/

/-- A question about a character that does not tell a basic capital from its
small letter. -/
def CaseBlind {Value : Type} (read : Char → Value) : Prop :=
  ∀ char, read (asciiLowerChar char) = read char

theorem caseBlind_of_table {Value : Type} {read : Char → Value}
    (table : ∀ code < 0x5B, read (asciiLowerChar (Char.ofNat code)) = read (Char.ofNat code)) :
    CaseBlind read :=
  forall_of_capitals table fun _ other => by rw [asciiLowerChar_of_not_upper other]

theorem caseBlind_isAsciiLetter : CaseBlind isAsciiLetter :=
  caseBlind_of_table (by decide +kernel)

theorem caseBlind_isCased : CaseBlind isCased :=
  caseBlind_of_table (by decide +kernel)

theorem caseBlind_isCaseIgnorable : CaseBlind isCaseIgnorable :=
  caseBlind_of_table (by decide +kernel)

theorem caseBlind_lowerSimple : CaseBlind lowerSimple :=
  caseBlind_of_table (by decide +kernel)

theorem caseBlind_isArabicChar : CaseBlind Language.isArabicChar :=
  caseBlind_of_table (by decide +kernel)

theorem caseBlind_isArabicLetter : CaseBlind Language.isArabicLetter :=
  caseBlind_of_table (by decide +kernel)

/-- A character other than a basic letter stands in the lowered text only where
it stood before. -/
theorem asciiLowerChar_eq_iff {char expected : Char} (other : isAsciiLetter expected = false) :
    asciiLowerChar char = expected ↔ char = expected := by
  have fixed : ∀ char, isAsciiLetter char = false → asciiLowerChar char = char := fun char letterless =>
    asciiLowerChar_of_not_upper (Bool.or_eq_false_iff.mp letterless).2
  constructor
  · rintro rfl
    rw [caseBlind_isAsciiLetter] at other
    exact (fixed char other).symm
  · rintro rfl
    exact fixed char other

/-! ## Texts -/

theorem any_asciiLower {test : Char → Bool} (blind : CaseBlind test) (text : Text) :
    text.asciiLower.any test = text.any test := by
  rw [asciiLower, List.any_map]
  exact congrArg text.any (funext blind)

theorem any_head?_asciiLower {test : Char → Bool} (blind : CaseBlind test) (text : Text) :
    text.asciiLower.head?.any test = text.head?.any test := by
  cases text with
  | nil => rfl
  | cons char text => exact blind char

theorem casedNext_asciiLower (text : Text) : casedNext text.asciiLower = casedNext text := by
  have same : isCaseIgnorable ∘ asciiLowerChar = isCaseIgnorable := funext caseBlind_isCaseIgnorable
  unfold casedNext
  rw [asciiLower, List.dropWhile_map, same]
  exact any_head?_asciiLower caseBlind_isCased _

theorem lowerFrom_asciiLower (casedBefore : Bool) (text : Text) :
    lowerFrom casedBefore text.asciiLower = lowerFrom casedBefore text := by
  induction text generalizing casedBefore with
  | nil => rfl
  | cons char text inductionHypothesis =>
      have sigma : asciiLowerChar char = 'Σ' ↔ char = 'Σ' := asciiLowerChar_eq_iff (by decide)
      have dotted : asciiLowerChar char = 'İ' ↔ char = 'İ' := asciiLowerChar_eq_iff (by decide)
      change lowerFrom casedBefore (asciiLowerChar char :: asciiLower text) = _
      rw [lowerFrom, lowerFrom, casedNext_asciiLower, caseBlind_lowerSimple, caseBlind_isCaseIgnorable,
        caseBlind_isCased, inductionHypothesis]
      simp only [sigma, dotted]

/-- Lower case makes no difference between a text with and without basic
capitals. -/
theorem lower_asciiLower (text : Text) : text.asciiLower.lower = text.lower :=
  lowerFrom_asciiLower false text

/-! ## Words without basic letters -/

/-- There is no basic letter in the word. -/
def Letterless (word : Text) : Prop :=
  ∀ char ∈ word, isAsciiLetter char = false

theorem Letterless.asciiLower_eq {word : Text} (letterless : Letterless word) : word.asciiLower = word := by
  have fixed := List.map_congr_left fun char member =>
    (asciiLowerChar_eq_iff (letterless char member)).mpr rfl
  rwa [List.map_id'] at fixed

theorem strip?_asciiLower {word : Text} (letterless : Letterless word) (text : Text) :
    strip? word text.asciiLower = (strip? word text).map asciiLower := by
  induction word generalizing text with
  | nil => rfl
  | cons expected word inductionHypothesis =>
      cases text with
      | nil => rfl
      | cons char text =>
          have here : expected = asciiLowerChar char ↔ expected = char := by
            rw [eq_comm, asciiLowerChar_eq_iff (letterless expected List.mem_cons_self), eq_comm]
          change strip? (expected :: word) (asciiLowerChar char :: asciiLower text) = _
          rw [strip?, strip?]
          simp only [here]
          split
          · exact inductionHypothesis (fun other member => letterless other (List.mem_cons_of_mem _ member)) text
          · rfl

theorem contains_asciiLower {word : Text} (letterless : Letterless word) (text : Text) :
    contains word text.asciiLower = contains word text := by
  have isPrefixOf_eq : ∀ text : Text, word.isPrefixOf text = (strip? word text).isSome := by
    intro text
    rw [Bool.eq_iff_iff, List.isPrefixOf_iff_prefix, Option.isSome_iff_exists]
    exact exists_congr fun rest => by rw [strip?_eq_some_iff, eq_comm]
  induction text with
  | nil => rfl
  | cons char text inductionHypothesis =>
      have first := strip?_asciiLower letterless (char :: text)
      change contains word (asciiLowerChar char :: asciiLower text) = _
      change strip? word (asciiLowerChar char :: asciiLower text) = _ at first
      rw [contains, contains, inductionHypothesis, isPrefixOf_eq, isPrefixOf_eq, first, Option.isSome_map]

end Text
end FeedDesk
