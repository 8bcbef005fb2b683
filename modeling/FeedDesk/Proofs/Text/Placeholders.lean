import FeedDesk.Proofs.Text.Cutting
import Mathlib.Data.List.TakeWhile

namespace FeedDesk
namespace Text

/-!
# Placeholders in a text

A placeholder is a question mark with the digits behind it.  The placeholders of
a text that is put together are those of its parts, if no part goes on where a
placeholder has ended: what follows a placeholder must not begin with a digit.
-/

/-- The placeholder of a place. -/
def placeholder (place : Nat) : Text :=
  '?' :: ofNat place

/-- The placeholders of the first places, in order. -/
def firstPlaceholders (count : Nat) : List Text :=
  (List.range' 1 count).map placeholder

/-- The placeholders of a text: each question mark with the digits behind it. -/
def placeholders : Text → List Text
  | [] => []
  | char :: text =>
    if char = '?' then (char :: text.takeWhile isAsciiDigit) :: placeholders text
    else placeholders text

/-- No placeholder begins in the text. -/
def Unmarked (text : Text) : Prop :=
  '?' ∉ text

instance (text : Text) : Decidable (Unmarked text) :=
  inferInstanceAs (Decidable ('?' ∉ text))

/-- A placeholder in front of the text does not go on in it. -/
def Apart (text : Text) : Prop :=
  text.head?.any isAsciiDigit = false

theorem unmarked_append {front back : Text} : Unmarked (front ++ back) ↔ Unmarked front ∧ Unmarked back := by
  unfold Unmarked
  rw [List.mem_append, not_or]

theorem isAsciiDigit_of_mem_ofNat {number : Nat} {char : Char} (member : char ∈ ofNat number) :
    isAsciiDigit char = true :=
  Nat.isDigit_of_mem_toDigits (by decide) (by decide) member

theorem not_mem_ofNat {char : Char} (sign : isAsciiDigit char = false) (number : Nat) : char ∉ ofNat number :=
  fun member => Bool.eq_false_iff.mp sign (isAsciiDigit_of_mem_ofNat member)

theorem placeholders_append_of_unmarked {front : Text} (unmarked : Unmarked front) (text : Text) :
    placeholders (front ++ text) = placeholders text := by
  induction front with
  | nil => rfl
  | cons char front inductionHypothesis =>
      obtain ⟨other, rest⟩ := not_or.mp (mt List.mem_cons.mpr unmarked)
      rw [List.cons_append, placeholders, if_neg (Ne.symm other), inductionHypothesis rest]

theorem placeholders_of_unmarked {text : Text} (unmarked : Unmarked text) : placeholders text = [] := by
  have none := placeholders_append_of_unmarked unmarked []
  rwa [List.append_nil] at none

theorem takeWhile_append_of_apart (text : Text) {back : Text} (apart : Apart back) :
    (text ++ back).takeWhile isAsciiDigit = text.takeWhile isAsciiDigit := by
  induction text with
  | nil =>
      cases back with
      | nil => rfl
      | cons char back => exact List.takeWhile_cons_of_neg (Bool.eq_false_iff.mp apart)
  | cons char text inductionHypothesis =>
      rw [List.cons_append, List.takeWhile_cons, List.takeWhile_cons, inductionHypothesis]

theorem placeholders_append (front : Text) {back : Text} (apart : Apart back) :
    placeholders (front ++ back) = placeholders front ++ placeholders back := by
  induction front with
  | nil => rfl
  | cons char front inductionHypothesis =>
      rw [List.cons_append, placeholders, placeholders, takeWhile_append_of_apart front apart,
        inductionHypothesis]
      split
      · rfl
      · rfl

theorem placeholders_placeholder (place : Nat) : placeholders (placeholder place) = [placeholder place] := by
  have digits : (ofNat place).takeWhile isAsciiDigit = ofNat place :=
    List.takeWhile_eq_self_iff.mpr fun _ => isAsciiDigit_of_mem_ofNat
  rw [placeholder, placeholders, if_pos rfl, digits, placeholders_of_unmarked (not_mem_ofNat rfl place)]

/-- A separator that is no placeholder itself separates those of its neighbours. -/
theorem placeholders_joined {separator : Text} (between : Unmarked separator) (apart : Apart separator)
    (nonempty : separator ≠ []) (texts : List Text) :
    placeholders (joined separator texts) = texts.flatMap placeholders := by
  induction texts with
  | nil => rfl
  | cons text texts inductionHypothesis =>
      cases texts with
      | nil => exact (List.append_nil _).symm
      | cons next texts =>
          have follows : Apart (separator ++ joined separator (next :: texts)) := by
            cases separator with
            | nil => exact absurd rfl nonempty
            | cons char separator => exact apart
          rw [joined, List.append_assoc, placeholders_append text follows,
            placeholders_append_of_unmarked between, inductionHypothesis]
          rfl

/-! ## Lines -/

/-- A text that is empty or begins on a new line. -/
def Breaks (text : Text) : Prop :=
  text = [] ∨ ∃ rest, text = '\n' :: rest

theorem Breaks.apart {text : Text} (breaks : Breaks text) : Apart text := by
  rcases breaks with rfl | ⟨rest, rfl⟩
  · rfl
  · rfl

theorem Breaks.append {front back : Text} (first : Breaks front) (second : Breaks back) :
    Breaks (front ++ back) := by
  rcases first with rfl | ⟨rest, rfl⟩
  · exact second
  · exact Or.inr ⟨rest ++ back, rfl⟩

end Text
end FeedDesk
