import FeedDesk.Proofs.Lexicon.Spelling
import FeedDesk.Proofs.Text.LetterCase
import Mathlib.Data.List.Find

namespace FeedDesk

open FeedDesk.Language Text

/-!
# The lexicon and the case of basic letters

Arabic forms hold no basic letter.  Lowering the basic capitals of a text
therefore moves no form, brings none in and takes none away, and it does not
change which neighbours are Arabic letters.  A pass finds the same entries at
the same places.  What it writes for them is equal, capitals included, and what
it copies differs as the texts did.

The texts of two passes are compared place by place, so the induction is on the
length of the text that remains.
-/

namespace Lexicon

theorem letterless_of_isForm {form : Text} (spelled : isForm form = true) : Letterless form :=
  fun _ member => isAsciiLetter_eq_false_of_mem spelled member

end Lexicon

namespace Vocabulary

open Lexicon

variable {vocabulary : Vocabulary} {matching : Matching}

theorem fits_asciiLower {entry : Text × Text} (letterless : Letterless entry.1) (text : Text) :
    fits matching text.asciiLower entry = fits matching text entry := by
  unfold fits
  rw [strip?_asciiLower letterless]
  cases Text.strip? entry.1 text with
  | none => rfl
  | some rest =>
      rw [Option.map_some]
      simp only [any_head?_asciiLower caseBlind_isArabicLetter]

theorem find?_asciiLower (tables : vocabulary.Bilingual) (text : Text) :
    vocabulary.longestFirst.find? (fits matching text.asciiLower) =
      vocabulary.longestFirst.find? (fits matching text) := by
  refine List.find?_congr fun entry listed => ?_
  exact fits_asciiLower (letterless_of_isForm (tables.isForm entry listed)) text

/-- The same entry is found, whatever the case, behind neighbours that are both
Arabic letters or both none. -/
theorem found?_asciiLower (tables : vocabulary.Bilingual) {before other : Option Char}
    (matching : Matching) (neighbours : other.any isArabicLetter = before.any isArabicLetter) (text : Text) :
    vocabulary.found? matching other text.asciiLower = vocabulary.found? matching before text := by
  unfold found?
  rw [neighbours, find?_asciiLower tables]

theorem scan_asciiLower (tables : vocabulary.Bilingual) {before other : Option Char}
    (neighbours : other.any isArabicLetter = before.any isArabicLetter) (text : Text) :
    SameButForCase (vocabulary.scan matching other text.asciiLower) (vocabulary.scan matching before text) := by
  induction counted : text.length using Nat.strongRecOn generalizing before other text with
  | ind size inductionHypothesis =>
      have same := found?_asciiLower tables matching neighbours text
      cases found : vocabulary.found? matching before text with
      | none =>
          rw [found] at same
          cases text with
          | nil => exact .refl _
          | cons char text =>
              have shorter : text.length < size := by
                rw [← counted]
                exact Nat.lt_succ_self _
              have neighbour : (some (asciiLowerChar char)).any isArabicLetter =
                  (some char).any isArabicLetter := caseBlind_isArabicLetter char
              have copied : SameButForCase
                  (vocabulary.scan matching (some (asciiLowerChar char)) (asciiLower text))
                  (vocabulary.scan matching (some char) text) :=
                inductionHypothesis text.length shorter neighbour text rfl
              have lowered : vocabulary.scan matching other (asciiLower (char :: text)) =
                  asciiLowerChar char :: vocabulary.scan matching (some (asciiLowerChar char)) (asciiLower text) :=
                scan_cons_of_found?_eq_none tables.formful same
              rw [lowered, scan_cons_of_found?_eq_none tables.formful found]
              exact (SameButForCase.lowered [char]).append copied
      | some entry =>
          obtain ⟨form, english⟩ := entry
          obtain ⟨rest, split, _⟩ := exists_rest_of_found? found
          have letterless := letterless_of_isForm (tables.isForm _ (mem_of_found? found))
          have lowered : text.asciiLower = form ++ rest.asciiLower := by
            rw [split, asciiLower, List.map_append]
            exact congrArg (· ++ rest.asciiLower) letterless.asciiLower_eq
          have nonempty := List.length_pos_iff.mpr (tables.formful _ (mem_of_found? found))
          have shorter : rest.length < size := by
            rw [← counted, split, List.length_append]
            omega
          have behind : SameButForCase (vocabulary.scan matching english.getLast? rest.asciiLower)
              (vocabulary.scan matching english.getLast? rest) :=
            inductionHypothesis rest.length shorter rfl rest rfl
          rw [found, lowered] at same
          rw [lowered, scan_append_of_found? tables.formful same]
          rw [split] at found ⊢
          rw [scan_append_of_found? tables.formful found]
          exact (SameButForCase.refl english).append behind

theorem replaceForms_sameButForCase (tables : vocabulary.Bilingual) (matching : Matching)
    {left right : Text} (same : SameButForCase left right) :
    SameButForCase (vocabulary.replaceForms matching left) (vocabulary.replaceForms matching right) := by
  have lowered : ∀ text, SameButForCase (vocabulary.replaceForms matching text.asciiLower)
      (vocabulary.replaceForms matching text) := scan_asciiLower tables rfl
  have leftLowered := lowered left
  rw [same] at leftLowered
  exact leftLowered.symm.trans (lowered right)

/-- The same term is mentioned. -/
theorem mentioned?_asciiLower (tables : vocabulary.Bilingual) (text : Text) :
    vocabulary.mentioned? text.asciiLower = vocabulary.mentioned? text := by
  unfold mentioned?
  refine congrArg (Option.map Prod.snd) (List.find?_congr fun entry listed => ?_)
  exact contains_asciiLower (letterless_of_isForm (tables.isForm entry listed)) text

end Vocabulary

/-- The wording of a question follows the question in its case, and in nothing
else. -/
theorem Lexicon.apply_sameButForCase {left right : Text} (same : SameButForCase left right) :
    SameButForCase (apply left) (apply right) := by
  have productsGone := Vocabulary.replaceForms_sameButForCase products_bilingual .anywhere same
  have namesGone := Vocabulary.replaceForms_sameButForCase regions_bilingual .anywhere productsGone
  exact Vocabulary.replaceForms_sameButForCase phrases_bilingual .wholeWords namesGone

end FeedDesk
