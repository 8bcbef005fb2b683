import FeedDesk.Language.Detection
import FeedDesk.Proofs.Lexicon.Completeness
import FeedDesk.Proofs.Lexicon.Occurrence
import FeedDesk.Proofs.Question.Naming

namespace FeedDesk

open FeedDesk.Language Lexicon

/-!
# The product of a rewritten question

The product of a question is looked for among English names first and among
Arabic forms second.  After the lexicon has been applied no form is left, so
only the English names can still answer.  Their list is not the table of the
lexicon, and nine product terms of the table contain none of its names.  A
question that names such a product in Arabic keeps its product only if some
name of the list stands in the finished text for another reason: the question
already held it, another term carries it, or it is put together at the edge of
a term from what stands on both sides.
-/

namespace Entities

/-- English product terms in which no name of the list occurs. -/
def unlistedProducts : List Text := [
  "Straw", "Wheat", "Oat", "Bran", "Cotton", "Feed", "Concentrate", "Fodder", "Additive"]

theorem product?_isSome_iff {text : Text} :
    (product? text).isSome = true ↔
      (∃ name ∈ productNames, name <:+: text.lower) ∨
        ∃ term ∈ productTerms, ∃ form ∈ term.arabic, form <:+: text := by
  rw [Option.isSome_iff_ne_none, ne_eq, product?_eq_none_iff, not_and_or]
  refine or_congr ?_ ?_
  · simp only [not_forall, not_not, exists_prop]
  · simp only [not_forall, not_not, exists_prop]

theorem productNames_spelled : ∀ name ∈ productNames, isTerm name = true := by
  decide +kernel

/-- The list recognizes every other product term, and no region or phrase. -/
theorem any_contains_name :
    (∀ term ∈ productTerms, (productNames.any fun name => Text.contains name term.english.lower) =
      !unlistedProducts.contains term.english) ∧
      ∀ term ∈ regionTerms ++ phraseTerms,
        (productNames.any fun name => Text.contains name term.english.lower) = false := by
  decide +kernel

/-- No form is left for the second search. -/
theorem product?_apply_isSome_iff_name (text : Text) :
    (product? (apply text)).isSome = true ↔ ∃ name ∈ productNames, name <:+: (apply text).lower := by
  rw [product?_isSome_iff]
  constructor
  · rintro (named | ⟨term, inTable, form, spells, stands⟩)
    · exact named
    · exact absurd stands ((apply_settled text).no_product term inTable form spells)
  · exact Or.inl

/-- The terms that carry a name of the list are the listed products. -/
theorem carries_name_iff (text : Text) :
    (∃ name ∈ productNames, (gloss text).Carries name) ↔
      ∃ term ∈ productTerms, term.english ∉ unlistedProducts ∧
        ∃ form ∈ term.arabic, Piece.replaced form term.english ∈ gloss text := by
  constructor
  · rintro ⟨name, listed, form, english, member, inside⟩
    rcases exists_term_of_mem_gloss member with ⟨term, inTable, spells, rfl⟩
    have found : (productNames.any fun name => Text.contains name term.english.lower) = true :=
      List.any_eq_true.mpr ⟨name, listed, Text.contains_iff.mpr inside⟩
    rw [List.append_assoc] at inTable
    rcases List.mem_append.mp inTable with product | other
    · refine ⟨term, product, ?_, form, spells, member⟩
      rw [any_contains_name.1 term product, Bool.not_eq_true'] at found
      intro unlisted
      rw [List.contains_iff_mem.mpr unlisted] at found
      cases found
    · rw [any_contains_name.2 term other] at found
      cases found
  · rintro ⟨term, product, recognized, form, _, member⟩
    have found : (productNames.any fun name => Text.contains name term.english.lower) = true := by
      rw [any_contains_name.1 term product, Bool.not_eq_true']
      exact Bool.eq_false_iff.mpr fun unlisted => recognized (List.contains_iff_mem.mp unlisted)
    rcases List.any_eq_true.mp found with ⟨name, listed, inside⟩
    exact ⟨name, listed, form, term.english, member, Text.contains_iff.mp inside⟩

/-- When the rewritten question still has a product: a name of the list stands
in the question, a listed product was replaced, or a name of the list is put
together at the edge of a term. -/
theorem product?_apply_isSome_iff (text : Text) :
    (product? (apply text)).isSome = true ↔
      (∃ name ∈ productNames, name <:+: text.lower) ∨
      (∃ term ∈ productTerms, term.english ∉ unlistedProducts ∧
        ∃ form ∈ term.arabic, Piece.replaced form term.english ∈ gloss text) ∨
      ∃ name ∈ productNames, Gloss.Straddles name (gloss text) := by
  have reasons : ∀ name ∈ productNames, name <:+: (apply text).lower ↔
      name <:+: text.lower ∨ (gloss text).Carries name ∨ Gloss.Straddles name (gloss text) := by
    intro name listed
    have spelled := productNames_spelled name listed
    rw [← written_gloss, Gloss.infix_lower_written_iff (sigmaless_of_isTerm spelled)
      (ne_nil_of_isSpelled spelled), Gloss.keeps_iff_of_isTerm (gloss_bilingual text) spelled, source_gloss]
  rw [product?_apply_isSome_iff_name, ← carries_name_iff]
  constructor
  · rintro ⟨name, listed, stands⟩
    rcases (reasons name listed).mp stands with kept | carried | straddles
    · exact Or.inl ⟨name, listed, kept⟩
    · exact Or.inr (Or.inl ⟨name, listed, carried⟩)
    · exact Or.inr (Or.inr ⟨name, listed, straddles⟩)
  · rintro (⟨name, listed, kept⟩ | ⟨name, listed, carried⟩ | ⟨name, listed, straddles⟩)
    · exact ⟨name, listed, (reasons name listed).mpr (Or.inl kept)⟩
    · exact ⟨name, listed, (reasons name listed).mpr (Or.inr (Or.inl carried))⟩
    · exact ⟨name, listed, (reasons name listed).mpr (Or.inr (Or.inr straddles))⟩

/-- Straw is found in the question and lost from the rewritten one. -/
theorem product?_apply_straw :
    detect "قش" none = .arabic ∧ product? ("قش" : String) = some "Straw" ∧
      product? (apply ("قش" : String)) = none := by
  decide +kernel

end Entities
end FeedDesk
