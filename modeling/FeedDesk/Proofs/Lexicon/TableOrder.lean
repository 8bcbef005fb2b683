import FeedDesk.Proofs.Lexicon.Rewriting

namespace FeedDesk

/-!
# The order of a table

Which entry is tried first depends on the table order wherever two forms are
equally long.  It makes no difference to a text: of two such forms at most one
can stand at a given place.  So two tables that list the same terms with the
same forms write the same, although their vocabularies are different lists.

Nothing is compared step by step here.  What a table makes of a text mentions
only which pairs the table holds, and rearranging a table permutes its pairs.
-/

/-- The same English term with the same forms, in whatever order. -/
def Term.Alike (left right : Term) : Prop :=
  left.english = right.english ∧ left.arabic.Perm right.arabic

namespace Vocabulary

/-- The second table lists the terms of the first in another order, and the
forms of each term in another order. -/
def Rearranged (first second : List Term) : Prop :=
  ∃ between, first.Perm between ∧ List.Forall₂ Term.Alike between second

variable {first second : List Term} {matching : Matching} {before : Option Char} {text : Text}

theorem perm_pairsOf_of_alike (alike : List.Forall₂ Term.Alike first second) :
    (pairsOf first).Perm (pairsOf second) := by
  induction alike with
  | nil => exact List.Perm.refl _
  | @cons left right _ _ same _ inductionHypothesis =>
      have own := same.2.map fun form => (form, left.english)
      rw [pairsOf, pairsOf, List.flatMap_cons, List.flatMap_cons]
      rw [same.1] at own ⊢
      exact own.append inductionHypothesis

theorem Rearranged.perm_pairsOf (same : Rearranged first second) : (pairsOf first).Perm (pairsOf second) := by
  rcases same with ⟨between, moved, alike⟩
  exact (moved.flatMap_right _).trans (perm_pairsOf_of_alike alike)

/-! ## Tables with the same pairs -/

section SamePairs

variable (same : (pairsOf first).Perm (pairsOf second))

include same

theorem passes_iff {form english rest : Text} :
    Passes first matching before text form english rest ↔ Passes second matching before text form english rest := by
  constructor
  · rintro ⟨listed, begins, freeBefore, freeAfter⟩
    exact ⟨same.mem_iff.mp listed, begins, freeBefore, freeAfter⟩
  · rintro ⟨listed, begins, freeBefore, freeAfter⟩
    exact ⟨same.mem_iff.mpr listed, begins, freeBefore, freeAfter⟩

theorem Leads.of_perm {form english rest : Text} (leads : Leads first matching before text form english rest) :
    Leads second matching before text form english rest where
  toPasses := (passes_iff same).mp leads.toPasses
  longest other term others passes := leads.longest other term others ((passes_iff same).mpr passes)

theorem Rewrites.of_perm {written : Text} (rewrites : Rewrites first matching before text written) :
    Rewrites second matching before text written := by
  induction rewrites with
  | done before => exact .done before
  | copied none _ inductionHypothesis =>
      refine .copied (fun form english rest passes => ?_) inductionHypothesis
      exact none form english rest ((passes_iff same).mpr passes)
  | replaced leads _ inductionHypothesis => exact .replaced (leads.of_perm same) inductionHypothesis

theorem NoEmptyForm.of_perm (full : NoEmptyForm first) : NoEmptyForm second := by
  intro term inTable spells
  have listed : ([], term.english) ∈ pairsOf second := mem_pairsOf.mpr ⟨term, inTable, spells, rfl⟩
  exact ne_nil_of_mem_pairsOf full (same.mem_iff.mpr listed) rfl

end SamePairs

/-! ## Rearranged tables -/

/-- The table from its end, each term with its forms from the last one. -/
def backwards (terms : List Term) : List Term :=
  terms.reverse.map fun term => ⟨term.english, term.arabic.reverse⟩

theorem rearranged_backwards (terms : List Term) : Rearranged terms (backwards terms) := by
  refine ⟨terms.reverse, terms.reverse_perm.symm, List.forall₂_map_right_iff.mpr ?_⟩
  exact List.forall₂_same.mpr fun term _ => ⟨rfl, term.arabic.reverse_perm.symm⟩

/-- Rearranged tables write the same, and what they write is made by replacing
the longest form wherever one may be replaced. -/
theorem replaceForms_of_rearranged {left right : Vocabulary} (same : Rearranged first second)
    (full : NoEmptyForm first) (leftAccepted : ofTerms first = .ok left)
    (rightAccepted : ofTerms second = .ok right) (matching : Matching) (text : Text) :
    left.replaceForms matching text = right.replaceForms matching text ∧
      Rewrites first matching none text (left.replaceForms matching text) := by
  have leftRewrites := rewrites_replaceForms leftAccepted full matching text
  have rightRewrites := rewrites_replaceForms rightAccepted (full.of_perm same.perm_pairsOf) matching text
  have rightMoved := rightRewrites.of_perm same.perm_pairsOf.symm
  exact ⟨leftRewrites.unique full rightMoved, leftRewrites⟩

theorem backwards_productTerms_consistent : (ofTerms (backwards Lexicon.productTerms)).isOk = true := by
  decide +kernel

/-- The products from last to first are tried in another order, and make the
same of a text in which a form begins another one. -/
theorem replaceForms_of_rearranged_backwards :
    ∃ vocabulary, ofTerms (backwards Lexicon.productTerms) = .ok vocabulary ∧
      vocabulary.longestFirst ≠ Lexicon.products.longestFirst ∧
      vocabulary.replaceForms .anywhere "علف مركز وعلف" = "Concentrate وFeed" ∧
      ∀ matching, Lexicon.products.replaceForms matching "علف مركز وعلف" =
          vocabulary.replaceForms matching "علف مركز وعلف" ∧
        Rewrites Lexicon.productTerms matching none "علف مركز وعلف"
          (Lexicon.products.replaceForms matching "علف مركز وعلف") := by
  have full : ∀ term ∈ Lexicon.productTerms, [] ∉ term.arabic := by decide
  have accepted := ofTerms_eq_ofConsistent Lexicon.productTerms Lexicon.productTerms_consistent
  have backwardsAccepted := ofTerms_eq_ofConsistent _ backwards_productTerms_consistent
  refine ⟨_, backwardsAccepted, ?_, ?_, fun matching => ?_⟩
  · decide +kernel
  · decide +kernel
  · exact replaceForms_of_rearranged (rearranged_backwards _) full accepted backwardsAccepted matching _

end Vocabulary
end FeedDesk
