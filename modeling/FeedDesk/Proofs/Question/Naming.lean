import FeedDesk.Proofs.Lexicon.Mention
import FeedDesk.Proofs.Lexicon.Spelling
import FeedDesk.Proofs.Text.Standing
import FeedDesk.Question.Entities

namespace FeedDesk

open Lexicon Text Vocabulary

/-!
# What a question names

A product and a region are looked for among English names, in the order of
their lists, and then among the Arabic forms.  Two things about the lists are
needed, and both are finite.  No name of a region begins again behind one of
its own gaps, so that the search, which goes on behind an occurrence that is
attached to other letters, misses none that stands by itself.  And no name of a
product stands in front of one that contains it, so the first name in a question
is as specific as the question allows.
-/

namespace Lexicon

theorem products_reflects : Reflects productTerms products :=
  reflects_of_accepted (ofTerms_eq_ofConsistent productTerms productTerms_consistent)

theorem regions_reflects : Reflects regionTerms regions :=
  reflects_of_accepted (ofTerms_eq_ofConsistent regionTerms regionTerms_consistent)

end Lexicon

namespace Entities

/-! ## Products -/

theorem product?_eq_or (text : Text) :
    product? text =
      (productNames.find? fun name => Text.contains name text.lower).or (products.mentioned? text) := by
  unfold product?
  split
  · rename_i name found
    rw [found]
    rfl
  · rename_i missing
    rw [missing]
    rfl

theorem product?_eq_some_iff {text product : Text} :
    product? text = some product ↔
      First (fun name => name <:+: text.lower) productNames product ∨
        (∀ name ∈ productNames, ¬ name <:+: text.lower) ∧ ∃ form, Mentions productTerms text form product := by
  rw [product?_eq_or, Option.or_eq_some_iff, First.find?_eq_some_iff fun _ _ => Text.contains_iff,
    First.find?_eq_none_iff fun _ _ => Text.contains_iff, mentioned?_eq_some_iff products_reflects]

theorem product?_eq_none_iff {text : Text} :
    product? text = none ↔
      (∀ name ∈ productNames, ¬ name <:+: text.lower) ∧
        ∀ term ∈ productTerms, ∀ form ∈ term.arabic, ¬ form <:+: text := by
  rw [product?_eq_or, Option.or_eq_none_iff, First.find?_eq_none_iff fun _ _ => Text.contains_iff,
    mentioned?_eq_none_iff products_reflects]

/-- Of two names the one that contains the other stands first. -/
theorem productNames_specific :
    productNames.Pairwise fun first later => first <:+: later → later = first := by
  decide +kernel

/-- No other name that contains the first one stands in the question. -/
theorem eq_of_first_of_infix {text name other : Text}
    (first : First (fun name => name <:+: text.lower) productNames name) (listed : other ∈ productNames)
    (stands : other <:+: text.lower) : name <:+: other → other = name :=
  first.le_of_holds (fun _ _ => rfl) productNames_specific listed stands

/-- The product of a question is missing exactly if the question names none.  It
is the first English name in the question, and no other name that contains it is
there, or without English names the term of the first of the longest forms. -/
theorem product?_as_specific_as_text (text : Text) :
    (product? text = none ↔
      (∀ name ∈ productNames, ¬ name <:+: text.lower) ∧
        ∀ term ∈ productTerms, ∀ form ∈ term.arabic, ¬ form <:+: text) ∧
    ∀ product, product? text = some product ↔
      (First (fun name => name <:+: text.lower) productNames product ∧
        ∀ other ∈ productNames, product <:+: other → other <:+: text.lower → other = product) ∨
      ((∀ name ∈ productNames, ¬ name <:+: text.lower) ∧ ∃ form, Mentions productTerms text form product) := by
  refine ⟨product?_eq_none_iff, fun product => ?_⟩
  rw [product?_eq_some_iff]
  refine or_congr_left (Iff.symm (and_iff_left_of_imp fun first => ?_))
  intro other listed contains stands
  exact eq_of_first_of_infix first listed stands contains

/-! ## Regions -/

theorem regionNames_spelled : ∀ entry ∈ regionNames, isTerm entry.1 = true ∧ Unbroken entry.1 := by
  decide +kernel

theorem region?_eq_or (text : Text) :
    region? text =
      ((regionNames.find? fun entry => hasWord entry.1 text.lower).map Prod.snd).or
        (regions.mentioned? text) := by
  unfold region?
  split
  · rename_i name region found
    rw [found]
    rfl
  · rename_i missing
    rw [missing]
    rfl

/-- The search finds a name exactly if it stands by itself somewhere. -/
theorem hasWord_regionName_iff {text : Text} :
    ∀ entry ∈ regionNames, hasWord entry.1 text = true ↔ StandsIn entry.1 text := by
  intro entry listed
  have spelled := regionNames_spelled entry listed
  exact hasWord_iff (ne_nil_of_isSpelled spelled.1) spelled.2

theorem region?_eq_none_iff {text : Text} :
    region? text = none ↔
      (∀ entry ∈ regionNames, ¬ StandsIn entry.1 text.lower) ∧
        ∀ term ∈ regionTerms, ∀ form ∈ term.arabic, ¬ form <:+: text := by
  rw [region?_eq_or, Option.or_eq_none_iff, Option.map_eq_none_iff,
    First.find?_eq_none_iff hasWord_regionName_iff, mentioned?_eq_none_iff regions_reflects]

/-- The region of a question is that of the first English name that stands by
itself anywhere in it, or without one that of the first of the longest forms,
and it is missing exactly if there is neither. -/
theorem region?_of_standing_name (text : Text) :
    (∀ region, region? text = some region ↔
      (∃ name, First (fun entry => StandsIn entry.1 text.lower) regionNames (name, region)) ∨
      ((∀ entry ∈ regionNames, ¬ StandsIn entry.1 text.lower) ∧
        ∃ form, Mentions regionTerms text form region)) ∧
    (region? text = none ↔
      (∀ entry ∈ regionNames, ¬ StandsIn entry.1 text.lower) ∧
        ∀ term ∈ regionTerms, ∀ form ∈ term.arabic, ¬ form <:+: text) := by
  refine ⟨fun region => ?_, region?_eq_none_iff⟩
  rw [region?_eq_or, Option.or_eq_some_iff, Option.map_eq_none_iff, Option.map_eq_some_iff,
    First.find?_eq_none_iff hasWord_regionName_iff, mentioned?_eq_some_iff regions_reflects]
  refine or_congr_left ?_
  constructor
  · rintro ⟨⟨name, region⟩, found, rfl⟩
    exact ⟨name, (First.find?_eq_some_iff hasWord_regionName_iff).mp found⟩
  · rintro ⟨name, first⟩
    exact ⟨(name, region), (First.find?_eq_some_iff hasWord_regionName_iff).mpr first, rfl⟩

end Entities
end FeedDesk
