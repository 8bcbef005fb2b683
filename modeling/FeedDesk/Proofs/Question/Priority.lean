import FeedDesk.Proofs.Question.Purpose
import FeedDesk.Question.Synthesis

namespace FeedDesk

open Text

/-!
# Priority of purposes and categories

A question is read in lower case, and the lower case of a longer question is not
that of its parts: a capital sigma is written by what stands beside it.  What
stands in the lower case of a part need therefore not stand in that of the
whole.  A trigger does, for no trigger holds a sigma.  So words around a
question can only add triggers, and a rule that claimed it gives way to earlier
rules alone.
-/

namespace Text

/-- A word without sigmas that is found in a text is found with any words around
it. -/
theorem infix_lower_surrounded {word text : Text} (free : Sigmaless word) (stands : word <:+: text.lower)
    (before after : Text) : word <:+: (before ++ text ++ after).lower := by
  rw [infix_lower_iff free] at stands ⊢
  rw [lowerEach_append, lowerEach_append]
  exact stands.trans ⟨_, _, rfl⟩

end Text

/-- The triggers of a list without sigmas that stand in a question stand in every
longer one. -/
theorem Intent.Triggered.surrounded {triggers : List Text} {question : Text}
    (free : ∀ trigger ∈ triggers, Sigmaless trigger) (here : Intent.Triggered triggers question.lower)
    (before after : Text) : Intent.Triggered triggers (before ++ question ++ after).lower := by
  obtain ⟨trigger, listed, stands⟩ := here
  exact ⟨trigger, listed, infix_lower_surrounded (free trigger listed) stands before after⟩

namespace Intent

theorem triggers_sigmaless : ∀ rule ∈ rules, ∀ trigger ∈ rule.2, Sigmaless trigger := by
  decide +kernel

theorem rank_classify_surrounded (before question after : Text) :
    rank (classify (before ++ question ++ after).lower) ≤ rank (classify question.lower) := by
  rw [rank_classify_le_iff]
  rcases rank_classify_le_iff.mp (Nat.le_refl (rank (classify question.lower))) with
    all | ⟨rule, inRules, claims, stands⟩
  · exact Or.inl all
  · have triggered : Triggered rule.2 question.lower := stands
    exact Or.inr ⟨rule, inRules, claims, triggered.surrounded (triggers_sigmaless rule inRules) before after⟩

end Intent

namespace Category

open Intent (Triggered any_contains_iff)

/-- The place of the category in the table. -/
def rank (category : Category) : Nat :=
  (rules.map fun rule => rule.1).idxOf category

theorem rules_pairwise : rules.Pairwise fun first later => rank first.1 ≤ rank later.1 := by
  decide

theorem triggers_sigmaless : ∀ rule ∈ rules, ∀ trigger ∈ rule.2, Sigmaless trigger := by
  decide +kernel

/-- The category is that of the first rule with a trigger in the question. -/
theorem infer?_eq_some_iff {lowered : Text} {category : Category} :
    infer? lowered = some category ↔
      ∃ triggers, First (fun rule => Triggered rule.2 lowered) rules (category, triggers) := by
  rw [infer?, Option.map_eq_some_iff]
  constructor
  · rintro ⟨⟨category, triggers⟩, found, rfl⟩
    exact ⟨triggers, (First.find?_eq_some_iff fun _ _ => any_contains_iff).mp found⟩
  · rintro ⟨triggers, first⟩
    exact ⟨(category, triggers), (First.find?_eq_some_iff fun _ _ => any_contains_iff).mpr first, rfl⟩

theorem exists_infer?_surrounded {question : Text} {category : Category}
    (inferred : infer? question.lower = some category) (before after : Text) :
    ∃ other, infer? (before ++ question ++ after).lower = some other ∧ rank other ≤ rank category := by
  obtain ⟨triggers, first⟩ := infer?_eq_some_iff.mp inferred
  obtain ⟨⟨other, otherTriggers⟩, otherFirst, earlier⟩ := first.exists_le_of_imp
    (fun rule => Nat.le_refl (rank rule.1)) rules_pairwise
    fun rule inRules here => here.surrounded (triggers_sigmaless rule inRules) before after
  exact ⟨other, infer?_eq_some_iff.mpr ⟨otherTriggers, otherFirst⟩, earlier⟩

end Category

namespace Synthesis

open Intent (Triggered)

/-- Words around a question leave its purpose where it was in the order of
priority or bring an earlier one, and the same is true of a category.  A question
with triggers of several purposes is claimed by the first of these. -/
theorem ofQuestion_surrounded (before question after : Text) (entities others : Entities) :
    Intent.rank (ofQuestion (before ++ question ++ after) entities).intent ≤
        Intent.rank (ofQuestion question others).intent ∧
      (∀ category, Category.infer? question.lower = some category →
        ∃ other, Category.infer? (before ++ question ++ after).lower = some other ∧
          other.rank ≤ category.rank) ∧
      ∀ intent, (ofQuestion question others).intent = intent ↔
        (∃ triggers, First (fun rule => Triggered rule.2 question.lower) Intent.rules (intent, triggers)) ∨
          intent = .genericSearch ∧ ∀ rule ∈ Intent.rules, ¬ Triggered rule.2 question.lower := by
  refine ⟨Intent.rank_classify_surrounded before question after, fun category inferred => ?_, fun intent => ?_⟩
  · exact Category.exists_infer?_surrounded inferred before after
  · exact Intent.classify_eq_iff

end Synthesis
end FeedDesk
