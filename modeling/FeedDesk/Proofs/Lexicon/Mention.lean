import FeedDesk.Proofs.First
import FeedDesk.Proofs.Lexicon.Acceptance

namespace FeedDesk
namespace Vocabulary

/-!
# The form that is found in a text

A vocabulary is searched for the first of its forms that a text contains.  Its
forms are sorted, longer ones first, so what is found can be said of the table
alone: it is a form of the greatest length among those in the text, and of
these the one that stands first in the table.  That the sort is stable is
needed for the second half only.
-/

/-- The form of the entry stands in the text, and no longer form of the table
does. -/
structure Longest (terms : List Term) (text : Text) (entry : Text × Text) : Prop where
  stands : entry.1 <:+: text
  longest : ∀ other ∈ pairsOf terms, other.1 <:+: text → other.1.length ≤ entry.1.length

/-- Among the longest forms in the text this one is first in the table, and the
English term is its own. -/
def Mentions (terms : List Term) (text form english : Text) : Prop :=
  First (Longest terms text) (pairsOf terms) (form, english)

variable {terms : List Term} {vocabulary : Vocabulary} {text form english : Text}

/-- What comes first in the order of matching is the first of the longest. -/
theorem mentions_of_first (reflects : Reflects terms vocabulary)
    (first : First (fun entry => entry.1 <:+: text) vocabulary.longestFirst (form, english)) :
    Mentions terms text form english := by
  have isLongest : Longest terms text (form, english) := by
    refine ⟨first.holds_self, fun other inTable stands => ?_⟩
    have listed : other ∈ vocabulary.longestFirst := reflects.perm.mem_iff.mpr inTable
    exact first.le_of_holds (fun entry => Nat.le_refl entry.1.length) reflects.sorted listed stands
  -- Sorting keeps the order of the forms that are as long as this one.
  have kept : First (fun entry => entry.1 <:+: text)
      (vocabulary.longestFirst.filter fun entry => entry.1.length = form.length) (form, english) := by
    rw [First.filter_iff]
    obtain ⟨earlier, later, split, stands, passed⟩ := first
    exact ⟨earlier, later, split, ⟨decide_eq_true rfl, stands⟩,
      fun other member held => passed other member held.2⟩
  rw [reflects.stable, First.filter_iff] at kept
  refine (First.congr fun entry listed => ?_).mp kept
  rw [decide_eq_true_iff]
  constructor
  · rintro ⟨sameLength, stands⟩
    refine ⟨stands, fun other inTable otherStands => ?_⟩
    rw [sameLength]
    exact isLongest.longest other inTable otherStands
  · intro entryLongest
    have table : (form, english) ∈ pairsOf terms := reflects.perm.mem_iff.mp first.mem
    refine ⟨Nat.le_antisymm ?_ ?_, entryLongest.stands⟩
    · exact isLongest.longest entry listed entryLongest.stands
    · exact entryLongest.longest _ table isLongest.stands

/-- The English term that is found is that of the form mentioned. -/
theorem mentioned?_eq_some_iff (reflects : Reflects terms vocabulary) :
    vocabulary.mentioned? text = some english ↔ ∃ form, Mentions terms text form english := by
  have tests : ∀ entry ∈ vocabulary.longestFirst,
      Text.contains entry.1 text = true ↔ entry.1 <:+: text := fun _ _ => Text.contains_iff
  rw [mentioned?, Option.map_eq_some_iff]
  constructor
  · rintro ⟨⟨form, _⟩, found, rfl⟩
    exact ⟨form, mentions_of_first reflects ((First.find?_eq_some_iff tests).mp found)⟩
  · rintro ⟨form, mentions⟩
    have listed : (form, english) ∈ vocabulary.longestFirst := reflects.perm.mem_iff.mpr mentions.mem
    obtain ⟨⟨other, otherEnglish⟩, first⟩ :=
      First.exists_of_mem (fun entry => entry.1 <:+: text) listed mentions.holds_self.stands
    have same := mentions.unique (mentions_of_first reflects first)
    exact ⟨(form, english), (First.find?_eq_some_iff tests).mpr (same ▸ first), rfl⟩

theorem mentioned?_eq_none_iff (reflects : Reflects terms vocabulary) :
    vocabulary.mentioned? text = none ↔ ∀ term ∈ terms, ∀ form ∈ term.arabic, ¬ form <:+: text := by
  rw [mentioned?, Option.map_eq_none_iff, First.find?_eq_none_iff fun _ _ => Text.contains_iff]
  constructor
  · intro absent term inTable form spells
    refine absent (form, term.english) (reflects.perm.mem_iff.mpr ?_)
    exact mem_pairsOf.mpr ⟨term, inTable, spells, rfl⟩
  · rintro absent ⟨form, english⟩ listed
    obtain ⟨term, inTable, spells, _⟩ := mem_pairsOf.mp (reflects.perm.mem_iff.mp listed)
    exact absent term inTable form spells

end Vocabulary
end FeedDesk
