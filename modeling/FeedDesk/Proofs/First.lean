import Mathlib.Data.List.Basic

namespace FeedDesk

/-!
# The first item with a property

Names, forms, rules and places in a reply are all tried one after another, and
the first that holds decides.  What such a search finds is said here without the
search: the list is split at the item, and nothing before it holds.  If the list
stands in some order, nothing that holds comes before the item in that order.
So the first item of a weaker property is the same or an earlier one.
-/

/-- The item is the first one of the list for which the property holds. -/
def First {α : Type} (holds : α → Prop) (items : List α) (item : α) : Prop :=
  ∃ earlier later, items = earlier ++ item :: later ∧ holds item ∧ ∀ other ∈ earlier, ¬ holds other

namespace First

variable {α : Type} {holds weaker : α → Prop} {items : List α} {item : α}

theorem mem (first : First holds items item) : item ∈ items := by
  obtain ⟨earlier, later, rfl, _⟩ := first
  exact List.mem_append_right earlier List.mem_cons_self

theorem holds_self (first : First holds items item) : holds item := by
  obtain ⟨_, _, _, here, _⟩ := first
  exact here

theorem unique {other : α} (first : First holds items item) (otherFirst : First holds items other) :
    item = other := by
  obtain ⟨earlier, later, rfl, here, passed⟩ := first
  obtain ⟨otherEarlier, otherLater, same, otherHere, otherPassed⟩ := otherFirst
  rcases List.append_eq_append_iff.mp same with ⟨between, split, remains⟩ | ⟨between, split, remains⟩
  · cases between with
    | nil => exact (List.cons.inj remains).1
    | cons head between =>
        obtain rfl := (List.cons.inj remains).1
        exact absurd here (otherPassed item (split ▸ List.mem_append_right earlier List.mem_cons_self))
  · cases between with
    | nil => exact (List.cons.inj remains).1.symm
    | cons head between =>
        obtain rfl := (List.cons.inj remains).1
        exact absurd otherHere (passed other (split ▸ List.mem_append_right otherEarlier List.mem_cons_self))

theorem congr (same : ∀ item ∈ items, holds item ↔ weaker item) :
    First holds items item ↔ First weaker items item := by
  constructor
  · rintro ⟨earlier, later, rfl, here, passed⟩
    refine ⟨earlier, later, rfl, (same item (List.mem_append_right earlier List.mem_cons_self)).mp here, ?_⟩
    exact fun other member held =>
      passed other member ((same other (List.mem_append_left _ member)).mpr held)
  · rintro ⟨earlier, later, rfl, here, passed⟩
    refine ⟨earlier, later, rfl, (same item (List.mem_append_right earlier List.mem_cons_self)).mpr here, ?_⟩
    exact fun other member held =>
      passed other member ((same other (List.mem_append_left _ member)).mp held)

/-- What is first for a weaker property is first for the stronger one, if that
holds for it. -/
theorem strengthen (first : First weaker items item) (imp : ∀ item, holds item → weaker item)
    (here : holds item) : First holds items item := by
  obtain ⟨earlier, later, rfl, _, passed⟩ := first
  exact ⟨earlier, later, rfl, here, fun other member held => passed other member (imp other held)⟩

/-- Items may be left out for which the property does not hold. -/
theorem filter_iff {kept : α → Bool} :
    First holds (items.filter kept) item ↔ First (fun item => kept item = true ∧ holds item) items item := by
  constructor
  · rintro ⟨earlier, later, split, here, passed⟩
    obtain ⟨front, back, rfl, frontEq, backEq⟩ := List.filter_eq_append_iff.mp split
    obtain ⟨skipped, rest, rfl, drops, keeps, _⟩ := List.filter_eq_cons_iff.mp backEq
    refine ⟨front ++ skipped, rest, by rw [List.append_assoc], ⟨keeps, here⟩, ?_⟩
    rintro other member ⟨otherKept, held⟩
    rcases List.mem_append.mp member with inFront | inSkipped
    · exact passed other (frontEq ▸ List.mem_filter.mpr ⟨inFront, otherKept⟩) held
    · exact drops other inSkipped otherKept
  · rintro ⟨earlier, later, rfl, ⟨keeps, here⟩, passed⟩
    refine ⟨earlier.filter kept, later.filter kept, ?_, here, ?_⟩
    · rw [List.filter_append, List.filter_cons_of_pos keeps]
    · intro other member held
      obtain ⟨listed, otherKept⟩ := List.mem_filter.mp member
      exact passed other listed ⟨otherKept, held⟩

/-- What is first in two lists one behind the other is first in the left one, or
nothing holds there. -/
theorem append_iff {others : List α} : First holds (items ++ others) item ↔
    First holds items item ∨ (∀ other ∈ items, ¬ holds other) ∧ First holds others item := by
  constructor
  · rintro ⟨earlier, later, split, here, passed⟩
    rcases List.append_eq_append_iff.mp split with ⟨between, rfl, remains⟩ | ⟨between, rfl, remains⟩
    · refine Or.inr ⟨fun other member => passed other (List.mem_append_left _ member), between, later,
        remains, here, fun other member => passed other (List.mem_append_right _ member)⟩
    · cases between with
      | nil =>
          rw [List.append_nil]
          exact Or.inr ⟨passed, [], later, remains.symm, here, fun _ member => absurd member List.not_mem_nil⟩
      | cons first between =>
          obtain ⟨rfl, rfl⟩ := List.cons.inj remains
          exact Or.inl ⟨earlier, between, rfl, here, passed⟩
  · rintro (⟨earlier, later, rfl, here, passed⟩ | ⟨absent, earlier, later, rfl, here, passed⟩)
    · exact ⟨earlier, later ++ others, by rw [List.append_assoc, List.cons_append], here, passed⟩
    · refine ⟨items ++ earlier, later, (List.append_assoc _ _ _).symm, here, fun other member => ?_⟩
      exact (List.mem_append.mp member).elim (absent other) (passed other)

theorem toList_iff {option : Option α} : First holds option.toList item ↔ option = some item ∧ holds item := by
  constructor
  · intro first
    exact ⟨Option.mem_toList.mp first.mem, first.holds_self⟩
  · rintro ⟨rfl, here⟩
    exact ⟨[], [], rfl, here, fun _ member => absurd member List.not_mem_nil⟩

/-- A search that reads the items stops at the first that can be read. -/
theorem findSome?_eq_some_iff {β : Type} {read : α → Option β} {value : β} :
    items.findSome? read = some value ↔
      ∃ item, First (fun item => ∃ value, read item = some value) items item ∧ read item = some value := by
  rw [List.findSome?_eq_some_iff]
  constructor
  · rintro ⟨earlier, item, later, rfl, here, passed⟩
    refine ⟨item, ⟨earlier, later, rfl, ⟨value, here⟩, ?_⟩, here⟩
    rintro other member ⟨_, found⟩
    rw [passed other member] at found
    cases found
  · rintro ⟨item, ⟨earlier, later, rfl, _, passed⟩, here⟩
    refine ⟨earlier, item, later, rfl, here, fun other member => ?_⟩
    exact Option.eq_none_iff_forall_ne_some.mpr fun value found => passed other member ⟨value, found⟩

/-- A search by a test of the property finds the first item. -/
theorem find?_eq_some_iff {test : α → Bool} (tests : ∀ item ∈ items, test item = true ↔ holds item) :
    items.find? test = some item ↔ First holds items item := by
  rw [List.find?_eq_some_iff_append]
  constructor
  · rintro ⟨here, earlier, later, rfl, passed⟩
    have listed : item ∈ earlier ++ item :: later := List.mem_append_right earlier List.mem_cons_self
    refine ⟨earlier, later, rfl, (tests item listed).mp here, fun other member held => ?_⟩
    have failed := passed other member
    rw [(tests other (List.mem_append_left _ member)).mpr held] at failed
    cases failed
  · intro first
    refine ⟨(tests item first.mem).mpr first.holds_self, ?_⟩
    obtain ⟨earlier, later, rfl, _, passed⟩ := first
    refine ⟨earlier, later, rfl, fun other member => ?_⟩
    rw [Bool.not_eq_true']
    exact Bool.eq_false_iff.mpr fun held =>
      passed other member ((tests other (List.mem_append_left _ member)).mp held)

theorem find?_eq_none_iff {test : α → Bool} (tests : ∀ item ∈ items, test item = true ↔ holds item) :
    items.find? test = none ↔ ∀ item ∈ items, ¬ holds item := by
  rw [List.find?_eq_none]
  exact forall₂_congr fun item listed => not_congr (tests item listed)

/-- If the property holds somewhere, it holds for the first time. -/
theorem exists_of_mem (holds : α → Prop) (listed : item ∈ items) (here : holds item) :
    ∃ first, First holds items first := by
  classical
  cases found : items.find? fun item => decide (holds item) with
  | none => exact absurd here ((find?_eq_none_iff fun _ _ => decide_eq_true_iff).mp found item listed)
  | some first => exact ⟨first, (find?_eq_some_iff fun _ _ => decide_eq_true_iff).mp found⟩

section Sorted

variable {le : α → α → Prop} (refl : ∀ item, le item item) (sorted : items.Pairwise le)

include refl sorted

/-- In a list that is in order nothing that holds comes before the first item. -/
theorem le_of_holds {other : α} (first : First holds items item) (listed : other ∈ items)
    (held : holds other) : le item other := by
  obtain ⟨earlier, later, rfl, _, passed⟩ := first
  rcases List.mem_append.mp listed with before | behind
  · exact absurd held (passed other before)
  · rcases List.mem_cons.mp behind with rfl | behind
    · exact refl other
    · exact (List.pairwise_cons.mp (List.pairwise_append.mp sorted).2.1).1 other behind

/-- A weaker property holds for the first time at the same or an earlier item. -/
theorem exists_le_of_imp (first : First holds items item) (imp : ∀ item ∈ items, holds item → weaker item) :
    ∃ other, First weaker items other ∧ le other item := by
  obtain ⟨other, otherFirst⟩ := exists_of_mem weaker first.mem (imp item first.mem first.holds_self)
  exact ⟨other, otherFirst,
    le_of_holds refl sorted otherFirst first.mem (imp item first.mem first.holds_self)⟩

end Sorted

end First
end FeedDesk
