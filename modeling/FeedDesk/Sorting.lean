namespace FeedDesk

/-!
Stable sorting by insertion. The comparison tells whether one item may stand directly before
another; items that may stand in either order keep the order in which they came. Sorting only
moves items: the result is a permutation of what was given.
-/

namespace Sorting

variable {α : Type}

/-- Puts an item before the first one that it may precede. -/
def insert (precedes : α → α → Bool) (item : α) : List α → List α
  | [] => [item]
  | head :: items =>
    if precedes item head then item :: head :: items
    else head :: insert precedes item items

/-- The items in an order that the comparison allows. -/
def sort (precedes : α → α → Bool) : List α → List α
  | [] => []
  | item :: items => insert precedes item (sort precedes items)

theorem insert_perm (precedes : α → α → Bool) (item : α) (items : List α) :
    (insert precedes item items).Perm (item :: items) := by
  induction items with
  | nil => exact List.Perm.refl _
  | cons head items ih =>
    rw [insert]
    split
    · exact List.Perm.refl _
    · exact (ih.cons head).trans (List.Perm.swap item head items)

theorem sort_perm (precedes : α → α → Bool) (items : List α) :
    (sort precedes items).Perm items := by
  induction items with
  | nil => exact List.Perm.refl _
  | cons item items ih => exact (insert_perm precedes item _).trans (ih.cons item)

theorem mem_sort {precedes : α → α → Bool} {items : List α} {item : α} :
    item ∈ sort precedes items ↔ item ∈ items :=
  (sort_perm precedes items).mem_iff

end Sorting
end FeedDesk
