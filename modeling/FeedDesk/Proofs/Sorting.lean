import FeedDesk.Sorting

namespace FeedDesk
namespace Sorting

/-!
# Sorting by insertion is the stable sort

For a comparison that is total and transitive there is only one stable sort.
Insertion puts an item before the first one that it may precede; merge sort,
applied to the same list, has it at the same place.  Stability is stated for an
order that the list is already in: it decides between items that may stand in
either order.

It is also the same whether items are left out before or after, and whether they
are replaced before or after by items that compare alike.
-/

variable {α : Type} {precedes : α → α → Bool}
  (transitive : ∀ first second third, precedes first second → precedes second third → precedes first third)
  (total : ∀ first second, precedes first second || precedes second first)

/-- An item passes those that it may not precede and stops at the others. -/
theorem insert_append {front back : List α} {item : α} (passed : ∀ other ∈ front, precedes item other = false)
    (stops : ∀ other ∈ back, precedes item other = true) :
    insert precedes item (front ++ back) = front ++ item :: back := by
  induction front with
  | nil =>
      cases back with
      | nil => rfl
      | cons head back =>
          rw [List.nil_append, insert, if_pos (stops head List.mem_cons_self)]
          rfl
  | cons head front inductionHypothesis =>
      have skips := passed head List.mem_cons_self
      rw [List.cons_append, insert, skips, if_neg Bool.false_ne_true,
        inductionHypothesis fun other member => passed other (List.mem_cons_of_mem head member)]
      rfl

theorem insert_eq_cons {item : α} {items : List α} (stops : ∀ other ∈ items, precedes item other = true) :
    insert precedes item items = item :: items :=
  insert_append (List.forall_mem_nil _) stops

/-- What may stand in the order that it has is not moved. -/
theorem sort_eq_self {items : List α} (ordered : items.Pairwise fun first second => precedes first second) :
    sort precedes items = items := by
  induction items with
  | nil => rfl
  | cons item items inductionHypothesis =>
      obtain ⟨first, rest⟩ := List.pairwise_cons.mp ordered
      rw [sort, inductionHypothesis rest, insert_eq_cons first]

section Map

variable {β : Type} (precedes) (before : β → β → Bool) (image : α → β)

theorem map_insert {item : α} {items : List α}
    (same : ∀ other ∈ items, before (image item) (image other) = precedes item other) :
    (insert precedes item items).map image = insert before (image item) (items.map image) := by
  induction items with
  | nil => rfl
  | cons head items inductionHypothesis =>
      have deeper := inductionHypothesis fun other member => same other (List.mem_cons_of_mem head member)
      rw [insert, List.map_cons, insert, same head List.mem_cons_self]
      split
      · rfl
      · rw [List.map_cons, deeper]

/-- Sorting commutes with a map that keeps the comparison. -/
theorem map_sort (items : List α)
    (same : ∀ first ∈ items, ∀ second ∈ items, before (image first) (image second) = precedes first second) :
    (sort precedes items).map image = sort before (items.map image) := by
  induction items with
  | nil => rfl
  | cons item items inductionHypothesis =>
      have rest := inductionHypothesis fun first inFirst second inSecond =>
        same first (List.mem_cons_of_mem item inFirst) second (List.mem_cons_of_mem item inSecond)
      rw [sort, List.map_cons, sort, ← rest]
      exact map_insert precedes before image fun other member =>
        same item List.mem_cons_self other (List.mem_cons_of_mem item (mem_sort.mp member))

end Map

include transitive total

theorem sort_eq_mergeSort (items : List α) : sort precedes items = items.mergeSort precedes := by
  induction items with
  | nil => rw [sort, List.mergeSort_nil]
  | cons item items inductionHypothesis =>
      obtain ⟨front, back, sorted, rest, later⟩ := List.mergeSort_cons transitive total item items
      have ordered := List.pairwise_mergeSort transitive total (item :: items)
      rw [sorted] at ordered
      have stops : ∀ other ∈ back, precedes item other = true :=
        (List.pairwise_cons.mp (List.pairwise_append.mp ordered).2.1).1
      have passed : ∀ other ∈ front, precedes item other = false := fun other member =>
        (Bool.not_eq_true' _).mp (later other member)
      rw [sort, inductionHypothesis, rest, insert_append passed stops, sorted]

theorem pairwise_sort (items : List α) :
    (sort precedes items).Pairwise fun first second => precedes first second := by
  rw [sort_eq_mergeSort transitive total]
  exact List.pairwise_mergeSort transitive total items

omit total in
theorem filter_insert (kept : α → Bool) {item : α} {items : List α}
    (sorted : items.Pairwise fun first second => precedes first second) :
    (insert precedes item items).filter kept =
      if kept item then insert precedes item (items.filter kept) else items.filter kept := by
  induction items with
  | nil => rw [insert, List.filter_cons, List.filter_nil, insert]
  | cons head items inductionHypothesis =>
      obtain ⟨first, rest⟩ := List.pairwise_cons.mp sorted
      rw [insert]
      split
      · rename_i before
        have stops : ∀ other ∈ (head :: items).filter kept, precedes item other = true := by
          intro other member
          rcases List.mem_cons.mp (List.mem_filter.mp member).1 with rfl | later
          · exact before
          · exact transitive item head other before (first other later)
        rw [List.filter_cons]
        exact ite_congr rfl (fun _ => (insert_eq_cons stops).symm) fun _ => rfl
      · rename_i passed
        rw [List.filter_cons, inductionHypothesis rest, List.filter_cons]
        cases headKept : kept head with
        | false => rfl
        | true =>
            rw [if_pos rfl, if_pos rfl, insert, if_neg passed]
            split <;> rfl

/-- Items may as well be dropped before sorting. -/
theorem sort_filter (kept : α → Bool) (items : List α) :
    sort precedes (items.filter kept) = (sort precedes items).filter kept := by
  induction items with
  | nil => rfl
  | cons item items inductionHypothesis =>
      rw [sort, filter_insert transitive kept (pairwise_sort transitive total items), ← inductionHypothesis,
        List.filter_cons]
      split <;> rfl

theorem pairwise_mergeSort_stable {before : α → α → Prop} {items : List α} (given : items.Pairwise before) :
    (items.mergeSort precedes).Pairwise fun first second =>
      precedes first second ∧ (precedes second first → before first second) := by
  induction items with
  | nil =>
      rw [List.mergeSort_nil]
      exact List.Pairwise.nil
  | cons item items inductionHypothesis =>
      obtain ⟨front, back, sorted, rest, later⟩ := List.mergeSort_cons transitive total item items
      have ordered := List.pairwise_mergeSort transitive total (item :: items)
      have stable := inductionHypothesis (List.pairwise_cons.mp given).2
      rw [rest] at stable
      rw [sorted] at ordered ⊢
      obtain ⟨frontStable, backStable, across⟩ := List.pairwise_append.mp stable
      have itemFirst := List.pairwise_cons.mp (List.pairwise_append.mp ordered).2.1
      refine List.pairwise_append.mpr ⟨frontStable, List.pairwise_cons.mpr ⟨fun other member => ?_, backStable⟩,
        fun first inFront second behind => ?_⟩
      · refine ⟨itemFirst.1 other member, fun _ => (List.pairwise_cons.mp given).1 other ?_⟩
        have inItems : other ∈ items.mergeSort precedes := by
          rw [rest]
          exact List.mem_append_right front member
        exact List.mem_mergeSort.mp inItems
      · rcases List.mem_cons.mp behind with rfl | inBack
        · refine ⟨(List.pairwise_append.mp ordered).2.2 first inFront second List.mem_cons_self, fun may => ?_⟩
          have passed := later first inFront
          rw [may] at passed
          cases passed
        · exact across first inFront second inBack

end Sorting
end FeedDesk
