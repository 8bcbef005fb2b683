import FeedDesk.Plan.Lookup
import FeedDesk.Proofs.Catalog.Evaluation

namespace FeedDesk

open Lookup

/-!
# Plans that order products by their costs

Several plans give one row for each product that they keep and order the rows
by the costs of the products, from the lowest.  They differ in their conditions,
their columns and their limits.  What such a plan gives is described here for
all of them at once: the products are sorted, each becomes a row, and the first
rows are given.
-/

/-- The cost of the record that speaks for a group. -/
def leadingCost (group : List Record) : Option Binary64 :=
  group.head?.bind fun record => record.product.cost

theorem cell_leadingCost (group : List Record) :
    (field .cost).cell false group = Cell.ofReal? (leadingCost group) := by
  cases group <;> rfl

namespace Plan

/-- A row for each product, in the ascending order of costs. -/
structure ByCost (plan : CatalogPlan) : Prop where
  source : plan.source = .catalog
  ungrouped : plan.grouping = []
  ordering : plan.ordering = [(field .cost, .ascending)]
  plain : plan.asksLowest = false

namespace ByCost

variable {plan : CatalogPlan}

theorem orderGroups_eq (byCost : plan.ByCost) (left right : List Record) :
    (plan.orderGroups left right != .gt) = Cell.realsInOrder (leadingCost left) (leadingCost right) := by
  rw [← Cell.order_ofReal?, ← cell_leadingCost, ← cell_leadingCost, orderGroups, byCost.ordering, byCost.plain]
  change ((((field .cost).cell false left).order ((field .cost).cell false right)).then .eq != .gt) = _
  cases ((field .cost).cell false left).order ((field .cost).cell false right) <;> rfl

theorem allRows_eq (byCost : plan.ByCost) (offers : List Product) :
    plan.allRows (offers.map fun offer => { product := offer }) =
      (offers.mergeSort fun left right => Cell.realsInOrder left.cost right.cost).map
        fun offer => plan.row [{ product := offer }] := by
  have order : (fun left right => plan.orderGroups left right != .gt) =
      fun left right => Cell.realsInOrder (leadingCost left) (leadingCost right) := by
    funext left right
    exact byCost.orderGroups_eq left right
  have sorted : ∀ groups : List (List Record), Sorting.sort
      (fun left right => Cell.realsInOrder (leadingCost left) (leadingCost right)) groups =
        groups.mergeSort fun left right => Cell.realsInOrder (leadingCost left) (leadingCost right) :=
    Sorting.sort_eq_mergeSort (fun _ _ _ => Cell.realsInOrder_trans _ _ _)
      (fun _ _ => Cell.realsInOrder_total _ _)
  have moved := List.map_mergeSort (f := fun offer : Product => [{ product := offer }]) (l := offers)
    (r := fun left right => Cell.realsInOrder left.cost right.cost)
    (s := fun left right => Cell.realsInOrder (leadingCost left) (leadingCost right)) fun _ _ _ _ => rfl
  rw [allRows, groups_of_grouping_eq_nil byCost.ungrouped, order, sorted, List.map_map, Function.comp_def,
    ← moved, List.map_map]
  rfl

/-- The rows of such a plan, when its conditions together accept the products
that are wanted. -/
theorem rows_eq (byCost : plan.ByCost) (decided : ∀ filter ∈ plan.filters, filter.Decided)
    {wanted : Product → Bool}
    (accepted : ∀ offer, plan.filters.all (·.accepts { product := offer }) = wanted offer)
    (catalog : Catalog) :
    plan.rows catalog =
      .ok (plan.cut (((catalog.products.filter wanted).mergeSort fun left right =>
        Cell.realsInOrder left.cost right.cost).map fun offer => plan.row [{ product := offer }])) := by
  have kept : (catalog.productRecords.filter fun record => plan.filters.all (·.accepts record)) =
      (catalog.products.filter wanted).map fun offer => { product := offer } := by
    rw [Catalog.productRecords, List.filter_map]
    exact congrArg _ (List.filter_congr fun offer _ => accepted offer)
  rw [rows, kept_eq_ok decided, records, byCost.source]
  dsimp only
  rw [kept, byCost.allRows_eq]

end ByCost
end Plan
end FeedDesk
