import FeedDesk.Catalog.Statistics
import FeedDesk.Proofs.Catalog.Grouping

namespace FeedDesk

/-!
# Counts of equal values

The statistics count products by a column in which a value may be missing.  A
missing value is a value like any other here, with a group of its own; only the
name under which it is counted is made up.  So the counts of a column add up to
all the products that were counted, and this stays so in whatever order the
groups are put.
-/

namespace Statistics

/-- The groups of a column: one for each value that occurs, with the number of
the products that have it. -/
structure Tallies (offers : List Product) (column : Product → Option Text) (groups : List (Option Text × Nat)) :
    Prop where
  values : Grouping.Enumerates (groups.map Prod.fst) (offers.map column)
  sizes : ∀ group ∈ groups, group.2 = (offers.filter fun offer => decide (column offer = group.1)).length

theorem perm_bySize (groups : List (Option Text × Nat)) : (bySize groups).Perm groups :=
  Sorting.sort_perm _ groups

theorem count_eq (values : List (Option Text)) (value : Option Text) :
    values.count value = (Grouping.ofKey id values value).length := by
  rw [List.count_eq_length_filter]
  refine congrArg List.length (List.filter_congr fun other _ => ?_)
  change (other == value) = decide (other = value)
  rw [Bool.eq_iff_iff, beq_iff_eq, decide_eq_true_iff]

/-- Equal values are counted, in ascending order of the values. -/
theorem tally_eq (values : List (Option Text)) :
    tally values = (Grouping.ascending values).map fun value => (value, values.count value) := by
  have sorts : (fun left right : Option Text => (Cell.ofText? left).order (.ofText? right) != .gt) =
      Grouping.inOrder id := by
    funext left right
    rw [Cell.order_ofText?]
    rfl
  have joins : (fun left right : Option Text => (Cell.ofText? left).order (.ofText? right) == .eq) =
      Grouping.alike id := by
    funext left right
    rw [Cell.order_ofText?]
    rfl
  rw [tally, sorts, joins, Grouping.runs_sort, Grouping.groups, List.map_id, List.filterMap_map,
    ← List.filterMap_eq_map]
  refine List.filterMap_congr fun value member => ?_
  have listed : value ∈ Grouping.ascending (values.map id) := by rwa [List.map_id]
  obtain ⟨first, rest, whole, same⟩ := Grouping.exists_ofKey_eq_cons listed
  change (Grouping.ofKey id values value).head?.map _ = some (value, values.count value)
  rw [count_eq, whole, ← same]
  rfl

theorem map_fst_tally (values : List (Option Text)) : (tally values).map Prod.fst = Grouping.ascending values := by
  rw [tally_eq, List.map_map]
  exact List.map_id _

theorem count_column (offers : List Product) (column : Product → Option Text) (value : Option Text) :
    (offers.map column).count value = (offers.filter fun offer => decide (column offer = value)).length := by
  rw [List.count_eq_length_filter, List.filter_map, List.length_map]
  refine congrArg List.length (List.filter_congr fun offer _ => ?_)
  rw [Function.comp_apply, Bool.eq_iff_iff, beq_iff_eq, decide_eq_true_iff]

theorem tallies_tally (offers : List Product) (column : Product → Option Text) :
    Tallies offers column (tally (offers.map column)) where
  values := by
    rw [map_fst_tally]
    exact Grouping.enumerates_ascending _
  sizes := by
    intro group member
    rw [tally_eq] at member
    obtain ⟨value, _, rfl⟩ := List.mem_map.mp member
    exact count_column offers column value

/-- Groups stay what they are in another order. -/
theorem Tallies.perm {offers : List Product} {column : Product → Option Text}
    {groups others : List (Option Text × Nat)}
    (tallies : Tallies offers column groups) (moved : others.Perm groups) : Tallies offers column others where
  values.nodup := (moved.map Prod.fst).nodup_iff.mpr tallies.values.nodup
  values.mem_iff value := (moved.map Prod.fst).mem_iff.trans (tallies.values.mem_iff value)
  sizes group member := tallies.sizes group (moved.mem_iff.mp member)

/-! ## Groups behind the counts -/

/-- Values that are dropped are not counted, and the others are counted as before. -/
theorem tally_filter (kept : Option Text → Bool) (values : List (Option Text)) :
    tally (values.filter kept) = (tally values).filter fun group => kept group.1 := by
  rw [tally_eq, tally_eq, Grouping.ascending_filter, List.filter_map]
  refine List.map_congr_left fun value member => ?_
  rw [List.count_filter (List.mem_filter.mp member).2]

/-- What the counts tell of a group: its value and its size. -/
def entry (column : Product → Option Text) (group : List Product) : Option Text × Nat :=
  (group.head?.bind column, group.length)

theorem sum_tally (values : List (Option Text)) : ((tally values).map Prod.snd).sum = values.length := by
  rw [← Grouping.sum_length_groups id values, tally_eq, Grouping.groups, List.map_id, List.map_map, List.map_map]
  exact congrArg List.sum (List.map_congr_left fun value _ => count_eq values value)

theorem sum_counts (groups : List (Option Text × Nat)) :
    ((counts groups).map Count.count).sum = (groups.map Prod.snd).sum := by
  rw [counts, List.map_map, Nat.cast_list_sum, List.map_map]
  rfl

end Statistics
end FeedDesk
