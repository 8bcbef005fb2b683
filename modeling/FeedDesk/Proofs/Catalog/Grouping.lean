import FeedDesk.Proofs.Catalog.Evaluation
import Mathlib.Algebra.BigOperators.Ring.Finset
import Mathlib.Data.List.Dedup

namespace FeedDesk

/-!
# Groups of equal keys

Plans group their records, and statistics count equal values.  Both sort by a
key and put neighbours together.  What comes out is described here without
sorting: there is one group for each key that occurs, the keys ascend, and a
group holds all the items of its key in the order in which they were given.

Keys are lists of texts that may be missing.  A plan whose key is of this form
is described by the key alone; the comparison of cells does not appear in the
description any more.
-/

section Runs

variable {α β : Type} (joins : α → α → Bool)

/-- Putting together loses nothing and moves nothing. -/
theorem flatten_runs (items : List α) : (runs joins items).flatten = items := by
  induction items with
  | nil => rfl
  | cons item items inductionHypothesis =>
      rw [runs]
      split
      · rename_i next run others together
        rw [together] at inductionHypothesis
        split
        · exact congrArg (item :: ·) inductionHypothesis
        · exact congrArg (item :: ·) inductionHypothesis
      · exact congrArg (item :: ·) inductionHypothesis

theorem map_runs (together : β → β → Bool) (image : α → β) (items : List α)
    (same : ∀ first second, together (image first) (image second) = joins first second) :
    (runs joins items).map (List.map image) = runs together (items.map image) := by
  induction items with
  | nil => rfl
  | cons item items inductionHypothesis =>
      rw [List.map_cons, runs, runs, ← inductionHypothesis]
      cases runs joins items with
      | nil => rfl
      | cons run others =>
          cases run with
          | nil => rfl
          | cons next run =>
              change List.map (List.map image) (if joins item next then _ else _) =
                if together (image item) (image next) then _ else _
              rw [same]
              split <;> rfl

end Runs

namespace Grouping

/-- The keys are the values that occur, each listed once. -/
structure Enumerates {κ : Type} (keys values : List κ) : Prop where
  nodup : keys.Nodup
  mem_iff : ∀ value, value ∈ keys ↔ value ∈ values

theorem Enumerates.perm {κ : Type} {keys others values : List κ} (first : Enumerates keys values)
    (second : Enumerates others values) : keys.Perm others :=
  (List.perm_ext_iff_of_nodup first.nodup second.nodup).mpr fun value =>
    (first.mem_iff value).trans (second.mem_iff value).symm

variable {α κ : Type} [DecidableEq κ] [Ord κ]

/-- The values that occur, each once, in ascending order. -/
def ascending (values : List κ) : List κ :=
  values.dedup.mergeSort fun left right => (compare left right).isLE

theorem ascending_nil : ascending ([] : List κ) = [] := by
  rw [ascending, List.dedup_nil, List.mergeSort_nil]

theorem mem_ascending {values : List κ} {value : κ} : value ∈ ascending values ↔ value ∈ values := by
  rw [ascending, List.mem_mergeSort, List.mem_dedup]

theorem enumerates_ascending (values : List κ) : Enumerates (ascending values) values where
  nodup := (List.mergeSort_perm _ _).nodup_iff.mpr (List.nodup_dedup values)
  mem_iff _ := mem_ascending

variable [Std.TransOrd κ] [Std.LawfulEqOrd κ]

theorem pairwise_ascending (values : List κ) :
    (ascending values).Pairwise fun left right => compare left right = .lt := by
  have ordered : (ascending values).Pairwise fun left right => (compare left right).isLE = true :=
    List.pairwise_mergeSort (fun _ _ _ => Std.TransCmp.isLE_trans)
      (fun left right => by
        rw [Bool.or_eq_true, Ordering.isLE_iff_ne_gt, Ordering.isLE_iff_ne_gt, Std.OrientedCmp.gt_iff_lt]
        cases compare right left <;> decide)
      values.dedup
  refine (ordered.and (enumerates_ascending values).nodup).imp fun {left right} both => ?_
  obtain ⟨notAbove, different⟩ := both
  cases order : compare left right with
  | lt => rfl
  | eq => exact absurd (Std.compare_eq_iff_eq.mp order) different
  | gt =>
      rw [order] at notAbove
      cases notAbove

/-- An ascending list is determined by its members. -/
theorem eq_ascending {keys values : List κ} (order : keys.Pairwise fun left right => compare left right = .lt)
    (same : ∀ value, value ∈ keys ↔ value ∈ values) : keys = ascending values := by
  have distinct : keys.Nodup := order.imp fun {left right} below equal => by
    rw [equal, Std.compare_self] at below
    cases below
  have perm : keys.Perm (ascending values) :=
    Enumerates.perm ⟨distinct, same⟩ (enumerates_ascending values)
  refine List.Perm.eq_of_pairwise (fun left right _ _ below above => ?_) order (pairwise_ascending values) perm
  cases below.symm.trans (Std.OrientedCmp.gt_iff_lt.mpr above)

theorem ascending_congr {values others : List κ} (same : ∀ value, value ∈ values ↔ value ∈ others) :
    ascending values = ascending others :=
  eq_ascending (pairwise_ascending values) fun value => mem_ascending.trans (same value)

/-- Values that are dropped leave the others in their places. -/
theorem ascending_filter (kept : κ → Bool) (values : List κ) :
    ascending (values.filter kept) = (ascending values).filter kept :=
  (eq_ascending ((pairwise_ascending values).filter kept) fun value => by
    rw [List.mem_filter, List.mem_filter, mem_ascending]).symm

theorem ascending_cons_of_mem {value : κ} {values : List κ} (listed : value ∈ values) :
    ascending (value :: values) = ascending values :=
  ascending_congr fun other => by
    rw [List.mem_cons]
    exact ⟨fun either => either.elim (fun same => same ▸ listed) id, Or.inr⟩

theorem ascending_cons_of_below {value : κ} {values : List κ}
    (below : ∀ other ∈ values, compare value other = .lt) :
    ascending (value :: values) = value :: ascending values := by
  refine (eq_ascending (List.pairwise_cons.mpr ⟨fun other member => ?_, pairwise_ascending values⟩)
    fun other => ?_).symm
  · exact below other (mem_ascending.mp member)
  · rw [List.mem_cons, List.mem_cons, mem_ascending]

/-- What is above nothing comes first. -/
theorem exists_ascending_cons {value : κ} {values : List κ}
    (least : ∀ other ∈ values, compare value other ≠ .gt) :
    ∃ later, ascending (value :: values) = value :: later ∧ ∀ other ∈ later, compare value other = .lt := by
  have below : ∀ other ∈ values.filter (· != value), compare value other = .lt := by
    intro other member
    obtain ⟨inside, different⟩ := List.mem_filter.mp member
    cases order : compare value other with
    | lt => rfl
    | eq => exact absurd (Std.compare_eq_iff_eq.mp order).symm (bne_iff_ne.mp different)
    | gt => exact absurd order (least other inside)
  refine ⟨ascending (values.filter (· != value)), ?_, fun other member => below other (mem_ascending.mp member)⟩
  rw [← ascending_cons_of_below below]
  refine ascending_congr fun other => ?_
  rw [List.mem_cons, List.mem_cons, List.mem_filter, bne_iff_ne]
  constructor
  · rintro (same | inside)
    · exact Or.inl same
    · exact (em (other = value)).imp id fun different => ⟨inside, different⟩
  · exact fun either => either.imp id And.left

/-! ## Sorting and putting together -/

section Runs

variable (key : α → κ)

/-- The comparison by which groups are sorted. -/
def inOrder (left right : α) : Bool :=
  compare (key left) (key right) != .gt

/-- The comparison by which neighbours are put together. -/
def alike (left right : α) : Bool :=
  compare (key left) (key right) == .eq

/-- The items of a key. -/
def ofKey (items : List α) (value : κ) : List α :=
  items.filter fun item => key item == value

/-- The groups of items, one for each key. -/
def groups (items : List α) : List (List α) :=
  (ascending (items.map key)).map (ofKey key items)

variable {key}

omit [DecidableEq κ] [Std.LawfulEqOrd κ] in
theorem inOrder_trans (first second third : α) (before : inOrder key first second)
    (behind : inOrder key second third) : inOrder key first third := by
  rw [inOrder, bne_iff_ne, ne_eq, ← Ordering.isLE_iff_ne_gt] at *
  exact Std.TransCmp.isLE_trans before behind

omit [DecidableEq κ] [Std.LawfulEqOrd κ] in
theorem inOrder_total (first second : α) : inOrder key first second || inOrder key second first := by
  rw [Bool.or_eq_true, inOrder, inOrder, bne_iff_ne, bne_iff_ne, ne_eq, ne_eq, Std.OrientedCmp.gt_iff_lt]
  cases compare (key second) (key first) <;> decide

omit [Ord κ] [Std.TransOrd κ] [Std.LawfulEqOrd κ] in
theorem mem_ofKey {item : α} {items : List α} {value : κ} :
    item ∈ ofKey key items value ↔ item ∈ items ∧ key item = value := by
  rw [ofKey, List.mem_filter, beq_iff_eq]

omit [Ord κ] [Std.TransOrd κ] [Std.LawfulEqOrd κ] in
theorem ofKey_cons_of_eq {item : α} {value : κ} (same : key item = value) (items : List α) :
    ofKey key (item :: items) value = item :: ofKey key items value :=
  List.filter_cons_of_pos (beq_iff_eq.mpr same)

omit [Ord κ] [Std.TransOrd κ] [Std.LawfulEqOrd κ] in
theorem map_ofKey_cons {item : α} {values : List κ} (different : ∀ value ∈ values, key item ≠ value)
    (items : List α) : values.map (ofKey key (item :: items)) = values.map (ofKey key items) :=
  List.map_congr_left fun value member =>
    List.filter_cons_of_neg fun same => different value member (beq_iff_eq.mp same)

omit [DecidableEq κ] [Std.TransOrd κ] in
theorem ne_of_below {value : κ} {values : List κ} (below : ∀ other ∈ values, compare value other = .lt) :
    ∀ other ∈ values, value ≠ other := by
  intro other member same
  have strict := below other member
  rw [same, Std.compare_self] at strict
  cases strict

/-- In a sorted list the neighbours of one key are all the items of this key. -/
theorem runs_eq {items : List α} (sorted : items.Pairwise fun first second => inOrder key first second) :
    runs (alike key) items = (ascending (items.map key)).map (ofKey key items) := by
  induction items with
  | nil =>
      rw [List.map_nil, ascending_nil]
      rfl
  | cons item items inductionHypothesis =>
      obtain ⟨first, rest⟩ := List.pairwise_cons.mp sorted
      have together := inductionHypothesis rest
      cases items with
      | nil =>
          have nothing : ∀ other ∈ ([] : List κ), compare (key item) other = .lt :=
            fun _ impossible => absurd impossible List.not_mem_nil
          rw [List.map_singleton, ascending_cons_of_below nothing, ascending_nil, List.map_singleton,
            ofKey_cons_of_eq rfl]
          rfl
      | cons next items =>
          have least : ∀ value ∈ items.map key, compare (key next) value ≠ .gt := by
            intro value member
            obtain ⟨other, inside, rfl⟩ := List.mem_map.mp member
            exact bne_iff_ne.mp ((List.pairwise_cons.mp rest).1 other inside)
          obtain ⟨later, keys, above⟩ := exists_ascending_cons least
          rw [List.map_cons, keys, List.map_cons, ofKey_cons_of_eq rfl] at together
          -- The item goes to the first group or begins one of its own before it.
          cases order : compare (key item) (key next) with
          | gt => exact absurd order (bne_iff_ne.mp (first next List.mem_cons_self))
          | eq =>
              have same := Std.compare_eq_iff_eq.mp order
              have grouped : alike key item next = true := beq_iff_eq.mpr order
              have others := ne_of_below above
              rw [← same] at others
              rw [List.map_cons, same, List.map_cons, ascending_cons_of_mem List.mem_cons_self, keys, List.map_cons,
                map_ofKey_cons others, ofKey_cons_of_eq same, ofKey_cons_of_eq rfl, runs, together]
              exact if_pos grouped
          | lt =>
              have apart : ¬alike key item next = true := by
                rw [alike, order]
                decide
              have below : ∀ value ∈ (next :: items).map key, compare (key item) value = .lt := by
                intro value member
                rw [List.map_cons, ← mem_ascending, keys] at member
                rcases List.mem_cons.mp member with rfl | further
                · exact order
                · exact Std.TransCmp.lt_trans order (above value further)
              have others := ne_of_below fun value member => below value (mem_ascending.mp member)
              have alone : ofKey key (next :: items) (key item) = [] :=
                List.filter_eq_nil_iff.mpr fun other inside same =>
                  ne_of_below below (key other) (List.mem_map_of_mem inside) (beq_iff_eq.mp same).symm
              rw [List.map_cons, ascending_cons_of_below below, List.map_cons, map_ofKey_cons others,
                ofKey_cons_of_eq rfl, alone, List.map_cons, keys, List.map_cons, ofKey_cons_of_eq rfl, runs, together]
              exact if_neg apart

/-- Sorted by a key and put together, items form one group for each key. -/
theorem runs_sort (items : List α) : runs (alike key) (Sorting.sort (inOrder key) items) = groups key items := by
  have unmoved : ofKey key (Sorting.sort (inOrder key) items) = ofKey key items := by
    funext value
    rw [ofKey, ← Sorting.sort_filter inOrder_trans inOrder_total]
    refine Sorting.sort_eq_self (List.pairwise_of_forall_mem_list fun first inFirst second inSecond => ?_)
    rw [inOrder, (mem_ofKey.mp inFirst).2, (mem_ofKey.mp inSecond).2, Std.compare_self]
    rfl
  have keys : ascending ((Sorting.sort (inOrder key) items).map key) = ascending (items.map key) :=
    ascending_congr fun value => ((Sorting.sort_perm (inOrder key) items).map key).mem_iff
  rw [runs_eq (Sorting.pairwise_sort inOrder_trans inOrder_total items), unmoved, keys]
  rfl

/-- Every item is in one group. -/
theorem perm_flatten_groups (key : α → κ) (items : List α) : (groups key items).flatten.Perm items := by
  rw [← runs_sort, flatten_runs]
  exact Sorting.sort_perm _ items

theorem sum_length_groups (key : α → κ) (items : List α) :
    ((groups key items).map List.length).sum = items.length := by
  rw [← List.length_flatten]
  exact (perm_flatten_groups key items).length_eq

omit [Std.TransOrd κ] [Std.LawfulEqOrd κ] in
/-- A group has a first item, and this item has the key of the group. -/
theorem exists_ofKey_eq_cons {items : List α} {value : κ} (listed : value ∈ ascending (items.map key)) :
    ∃ first rest, ofKey key items value = first :: rest ∧ key first = value := by
  obtain ⟨item, inside, same⟩ := List.mem_map.mp (mem_ascending.mp listed)
  obtain ⟨first, rest, whole⟩ := List.exists_cons_of_ne_nil
    (List.ne_nil_of_mem (mem_ofKey.mpr ⟨inside, same⟩))
  have member : first ∈ ofKey key items value := whole ▸ List.mem_cons_self
  exact ⟨first, rest, whole, (mem_ofKey.mp member).2⟩

omit [Std.TransOrd κ] [Std.LawfulEqOrd κ] in
theorem exists_of_mem_groups {items group : List α} (member : group ∈ groups key items) :
    ∃ first rest, group = first :: rest ∧ first ∈ items := by
  obtain ⟨value, listed, rfl⟩ := List.mem_map.mp member
  obtain ⟨first, rest, whole, _⟩ := exists_ofKey_eq_cons listed
  have inside : first ∈ ofKey key items value := whole ▸ List.mem_cons_self
  exact ⟨first, rest, whole, (mem_ofKey.mp inside).1⟩

section Entries

variable {ε : Type} {make : List α → ε} {entryKey : ε → κ} {items : List α}
  (same : ∀ first rest, first ∈ items → entryKey (make (first :: rest)) = key first)

include same

omit [Std.TransOrd κ] [Std.LawfulEqOrd κ] in
theorem entryKey_make {value : κ} (listed : value ∈ ascending (items.map key)) :
    entryKey (make (ofKey key items value)) = value := by
  rcases exists_ofKey_eq_cons listed with ⟨first, rest, whole, keyed⟩
  have inside : first ∈ ofKey key items value := whole ▸ List.mem_cons_self
  rw [whole, same first rest (mem_ofKey.mp inside).1]
  exact keyed

omit [Std.TransOrd κ] [Std.LawfulEqOrd κ] in
/-- Entries that are made from the groups have the keys of their first items. -/
theorem map_entryKey_groups : ((groups key items).map make).map entryKey = ascending (items.map key) := by
  rw [groups, List.map_map, List.map_map]
  exact (List.map_congr_left fun _ listed => entryKey_make same listed).trans (List.map_id _)

omit [Std.TransOrd κ] [Std.LawfulEqOrd κ] in
/-- An entry is made from all the items of its key. -/
theorem eq_make_of_mem {entry : ε} (member : entry ∈ (groups key items).map make) :
    entry = make (ofKey key items (entryKey entry)) := by
  rcases List.mem_map.mp member with ⟨_, grouped, rfl⟩
  rcases List.mem_map.mp grouped with ⟨value, listed, rfl⟩
  rw [entryKey_make same listed]

end Entries

/-- Dropping the items of some keys drops their groups and leaves the others as they are. -/
theorem groups_filter (kept : κ → Bool) (items : List α) :
    groups key (items.filter fun item => kept (key item)) =
      ((ascending (items.map key)).filter kept).map (ofKey key items) := by
  have keys : (items.filter fun item => kept (key item)).map key = (items.map key).filter kept := by
    rw [List.filter_map]
    rfl
  rw [groups, keys, ascending_filter]
  refine List.map_congr_left fun value member => ?_
  rw [ofKey, ofKey, List.filter_filter]
  refine List.filter_congr fun item _ => ?_
  cases same : key item == value with
  | false => rw [Bool.false_and]
  | true => rw [beq_iff_eq.mp same, (List.mem_filter.mp member).2, Bool.true_and]

/-! ## Keys in another form -/

section Image

variable {ι : Type} [DecidableEq ι] [Ord ι] [Std.TransOrd ι] [Std.LawfulEqOrd ι] {image : κ → ι}
  (same : ∀ left right, compare (image left) (image right) = compare left right)

include same

end Image
end Runs
end Grouping

/-! ## Texts as keys -/

theorem Text.order_eq_compare (left right : Text) : left.order right = compare left right := by
  induction left generalizing right with
  | nil => cases right <;> rfl
  | cons char left inductionHypothesis =>
      cases right with
      | nil => rfl
      | cons other right =>
          have chars : compare char.toNat other.toNat = compare char other := by
            simp only [compare, compareOfLessAndEq, Char.lt_def, Char.ext_iff, UInt32.lt_iff_toNat_lt,
              ← UInt32.toNat_inj]
            rfl
          rw [order, inductionHypothesis, chars, List.compare_eq_compareLex, List.compareLex_cons_cons]

namespace Cell

theorem order_ofText? (left right : Option Text) : (ofText? left).order (ofText? right) = compare left right := by
  cases left with
  | none => cases right <;> rfl
  | some left =>
      cases right with
      | none => rfl
      | some right => exact Text.order_eq_compare left right

theorem orderKeys_ofText? {left right : List (Option Text)} (same : left.length = right.length) :
    orderKeys (left.map ofText?) (right.map ofText?) = compare left right := by
  induction left generalizing right with
  | nil =>
      cases List.length_eq_zero_iff.mp same.symm
      rfl
  | cons value left inductionHypothesis =>
      cases right with
      | nil => cases same
      | cons other right =>
          rw [List.map_cons, List.map_cons, orderKeys, order_ofText?, inductionHypothesis (Nat.succ.inj same),
            List.compare_eq_compareLex, List.compareLex_cons_cons]

end Cell

/-- A key that comes before another one does not have the higher first text. -/
theorem compare_head_ne_gt {first second : Option Text} {rest others : List (Option Text)}
    (below : compare (first :: rest) (second :: others) = .lt) : compare first second ≠ .gt := by
  rw [List.compare_eq_compareLex, List.compareLex_cons_cons] at below
  intro above
  rw [above] at below
  cases below

/-! ## Plans that group products by texts -/

namespace Plan

variable {plan : CatalogPlan} {key : Product → List (Option Text)}

/-- The record of a product by itself. -/
def alone (offer : Product) : Record := { product := offer }

theorem costs_alone (group : List Product) : Output.costs (group.map alone) = group.filterMap Product.cost :=
  List.filterMap_map

/-- The average cost of a group, to two places. -/
def averageOf? (group : List Product) : Option Binary64 :=
  (Binary64.mean? (group.filterMap Product.cost)).map Binary64.roundHundredths

theorem cell_average (lowest : Bool) (group : List Product) :
    Output.average.cell lowest (group.map alone) = .ofReal? (averageOf? group) := by
  rw [Output.cell, costs_alone, averageOf?]

/-- The plan groups products by a list of texts. -/
structure GroupsBy (plan : CatalogPlan) (key : Product → List (Option Text)) : Prop where
  source : plan.source = .catalog
  grouped : plan.grouping.isEmpty = false
  keys : ∀ offer, plan.key (alone offer) = (key offer).map Cell.ofText?

namespace GroupsBy

theorem orderKeys_eq (groupsBy : plan.GroupsBy key) (left right : Product) :
    Cell.orderKeys (plan.key (alone left)) (plan.key (alone right)) = compare (key left) (key right) := by
  have size : ∀ offer, (key offer).length = plan.grouping.length := by
    intro offer
    have lengths := congrArg List.length (groupsBy.keys offer)
    rw [Plan.key, List.length_map, List.length_map] at lengths
    exact lengths.symm
  rw [groupsBy.keys, groupsBy.keys, Cell.orderKeys_ofText? ((size left).trans (size right).symm)]

theorem groups_eq (groupsBy : plan.GroupsBy key) (offers : List Product) :
    plan.groups (offers.map alone) = (Grouping.groups key offers).map (List.map alone) := by
  have sorted := Sorting.map_sort (Grouping.inOrder key)
    (fun left right => Cell.orderKeys (plan.key left) (plan.key right) != .gt) alone offers
    fun left _ right _ => by rw [groupsBy.orderKeys_eq]; rfl
  have together := map_runs (Grouping.alike key)
    (fun left right => Cell.orderKeys (plan.key left) (plan.key right) == .eq) alone
    (Sorting.sort (Grouping.inOrder key) offers) fun left right => by rw [groupsBy.orderKeys_eq]; rfl
  rw [groups, groupsBy.grouped, if_neg Bool.false_ne_true]
  dsimp only
  rw [← sorted, ← together, Grouping.runs_sort]

/-- The rows of such a plan over the products that it keeps: a row for each group. -/
theorem allRows_eq (groupsBy : plan.GroupsBy key) (offers : List Product) :
    plan.allRows (offers.map alone) =
      (Sorting.sort (fun left right => plan.orderGroups left right != .gt)
        ((Grouping.groups key offers).map (List.map alone))).map plan.row := by
  rw [allRows, groupsBy.groups_eq]

/-- Groups that may stand in the order of their keys are not moved. -/
theorem allRows_of_ordered (groupsBy : plan.GroupsBy key)
    (ordered : ∀ first second rest others, compare (key first) (key second) = .lt →
      plan.orderGroups (alone first :: rest) (alone second :: others) ≠ .gt) (offers : List Product) :
    plan.allRows (offers.map alone) =
      (Grouping.groups key offers).map fun group => plan.row (group.map alone) := by
  have stands : ((Grouping.groups key offers).map (List.map alone)).Pairwise fun left right =>
      (plan.orderGroups left right != .gt) = true := by
    rw [Grouping.groups, List.map_map, List.pairwise_map]
    refine (Grouping.pairwise_ascending _).imp_of_mem fun {left right} inLeft inRight below => ?_
    obtain ⟨first, rest, firstGroup, firstKey⟩ := Grouping.exists_ofKey_eq_cons inLeft
    obtain ⟨second, others, secondGroup, secondKey⟩ := Grouping.exists_ofKey_eq_cons inRight
    rw [Function.comp_apply, Function.comp_apply, firstGroup, secondGroup, bne_iff_ne]
    rw [← firstKey, ← secondKey] at below
    exact ordered first second _ _ below
  rw [groupsBy.allRows_eq, Sorting.sort_eq_self stands, List.map_map]
  rfl

/-- The groups in the order of their averages. -/
theorem allRows_of_average (groupsBy : plan.GroupsBy key) (ordering : plan.ordering = [(.average, .ascending)])
    (offers : List Product) :
    plan.allRows (offers.map alone) =
      ((Grouping.groups key offers).mergeSort fun left right =>
        Cell.realsInOrder (averageOf? left) (averageOf? right)).map fun group => plan.row (group.map alone) := by
  have order : ∀ left right : List Product,
      (plan.orderGroups (left.map alone) (right.map alone) != .gt) =
        Cell.realsInOrder (averageOf? left) (averageOf? right) := by
    intro left right
    rw [orderGroups, ordering]
    change (((Output.average.cell plan.asksLowest (left.map alone)).order
      (Output.average.cell plan.asksLowest (right.map alone))).then .eq != .gt) = _
    rw [Ordering.then_eq, cell_average, cell_average, Cell.order_ofReal?]
  have sorted := Sorting.map_sort (fun left right => Cell.realsInOrder (averageOf? left) (averageOf? right))
    (fun left right => plan.orderGroups left right != .gt) (List.map alone) (Grouping.groups key offers)
    fun left _ right _ => order left right
  have stable := Sorting.sort_eq_mergeSort
    (fun first second third => Cell.realsInOrder_trans (averageOf? first) (averageOf? second) (averageOf? third))
    (fun first second => Cell.realsInOrder_total (averageOf? first) (averageOf? second)) (Grouping.groups key offers)
  rw [groupsBy.allRows_eq, ← sorted, List.map_map, stable]
  rfl

theorem records_filter (groupsBy : plan.GroupsBy key) {wanted : Product → Bool}
    (accepted : ∀ offer, plan.filters.all (·.accepts (alone offer)) = wanted offer) (catalog : Catalog) :
    ((plan.records catalog).filter fun record => plan.filters.all (·.accepts record)) =
      (catalog.products.filter wanted).map alone := by
  rw [records, groupsBy.source]
  change (catalog.products.map alone).filter _ = _
  rw [List.filter_map]
  exact congrArg _ (List.filter_congr fun offer _ => accepted offer)

/-- The rows of such a plan, when its conditions can be tested and together
accept the products that are wanted. -/
theorem rows_eq (groupsBy : plan.GroupsBy key) (decided : ∀ filter ∈ plan.filters, filter.Decided)
    {wanted : Product → Bool} (accepted : ∀ offer, plan.filters.all (·.accepts (alone offer)) = wanted offer)
    (catalog : Catalog) :
    plan.rows catalog = .ok (plan.cut (plan.allRows ((catalog.products.filter wanted).map alone))) := by
  rw [rows, kept_eq_ok decided, groupsBy.records_filter accepted]

end GroupsBy
end Plan
end FeedDesk
