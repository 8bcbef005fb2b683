import FeedDesk.Proofs.Catalog.Facets
import FeedDesk.Proofs.Store.Reachable

namespace FeedDesk

/-!
# The names of the counts

The statistics group products by a value that may be missing, and only then give
the missing value a name.  Nothing keeps this name apart from the others: a
catalog may hold it as a value of its own, and then two groups are shown under
one name.  This is the only way in which a name can be shown twice, because the
groups themselves have distinct values.

What is shown under a name is compared here with the products that have the
name, whether they hold it as a value or go by it for want of one.  Added up,
the counts under a name are always right.  Each of them alone is right exactly
if no name is shared.
-/

namespace Statistics

/-- The name under which a value is counted. -/
def nameOf (value : Option Text) : Text :=
  value.getD unknownName

/-- Some of the values are missing, and others are the name of the missing ones. -/
def SharesName (values : List (Option Text)) : Prop :=
  none ∈ values ∧ some unknownName ∈ values

instance (values : List (Option Text)) : Decidable (SharesName values) :=
  inferInstanceAs (Decidable (none ∈ values ∧ some unknownName ∈ values))

/-- The products that are counted under a name. -/
def under (offers : List Product) (column : Product → Option Text) (name : Text) : List Product :=
  offers.filter fun offer => decide (nameOf (column offer) = name)

/-- What the counts of a column tell by their names. -/
structure Named (offers : List Product) (column : Product → Option Text) (shown : List Count) : Prop where
  /-- The names are those of the products. -/
  mem_iff : ∀ name, name ∈ shown.map Count.name ↔ name ∈ offers.map fun offer => nameOf (column offer)
  /-- The counts under a name add up to the products that go by it. -/
  sums : ∀ name, ((shown.filter fun count => decide (count.name = name)).map Count.count).sum =
    (under offers column name).length
  /-- Every name is shown once, unless one is shared. -/
  nodup_iff : (shown.map Count.name).Nodup ↔ ¬ SharesName (offers.map column)
  /-- Every count is the number of the products that go by its name, unless one
  is shared. -/
  exact_iff : (∀ count ∈ shown, count.count = (under offers column count.name).length) ↔
    ¬ SharesName (offers.map column)

/-! ## Values with one name -/

theorem nameOf_eq_nameOf {first second : Option Text} (same : nameOf first = nameOf second) :
    first = second ∨ first = none ∧ second = some unknownName ∨ first = some unknownName ∧ second = none := by
  cases first with
  | none =>
      cases second with
      | none => exact Or.inl rfl
      | some name => exact Or.inr (Or.inl ⟨rfl, congrArg some (Eq.symm same)⟩)
  | some name =>
      cases second with
      | none => exact Or.inr (Or.inr ⟨congrArg some same, rfl⟩)
      | some other => exact Or.inl (congrArg some same)

/-- Unless the name of the missing values is shared, a value is told by its name. -/
theorem eq_of_nameOf_eq {values : List (Option Text)} (apart : ¬ SharesName values) {first second : Option Text}
    (inFirst : first ∈ values) (inSecond : second ∈ values) (same : nameOf first = nameOf second) :
    first = second := by
  rcases nameOf_eq_nameOf same with equal | ⟨rfl, rfl⟩ | ⟨rfl, rfl⟩
  · exact equal
  · exact absurd ⟨inFirst, inSecond⟩ apart
  · exact absurd ⟨inSecond, inFirst⟩ apart

theorem nodup_map_nameOf_iff {values : List (Option Text)} (distinct : values.Nodup) :
    (values.map nameOf).Nodup ↔ ¬ SharesName values := by
  rw [List.nodup_map_iff_inj_on distinct]
  constructor
  · rintro injective ⟨missing, known⟩
    have impossible := injective none missing (some unknownName) known rfl
    cases impossible
  · intro apart first inFirst second inSecond same
    exact eq_of_nameOf_eq apart inFirst inSecond same

/-! ## Counts of a column -/

section Column

variable {offers : List Product} {column : Product → Option Text} {groups : List (Option Text × Nat)}

theorem map_name_counts (groups : List (Option Text × Nat)) :
    (counts groups).map Count.name = (groups.map Prod.fst).map nameOf := by
  rw [counts, List.map_map, List.map_map]
  rfl

theorem sum_counts_under (name : Text) (groups : List (Option Text × Nat)) :
    (((counts groups).filter fun count => decide (count.name = name)).map Count.count).sum =
      ((groups.filter fun group => decide (nameOf group.1 = name)).map Prod.snd).sum := by
  rw [← sum_counts, counts, counts, List.filter_map]
  rfl

theorem length_under (offers : List Product) (column : Product → Option Text) (name : Text) :
    (under offers column name).length =
      ((offers.map column).filter fun value => decide (nameOf value = name)).length := by
  rw [List.filter_map, List.length_map]
  rfl

/-- A product whose value has the name of the missing ones makes the group of
these smaller than what goes by their name. -/
theorem length_missing_lt (shares : SharesName (offers.map column)) :
    (offers.filter fun offer => decide (column offer = none)).length < (under offers column unknownName).length := by
  have within : (offers.filter fun offer => decide (column offer = none)).Sublist
      (under offers column unknownName) := by
    refine List.monotone_filter_right offers fun offer missing => ?_
    rw [of_decide_eq_true missing]
    exact decide_eq_true rfl
  refine Nat.lt_of_not_le fun few => ?_
  obtain ⟨offer, listed, known⟩ := List.mem_map.mp shares.2
  have inside : offer ∈ under offers column unknownName :=
    List.mem_filter.mpr ⟨listed, decide_eq_true (by rw [known]; rfl)⟩
  rw [← within.eq_of_length_le few] at inside
  have missing := of_decide_eq_true (List.mem_filter.mp inside).2
  rw [known] at missing
  cases missing

theorem filter_eq_under (apart : ¬ SharesName (offers.map column)) {value : Option Text}
    (occurs : value ∈ offers.map column) :
    (offers.filter fun offer => decide (column offer = value)) = under offers column (nameOf value) := by
  refine List.filter_congr fun offer listed => ?_
  rw [decide_eq_decide]
  constructor
  · rintro rfl
    rfl
  · exact eq_of_nameOf_eq apart (List.mem_map_of_mem listed) occurs

theorem exact_counts_iff (tallies : Tallies offers column groups) :
    (∀ count ∈ counts groups, count.count = (under offers column count.name).length) ↔
      ¬ SharesName (offers.map column) := by
  constructor
  · intro right shares
    obtain ⟨⟨_, size⟩, listed, rfl⟩ := List.mem_map.mp ((tallies.values.mem_iff none).mpr shares.1)
    have counted : size = _ := tallies.sizes _ listed
    have shown : (size : Int) = (under offers column unknownName).length := right _ (List.mem_map_of_mem listed)
    exact absurd (counted.symm.trans (Int.ofNat_inj.mp shown)) (Nat.ne_of_lt (length_missing_lt shares))
  · intro apart count member
    obtain ⟨⟨value, size⟩, listed, rfl⟩ := List.mem_map.mp member
    have occurs : value ∈ offers.map column := (tallies.values.mem_iff value).mp (List.mem_map_of_mem listed)
    have counted : size = _ := tallies.sizes _ listed
    rw [filter_eq_under apart occurs] at counted
    exact congrArg Int.ofNat counted

/-- In whatever order the groups of a column are put, their counts are named alike. -/
theorem named_counts (moved : groups.Perm (tally (offers.map column))) : Named offers column (counts groups) := by
  have tallies := (tallies_tally offers column).perm moved
  refine ⟨fun name => ?_, fun name => ?_, ?_, exact_counts_iff tallies⟩
  · rw [map_name_counts, ← Function.comp_def nameOf column, ← List.map_map, List.mem_map, List.mem_map]
    exact exists_congr fun value => and_congr_left' (tallies.values.mem_iff value)
  · have kept := (moved.filter fun group => decide (nameOf group.1 = name)).map Prod.snd
    rw [sum_counts_under, kept.sum_eq, ← tally_filter fun value => decide (nameOf value = name), sum_tally,
      length_under]
  · rw [map_name_counts, nodup_map_nameOf_iff tallies.values.nodup]
    exact not_congr (and_congr (tallies.values.mem_iff none) (tallies.values.mem_iff (some unknownName)))

end Column

end Statistics

namespace Connection

/-- The statistics of a catalog are always given.  In them the counts by
category, and those by region, have distinct names exactly if it is not the case
that some active product lacks the value while another one has the name of the
missing values for it.  Exactly then, too, each count is the number of the
active products that go by its name. -/
theorem names_once_iff (connection : Connection) :
    ∃ statistics, store.statistics connection = .ok statistics ∧
      Statistics.Named connection.catalog.onOffer Product.category statistics.byCategory ∧
      Statistics.Named connection.catalog.onOffer Product.region statistics.byRegion := by
  refine ⟨_, rfl, ?_, ?_⟩
  · exact Statistics.named_counts (List.Perm.refl _)
  · exact Statistics.named_counts (Statistics.perm_bySize _)

/-! Two products, one of a category that is called like the missing one, and one
that has no category. -/

def unsortedText : Text :=
  "\x7b\"products\":[\x7b\"product_name\":\"Oats\",\"type\":\"Unknown\"\x7d,\x7b\"product_name\":\"Hay\"\x7d]\x7d"

def unsorted : Fixture where
  products := [{ name := "Oats", category := some "Unknown" }, { name := "Hay" }]

theorem name_shown_twice :
    (add {} unsorted).2.Reachable ∧ ∃ statistics, store.statistics (add {} unsorted).2 = .ok statistics ∧
      statistics.byCategory = [⟨"Unknown", 1⟩, ⟨"Unknown", 1⟩] ∧ ¬ (statistics.byCategory.map Count.name).Nodup ∧
      (Statistics.under (add {} unsorted).2.catalog.onOffer Product.category "Unknown").length = 2 := by
  have read : Fixture.ofText? unsortedText = some unsorted := by decide +kernel
  refine ⟨.added read .opened, _, rfl, ?_⟩
  decide +kernel

end Connection
end FeedDesk
