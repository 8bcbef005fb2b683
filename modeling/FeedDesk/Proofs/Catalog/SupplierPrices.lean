import FeedDesk.Proofs.Catalog.Cheapest
import FeedDesk.Proofs.Catalog.Facets
import FeedDesk.Proofs.Catalog.Import

namespace FeedDesk

open Lookup

/-!
# Suppliers with their best prices

A question for suppliers is answered with one row for each pair of a supplier
and a region.  The row is made from a group of products, but it reads like the
row of one of them: the product of the group that has the least known cost, or
the last product where no cost is known.  Name, contact and currency are those
of this product, and the least cost of the group is its cost.

That the cost is the same, and not only as low, needs a fact about catalogs.
They know one zero, so costs at one position are equal.  The rows are described
by their products, and the order of the rows is an order of products.
-/

/-! ## Costs in a catalog -/

/-- The cost is finite, and no negative zero. -/
def Product.PlainCost (offer : Product) : Prop :=
  ∀ cost ∈ offer.cost, cost.isFinite = true ∧ cost.withOneZero = cost

namespace Connection

/-- Costs are brought to the one zero when they are added. -/
theorem Reachable.withOneZero {connection : Connection} (reachable : connection.Reachable) :
    ∀ offer ∈ connection.catalog.products, ∀ cost ∈ offer.cost, cost.withOneZero = cost := by
  induction reachable with
  | opened => exact fun _ impossible => (nomatch impossible)
  | left _ _ inductionHypothesis => exact inductionHypothesis
  | @added connection _ fixture _ _ inductionHypothesis =>
      rw [Connection.add]
      split
      · exact inductionHypothesis
      · intro offer member cost known
        obtain ⟨added, whole, alike⟩ := connection.catalog.exists_products_add fixture
        dsimp only at member
        rw [whole] at member
        rcases List.mem_append.mp member with old | new
        · exact inductionHypothesis offer old cost known
        · obtain ⟨record, same⟩ := Catalog.exists_of_forall₂ alike new
          rw [same] at known
          obtain ⟨given, _, rfl⟩ := Option.map_eq_some_iff.mp known
          exact Binary64.withOneZero_withOneZero given

theorem Reachable.plainCost {connection : Connection} (reachable : connection.Reachable) :
    ∀ offer ∈ connection.catalog.products, offer.PlainCost :=
  fun offer member cost known =>
    ⟨reachable.kept.costs offer member cost known, reachable.withOneZero offer member cost known⟩

end Connection

/-! ## The product that speaks for a group -/

namespace Product

/-- The first product of the least known cost, or the last product if no cost is known. -/
def best? (group : List Product) : Option Product :=
  match Binary64.least? (group.filterMap cost) with
  | some least => group.find? fun offer => offer.cost.any fun cost => cost.position == least.position
  | none => group.getLast?

/-- The product is the one that speaks for its group.  Its cost is the least one
that is known there, and the same as the least cost that is computed. -/
structure Represents (offer : Product) (group : List Product) : Prop where
  chosen : best? group = some offer
  member : offer ∈ group
  least : ∀ other ∈ group, ∀ cost ∈ other.cost, ∃ price ∈ offer.cost, price.le cost = true
  computed : Binary64.least? (group.filterMap cost) = offer.cost

theorem mem_costs {group : List Product} {known : Binary64} :
    known ∈ group.filterMap cost ↔ ∃ offer ∈ group, offer.cost = some known :=
  List.mem_filterMap

/-- Where no cost is known, the last product speaks for the group. -/
theorem represents_getLast {group : List Product} (nonempty : group ≠ []) (unknown : group.filterMap cost = []) :
    (group.getLast nonempty).Represents group := by
  have none := List.filterMap_eq_nil_iff.mp unknown
  have last := List.getLast_mem nonempty
  refine ⟨?_, last, ?_, ?_⟩
  · rw [best?, unknown]
    exact List.getLast?_eq_getLast_of_ne_nil nonempty
  · intro other member cost known
    rw [none other member] at known
    cases known
  · rw [unknown, none _ last]
    rfl

/-- Where a cost is known, the search for the least one ends, and it ends at a
product that has this very cost. -/
theorem exists_represents_of_known {group : List Product} (known : group.filterMap cost ≠ [])
    (plain : ∀ offer ∈ group, offer.PlainCost) : ∃ offer : Product, offer.Represents group := by
  have finite : ∀ cost ∈ group.filterMap Product.cost, cost.isFinite = true := by
    intro cost listed
    obtain ⟨offer, member, here⟩ := mem_costs.mp listed
    exact (plain offer member cost here).1
  obtain ⟨least, listed, found, below⟩ := Binary64.exists_least? known finite
  obtain ⟨source, sourceMember, sourceCost⟩ := mem_costs.mp listed
  have searched : (group.find? fun offer =>
      offer.cost.any fun cost => cost.position == least.position).isSome = true := by
    refine List.find?_isSome.mpr ⟨source, sourceMember, ?_⟩
    rw [sourceCost, Option.any_some, beq_self_eq_true]
  obtain ⟨offer, first⟩ := Option.isSome_iff_exists.mp searched
  have member := List.mem_of_find?_eq_some first
  have passed := List.find?_some first
  obtain ⟨price, offerCost, alike⟩ := (Option.any_eq_true _ _).mp passed
  have same : price = least := Binary64.eq_of_position_eq (plain offer member price offerCost).2
    (plain source sourceMember least sourceCost).2 (beq_iff_eq.mp alike)
  rw [same] at offerCost
  refine ⟨offer, ?_, member, ?_, ?_⟩
  · rw [best?, found]
    exact first
  · intro other otherMember cost otherCost
    exact ⟨least, offerCost, below cost (mem_costs.mpr ⟨other, otherMember, otherCost⟩)⟩
  · rw [found, offerCost]

theorem exists_represents {group : List Product} (nonempty : group ≠ [])
    (plain : ∀ offer ∈ group, offer.PlainCost) : ∃ offer : Product, offer.Represents group := by
  by_cases unknown : group.filterMap cost = []
  · exact ⟨_, represents_getLast nonempty unknown⟩
  · exact exists_represents_of_known unknown plain

/-- The row of a product in the answer. -/
def supplierRow (offer : Product) : Row := [
  ("supplier", .ofText? offer.supplier), ("supplier_country", .ofText? offer.region),
  ("supplier_email", .ofText? offer.email), ("supplier_phone", .ofText? offer.phone),
  ("product_name", .string offer.name), ("cost_per_kg", (Cell.ofReal? offer.cost).json),
  ("cost_currency", .ofText? offer.currency)]

/-- The order of an answer: by regions, the unknown one first, and within a
region by costs, the unknown ones first. -/
def ListedBefore (first second : Product) : Prop :=
  compare first.region second.region = .lt ∨ first.region = second.region ∧ first.noDearer second = true

/-- The comparison by which rows are sorted. -/
def inRegionOrder (first second : Product) : Bool :=
  (compare first.region second.region).then ((Cell.ofReal? first.cost).order (.ofReal? second.cost)) != .gt

theorem inRegionOrder_iff (first second : Product) :
    first.inRegionOrder second = true ↔ compare first.region second.region = .lt ∨
      first.region = second.region ∧ Cell.realsInOrder first.cost second.cost = true := by
  rw [inRegionOrder, ← Cell.order_ofReal?]
  cases order : compare first.region second.region with
  | lt => exact ⟨fun _ => Or.inl rfl, fun _ => rfl⟩
  | eq =>
      have same := Std.compare_eq_iff_eq.mp order
      exact ⟨fun before => Or.inr ⟨same, before⟩, fun either => either.elim (fun impossible => (nomatch impossible)) And.right⟩
  | gt =>
      have different : first.region ≠ second.region := by
        intro same
        rw [same, Std.compare_self] at order
        cases order
      refine ⟨fun impossible => (nomatch impossible), fun either => ?_⟩
      rcases either with impossible | ⟨same, _⟩
      · cases impossible
      · exact absurd same different

theorem inRegionOrder_trans (first second third : Product) (before : first.inRegionOrder second = true)
    (behind : second.inRegionOrder third = true) : first.inRegionOrder third = true := by
  rw [inRegionOrder_iff] at *
  rcases before with below | ⟨same, cost⟩
  · rcases behind with further | ⟨same, _⟩
    · exact Or.inl (Std.TransCmp.lt_trans below further)
    · exact Or.inl (same ▸ below)
  · rcases behind with further | ⟨alsoSame, further⟩
    · exact Or.inl (same ▸ further)
    · exact Or.inr ⟨same.trans alsoSame, Cell.realsInOrder_trans _ _ _ cost further⟩

theorem inRegionOrder_total (first second : Product) :
    (first.inRegionOrder second || second.inRegionOrder first) = true := by
  rw [Bool.or_eq_true, inRegionOrder_iff, inRegionOrder_iff]
  cases order : compare first.region second.region with
  | lt => exact Or.inl (Or.inl rfl)
  | eq =>
      have same := Std.compare_eq_iff_eq.mp order
      have total := Bool.or_eq_true_iff.mp (Cell.realsInOrder_total first.cost second.cost)
      exact total.imp (fun cost => Or.inr ⟨same, cost⟩) fun cost => Or.inr ⟨same.symm, cost⟩
  | gt => exact Or.inr (Or.inl (Std.OrientedCmp.gt_iff_lt.mp order))

/-- On costs of a catalog the two orders agree. -/
theorem listedBefore_of_inRegionOrder {first second : Product} (firstPlain : first.PlainCost)
    (secondPlain : second.PlainCost) (before : first.inRegionOrder second = true) :
    first.ListedBefore second := by
  have number : ∀ {offer : Product}, offer.PlainCost → ∀ cost, offer.cost = some cost → cost.isNaN = false :=
    fun plain cost known => Binary64.isNaN_of_isFinite (plain cost known).1
  rw [ListedBefore, noDearer_eq (number firstPlain) (number secondPlain)]
  exact (inRegionOrder_iff first second).mp before

end Product

/-! ## The groups of a question -/

/-- The products that speak for the groups, in the order of the groups. -/
def representatives (offers : List Product) : List Product :=
  (Grouping.groups supplierKey offers).filterMap Product.best?

section Representatives

variable {offers : List Product} (plain : ∀ offer ∈ offers, offer.PlainCost)

include plain

theorem exists_represents_ofKey {key : List (Option Text)}
    (listed : key ∈ Grouping.ascending (offers.map supplierKey)) :
    ∃ offer : Product, offer.Represents (Grouping.ofKey supplierKey offers key) ∧ supplierKey offer = key := by
  obtain ⟨first, rest, whole, _⟩ := Grouping.exists_ofKey_eq_cons listed
  have nonempty : Grouping.ofKey supplierKey offers key ≠ [] := by
    rw [whole]
    exact List.cons_ne_nil first rest
  obtain ⟨offer, represents⟩ := Product.exists_represents nonempty fun offer member =>
    plain offer (Grouping.mem_ofKey.mp member).1
  exact ⟨offer, represents, (Grouping.mem_ofKey.mp represents.member).2⟩

/-- There is one for each key. -/
theorem map_supplierKey_representatives :
    (representatives offers).map supplierKey = Grouping.ascending (offers.map supplierKey) := by
  rw [representatives, Grouping.groups, List.filterMap_map, List.map_filterMap]
  have same : ∀ key ∈ Grouping.ascending (offers.map supplierKey),
      (Product.best? (Grouping.ofKey supplierKey offers key)).map supplierKey = some key := by
    intro key listed
    obtain ⟨offer, represents, keyed⟩ := exists_represents_ofKey plain listed
    rw [represents.chosen, Option.map_some, keyed]
  exact (List.filterMap_congr same).trans List.filterMap_some

theorem represents_of_mem {offer : Product} (member : offer ∈ representatives offers) :
    offer.Represents (Grouping.ofKey supplierKey offers (supplierKey offer)) := by
  rw [representatives, Grouping.groups, List.filterMap_map] at member
  obtain ⟨key, listed, chosen⟩ := List.mem_filterMap.mp member
  obtain ⟨other, represents, keyed⟩ := exists_represents_ofKey plain listed
  have same : other = offer := Option.some.inj (represents.chosen.symm.trans chosen)
  rw [← same, keyed]
  exact represents

/-- The groups are found again from the products that speak for them. -/
theorem map_ofKey_representatives :
    ((representatives offers).map fun offer => Grouping.ofKey supplierKey offers (supplierKey offer)) =
      Grouping.groups supplierKey offers := by
  rw [Grouping.groups, ← map_supplierKey_representatives plain, List.map_map]
  rfl

end Representatives

/-! ## The plan -/

namespace Synthesis

theorem supplierLookup_eq (entities : Entities) :
    supplierLookup entities = {
      source := .catalog
      projection := [field .supplier, field .region, field .email, field .phone, field .name, .lowestCost,
        field .currency]
      filters := searchConditions entities.criteria ++ [hasSupplier]
      grouping := [field .supplier, field .region]
      ordering := [(field .region, .ascending), (.lowestCost, .ascending)]
      limit := some 15 } := by
  simp only [supplierLookup, about, Plan.filterIf_eq, Plan.filter, Plan.groupBy, Plan.orderBy, Plan.cutAt,
    searchConditions, Entities.criteria, Option.map_none, Option.toList_none, List.nil_append, List.append_assoc]
  rfl

theorem groupsBy_supplierLookup (entities : Entities) : (supplierLookup entities).GroupsBy supplierKey := by
  rw [supplierLookup_eq]
  exact ⟨rfl, rfl, fun _ => rfl⟩

/-- The conditions are those of a question for the cheapest offer. -/
theorem filters_supplierLookup (entities : Entities) :
    (supplierLookup entities).filters = (cheapest entities).filters := by
  rw [supplierLookup_eq, cheapest_eq]

end Synthesis

namespace Product.Represents

variable {offer : Product} {group : List Product} (represents : offer.Represents group)

include represents

/-- The plan takes the same product as representative. -/
theorem representative?_alone : Output.representative? true (group.map Plan.alone) = some (Plan.alone offer) := by
  have chosen := congrArg (Option.map Plan.alone) represents.chosen
  rw [best?] at chosen
  rw [Output.representative?, if_pos rfl, Plan.costs_alone]
  cases found : Binary64.least? (group.filterMap Product.cost) with
  | none =>
      rw [found] at chosen
      exact List.getLast?_map.trans chosen
  | some least =>
      rw [found] at chosen
      exact List.find?_map.trans chosen

theorem cell_field (column : ProductColumn) :
    (field column).cell true (group.map Plan.alone) = offer.cell column := by
  rw [field, Output.cell, represents.representative?_alone]
  rfl

theorem cell_lowestCost : Output.lowestCost.cell true (group.map Plan.alone) = .ofReal? offer.cost := by
  rw [Output.cell, Plan.costs_alone, represents.computed]

theorem row_supplierLookup (entities : Entities) :
    (Synthesis.supplierLookup entities).row (group.map Plan.alone) = offer.supplierRow := by
  have cells : (Synthesis.supplierLookup entities).row (group.map Plan.alone) =
      [field .supplier, field .region, field .email, field .phone, field .name, .lowestCost, field .currency].map
        fun output => (output.label, (output.cell true (group.map Plan.alone)).json) := by
    rw [Synthesis.supplierLookup_eq]
    rfl
  simp only [cells, List.map_cons, List.map_nil, represents.cell_field, represents.cell_lowestCost, supplierRow,
    ← json_ofText?]
  rfl

theorem orderGroups_supplierLookup (entities : Entities) {other : Product} {others : List Product}
    (otherRepresents : other.Represents others) :
    ((Synthesis.supplierLookup entities).orderGroups (group.map Plan.alone) (others.map Plan.alone) != .gt) =
      offer.inRegionOrder other := by
  rw [Synthesis.supplierLookup_eq]
  change ((((field .region).cell true (group.map Plan.alone)).order
    ((field .region).cell true (others.map Plan.alone))).then
      (((Output.lowestCost.cell true (group.map Plan.alone)).order
        (Output.lowestCost.cell true (others.map Plan.alone))).then .eq) != .gt) = _
  rw [represents.cell_field, otherRepresents.cell_field, represents.cell_lowestCost, otherRepresents.cell_lowestCost,
    Ordering.then_eq, inRegionOrder, ← Cell.order_ofText?]
  rfl

end Product.Represents

/-! ## The answer -/

/-- The products that an answer shows: one of each supplier in each region,
which no other one of this supplier there undercuts, in the order of the answer. -/
structure BestBySupplier (offers best : List Product) : Prop where
  pairs : Grouping.Enumerates (best.map supplierKey) (offers.map supplierKey)
  offered : ∀ offer ∈ best, offer ∈ offers
  least : ∀ offer ∈ best, ∀ other ∈ offers, supplierKey other = supplierKey offer →
    ∀ cost ∈ other.cost, ∃ price ∈ offer.cost, price.le cost = true
  ordered : best.Pairwise Product.ListedBefore

section Answer

variable {offers : List Product} (plain : ∀ offer ∈ offers, offer.PlainCost)

include plain

theorem bestBySupplier_sort : BestBySupplier offers (Sorting.sort Product.inRegionOrder (representatives offers)) := by
  have sorted := Sorting.sort_perm Product.inRegionOrder (representatives offers)
  have group : ∀ offer ∈ Sorting.sort Product.inRegionOrder (representatives offers),
      offer.Represents (Grouping.ofKey supplierKey offers (supplierKey offer)) := by
    intro offer member
    exact represents_of_mem plain (sorted.mem_iff.mp member)
  have offered : ∀ offer ∈ Sorting.sort Product.inRegionOrder (representatives offers), offer ∈ offers := by
    intro offer member
    exact (Grouping.mem_ofKey.mp (group offer member).member).1
  refine { pairs := ?_, offered, least := ?_, ordered := ?_ }
  · have keys := Grouping.enumerates_ascending (offers.map supplierKey)
    rw [← map_supplierKey_representatives plain] at keys
    have same := sorted.map supplierKey
    exact ⟨same.nodup_iff.mpr keys.nodup, fun key => same.mem_iff.trans (keys.mem_iff key)⟩
  · intro offer member other inOffers keyed
    exact (group offer member).least other (Grouping.mem_ofKey.mpr ⟨inOffers, keyed⟩)
  · have ordered := Sorting.pairwise_sort Product.inRegionOrder_trans Product.inRegionOrder_total (representatives offers)
    refine ordered.imp_of_mem fun {first second} inFirst inSecond before => ?_
    exact Product.listedBefore_of_inRegionOrder (plain first (offered first inFirst))
      (plain second (offered second inSecond)) before

theorem allRows_supplierLookup (entities : Entities) :
    (Synthesis.supplierLookup entities).allRows (offers.map Plan.alone) =
      (Sorting.sort Product.inRegionOrder (representatives offers)).map Product.supplierRow := by
  have order : ∀ first ∈ representatives offers, ∀ second ∈ representatives offers,
      ((Synthesis.supplierLookup entities).orderGroups
        ((Grouping.ofKey supplierKey offers (supplierKey first)).map Plan.alone)
        ((Grouping.ofKey supplierKey offers (supplierKey second)).map Plan.alone) != .gt) =
      first.inRegionOrder second := by
    intro first inFirst second inSecond
    exact (represents_of_mem plain inFirst).orderGroups_supplierLookup entities (represents_of_mem plain inSecond)
  rw [(Synthesis.groupsBy_supplierLookup entities).allRows_eq, ← map_ofKey_representatives plain, List.map_map,
    ← Sorting.map_sort _ _ _ _ order, List.map_map]
  refine List.map_congr_left fun offer member => ?_
  have represents := represents_of_mem plain (Sorting.mem_sort.mp member)
  exact represents.row_supplierLookup entities

end Answer

/-- A question for suppliers is answered with one row for each pair of a
supplier and a region among the offers.  The row is that of a product of this
pair, and no cost of the pair is below the one of this product.  The rows are
ordered by regions and then by these costs; the first fifteen are given. -/
theorem Synthesis.best_price_by_supplier {connection : Connection} (reachable : connection.Reachable) (text : Text) :
    ∃ best, BestBySupplier ((Entities.ofText text).offers connection.catalog) best ∧
      Plan.rows { supplierLookup (Entities.ofText text) with limit := none } connection.catalog =
        .ok (best.map Product.supplierRow) ∧
      (supplierLookup (Entities.ofText text)).rows connection.catalog =
        .ok ((best.map Product.supplierRow).take 15) := by
  have searchable := Entities.searchable_ofText text
  have plain : ∀ offer ∈ (Entities.ofText text).offers connection.catalog, offer.PlainCost := by
    intro offer member
    exact reachable.plainCost offer (List.mem_filter.mp member).1
  have decided := decided_cheapest searchable
  have accepted := all_cheapest searchable
  rw [← filters_supplierLookup] at decided
  simp only [← filters_supplierLookup] at accepted
  have grouped := groupsBy_supplierLookup (Entities.ofText text)
  have uncut : Plan.GroupsBy { supplierLookup (Entities.ofText text) with limit := none } supplierKey :=
    ⟨grouped.source, grouped.grouped, grouped.keys⟩
  have rows := allRows_supplierLookup plain (Entities.ofText text)
  refine ⟨_, bestBySupplier_sort plain, ?_, ?_⟩
  · rw [uncut.rows_eq decided accepted, ← rows]
    rfl
  · rw [grouped.rows_eq decided accepted, ← rows, Plan.cut, supplierLookup_eq]
    rfl

/-! A supplier with two prices in one region, and with an offer for which
neither a region nor a price is known. -/

def strawPricesText : Text :=
  "\x7b\"products\":[\x7b\"product_name\":\"Wheat Straw\",\"cost_per_kg\":2.5,\"supplier\":\"A\"," ++
    "\"supplier_country\":\"Oman\"\x7d,\x7b\"product_name\":\"Wheat Straw\",\"cost_per_kg\":1.5," ++
    "\"cost_currency\":\"OMR\",\"supplier\":\"A\",\"supplier_country\":\"Oman\"\x7d," ++
    "\x7b\"product_name\":\"Wheat Straw\",\"supplier\":\"A\"\x7d]\x7d"

def strawPrices : Fixture where
  products := [
    { name := "Wheat Straw", cost := some (.ofDecimal false 25 (-1)), supplier := some "A", region := some "Oman" },
    { name := "Wheat Straw", cost := some (.ofDecimal false 15 (-1)), currency := some "OMR",
      supplier := some "A", region := some "Oman" },
    { name := "Wheat Straw", supplier := some "A" }]

def strawPricesConnection : Connection :=
  (Connection.add {} strawPrices).2

example : ((Synthesis.supplierLookup (Entities.ofText "wheat straw")).rows
    strawPricesConnection.catalog).toOption.map (List.map Row.price?) =
      some [none, some (.ofDecimal false 15 (-1))] := by
  decide +kernel

theorem Synthesis.best_price_by_supplier_straw :
    strawPricesConnection.Reachable ∧
      ((Entities.ofText "wheat straw").offers strawPricesConnection.catalog).length = 3 ∧
      ∃ best, BestBySupplier ((Entities.ofText "wheat straw").offers strawPricesConnection.catalog) best ∧
        Plan.rows { supplierLookup (Entities.ofText "wheat straw") with limit := none }
          strawPricesConnection.catalog = .ok (best.map Product.supplierRow) ∧
        (supplierLookup (Entities.ofText "wheat straw")).rows strawPricesConnection.catalog =
          .ok ((best.map Product.supplierRow).take 15) := by
  have read : Fixture.ofText? strawPricesText = some strawPrices := by decide +kernel
  have reachable : strawPricesConnection.Reachable := .added read .opened
  have offered : ((Entities.ofText "wheat straw").offers strawPricesConnection.catalog).length = 3 := by
    decide +kernel
  exact ⟨reachable, offered, best_price_by_supplier reachable "wheat straw"⟩

end FeedDesk
