import FeedDesk.Proofs.Catalog.Cheapest
import FeedDesk.Proofs.Catalog.MonthlyPrices
import FeedDesk.Proofs.Number.Sum

namespace FeedDesk

open Lookup Synthesis

/-!
# Average prices of the markets

A question for average prices is answered market by market.  A market is a
region together with a currency, and either of them may be unknown.  Every
product that the question asks about belongs to one market, whether or not its
cost is known; the markets that occur have one row each, and no limit cuts the
rows off.

A market counts all its products, but its prices come from the known costs.  The
least and the greatest of these are numbers again.  The average is one as far as
the sum of the costs is, and for this a bound is given: sixty million products
of costs up to 2 ^ 970 stay far below what a number can hold.
-/

/-! ## Markets -/

/-- The active products that a question asks about, in id order. -/
def Catalog.about (catalog : Catalog) (entities : Entities) : List Product :=
  catalog.products.filter fun offer =>
    offer.isActive && named entities.product offer && entities.region.all fun place => decide (offer.region = some place)

theorem Catalog.mem_about {catalog : Catalog} {entities : Entities} (searchable : entities.criteria.Searchable)
    (offer : Product) :
    offer ∈ catalog.about entities ↔ offer ∈ catalog.products ∧ offer.isActive = true ∧
      (∀ value ∈ entities.product, offer.name.Mentions value) ∧ ∀ place ∈ entities.region, offer.region = some place := by
  have name : named entities.product offer = true ↔ ∀ value ∈ entities.product, offer.name.Mentions value :=
    named_iff searchable.product
  rw [about, List.mem_filter, Bool.and_eq_true, Bool.and_eq_true, name, Option.all_eq_true, and_assoc]
  simp only [decide_eq_true_eq, Option.mem_def]

/-- What the products of one market have in common. -/
def Product.marketKey (offer : Product) : List (Option Text) :=
  [offer.region, offer.currency]

/-- A region and a currency, with the products that are offered there. -/
structure Market where
  region : Option Text
  currency : Option Text
  offers : List Product

namespace Market

variable (market : Market)

def key : List (Option Text) :=
  [market.region, market.currency]

/-- The known costs. -/
def costs : List Binary64 :=
  market.offers.filterMap Product.cost

def average? : Option Binary64 :=
  (Binary64.mean? market.costs).map .roundHundredths

def least? : Option Binary64 :=
  (Binary64.least? market.costs).map .roundHundredths

def greatest? : Option Binary64 :=
  (Binary64.greatest? market.costs).map .roundHundredths

/-- The row of the answer. -/
def row : Row := [
  ("supplier_country", .ofText? market.region), ("cost_currency", .ofText? market.currency),
  ("avg_price", (Cell.ofReal? market.average?).json), ("min_price", (Cell.ofReal? market.least?).json),
  ("max_price", (Cell.ofReal? market.greatest?).json), ("supplier_count", .integer market.offers.length)]

/-- The columns of a row that are prices. -/
def priceColumns : List Text :=
  ["avg_price", "min_price", "max_price"]

/-- No cost is known. -/
def Unpriced : Prop :=
  ∀ offer ∈ market.offers, offer.cost = none

/-- The sum of the costs does not leave the numbers. -/
def InRange : Prop :=
  (Binary64.sum market.costs).isFinite = true

/-- The market of products that have the same key. -/
def ofGroup (group : List Product) : Market where
  region := group.head?.bind Product.region
  currency := group.head?.bind Product.currency
  offers := group

theorem key_ofGroup (first : Product) (rest : List Product) : (ofGroup (first :: rest)).key = first.marketKey :=
  rfl

/-- The markets of some products: one for each key that occurs, with all the
products of this key. -/
structure Of (offers : List Product) (markets : List Market) : Prop where
  keys : Grouping.Enumerates (markets.map key) (offers.map Product.marketKey)
  offers : ∀ market ∈ markets, market.offers = offers.filter fun offer => decide (offer.marketKey = market.key)

/-- The markets in the order of their keys. -/
def inKeyOrder (offers : List Product) : List Market :=
  (Grouping.groups Product.marketKey offers).map ofGroup

theorem map_key_inKeyOrder (offers : List Product) :
    (inKeyOrder offers).map key = Grouping.ascending (offers.map Product.marketKey) :=
  Grouping.map_entryKey_groups fun first rest _ => key_ofGroup first rest

theorem of_inKeyOrder (offers : List Product) : Of offers (inKeyOrder offers) where
  keys := by
    rw [map_key_inKeyOrder]
    exact Grouping.enumerates_ascending _
  offers := by
    intro market member
    have whole := Grouping.eq_make_of_mem (fun first rest _ => key_ofGroup first rest) member
    exact congrArg Market.offers whole

namespace Of

variable {offers : List Product} {markets others : List Market}

theorem perm (of : Of offers markets) (same : others.Perm markets) : Of offers others where
  keys := by
    have keys := same.map key
    exact ⟨keys.nodup_iff.mpr of.keys.nodup, fun value => keys.mem_iff.trans (of.keys.mem_iff value)⟩
  offers := fun market member => of.offers market (same.mem_iff.mp member)

/-- Every product is counted in one market. -/
theorem sum_counts (of : Of offers markets) :
    (markets.map fun market => market.offers.length).sum = offers.length := by
  have sizes : (markets.map fun market => market.offers.length) =
      (markets.map key).map fun value => (Grouping.ofKey Product.marketKey offers value).length := by
    rw [List.map_map]
    apply List.map_congr_left
    intro market member
    rw [of.offers market member]
    rfl
  -- The keys are those of the groups in another order, and the groups have every product once.
  have keys := of.keys.perm (Grouping.enumerates_ascending (offers.map Product.marketKey))
  rw [sizes, (keys.map _).sum_eq, ← Grouping.sum_length_groups Product.marketKey offers, Grouping.groups, List.map_map]
  rfl

end Of

/-! ## Prices of a market -/

theorem costs_eq_nil_iff : market.costs = [] ↔ market.Unpriced :=
  List.filterMap_eq_nil_iff

/-- What is computed from the costs, and then rounded, is shown as unknown only
where no cost is known. -/
theorem json_eq_null_iff {compute : List Binary64 → Option Binary64} (none : compute [] = none)
    (priced : market.costs ≠ [] → ∃ price, compute market.costs = some price ∧ price.isFinite = true) :
    (Cell.ofReal? ((compute market.costs).map Binary64.roundHundredths)).json = .null ↔ market.Unpriced := by
  rw [← costs_eq_nil_iff]
  constructor
  · intro shown
    by_contra known
    rcases priced known with ⟨price, found, finite⟩
    rw [found, Option.map_some, Cell.ofReal?, Cell.json, Binary64.isFinite_roundHundredths finite, if_pos rfl] at shown
    cases shown
  · intro unknown
    rw [unknown, none]
    rfl

theorem lookup_eq_null_iff {market : Market} (finite : ∀ cost ∈ market.costs, cost.isFinite = true)
    (inRange : market.InRange) : ∀ label ∈ priceColumns, market.row.lookup label = some .null ↔ market.Unpriced := by
  have average : (Cell.ofReal? market.average?).json = .null ↔ market.Unpriced := by
    apply market.json_eq_null_iff rfl
    intro known
    exact Binary64.exists_mean? known inRange
  have least : (Cell.ofReal? market.least?).json = .null ↔ market.Unpriced := by
    apply market.json_eq_null_iff rfl
    intro known
    rcases Binary64.exists_least? known finite with ⟨price, member, found, _⟩
    exact ⟨price, found, finite price member⟩
  have greatest : (Cell.ofReal? market.greatest?).json = .null ↔ market.Unpriced := by
    apply market.json_eq_null_iff rfl
    intro known
    rcases Binary64.exists_greatest? known with ⟨price, member, found⟩
    exact ⟨price, found, finite price member⟩
  intro label member
  simp only [priceColumns, List.mem_cons, List.not_mem_nil, or_false] at member
  rcases member with rfl | rfl | rfl
  · exact Option.some_inj.trans average
  · exact Option.some_inj.trans least
  · exact Option.some_inj.trans greatest

theorem isFinite_average {market : Market} (inRange : market.InRange) :
    ∀ average ∈ market.average?, average.isFinite = true := by
  intro average known
  rcases Option.map_eq_some_iff.mp known with ⟨mean, found, rfl⟩
  have nonempty : market.costs ≠ [] := by
    intro unknown
    rw [unknown] at found
    cases found
  rcases Binary64.exists_mean? nonempty inRange with ⟨other, same, finite⟩
  cases found.symm.trans same
  exact Binary64.isFinite_roundHundredths finite

theorem shownAverage?_row {market : Market} (inRange : market.InRange) :
    MonthlyPrices.shownAverage? market.row = market.average? :=
  MonthlyPrices.shownAverage?_eq rfl (isFinite_average inRange)

/-- The markets of not too many products of limited costs are in range. -/
theorem Of.inRange {offers : List Product} {markets : List Market} (of : Of offers markets)
    (small : ∀ offer ∈ offers, ∀ cost ∈ offer.cost, cost.isFinite = true ∧ cost.size ≤ Binary64.summandLimit)
    (few : offers.length ≤ Binary64.summandCount) : ∀ market ∈ markets, market.InRange := by
  intro market member
  have part : market.offers.Sublist offers := by
    rw [of.offers market member]
    exact List.filter_sublist
  apply Binary64.isFinite_sum
  · intro cost listed
    rcases List.mem_filterMap.mp listed with ⟨offer, inside, known⟩
    exact small offer (part.subset inside) cost known
  · exact (List.length_filterMap_le _ _).trans (part.length_le.trans few)

/-! ## The order of the answer -/

/-- The markets in the order of their averages. -/
def sorted (offers : List Product) : List Market :=
  (inKeyOrder offers).mergeSort fun left right => Cell.realsInOrder left.average? right.average?

theorem of_sorted (offers : List Product) : Of offers (sorted offers) :=
  (of_inKeyOrder offers).perm (List.mergeSort_perm _ _)

/-- Unknown averages are first, and markets of one average keep the order of their keys. -/
theorem pairwise_sorted (offers : List Product) :
    (sorted offers).Pairwise fun first second => Cell.realsInOrder first.average? second.average? ∧
      (Cell.realsInOrder second.average? first.average? → compare first.key second.key = .lt) := by
  have keys : (inKeyOrder offers).Pairwise fun first second => compare first.key second.key = .lt := by
    have ascending := Grouping.pairwise_ascending (offers.map Product.marketKey)
    rw [← map_key_inKeyOrder, List.pairwise_map] at ascending
    exact ascending
  exact Sorting.pairwise_mergeSort_stable
    (fun first second third => Cell.realsInOrder_trans first.average? second.average? third.average?)
    (fun first second => Cell.realsInOrder_total first.average? second.average?) keys

/-- What an answer says of the products that are asked about. -/
structure Answers (offers : List Product) (markets : List Market) : Prop where
  /-- There is one market for each region and currency that occurs. -/
  partition : Of offers markets
  /-- Every product is counted once. -/
  counts : (markets.map fun market => market.offers.length).sum = offers.length
  /-- The prices of a market are unknown only where all its costs are. -/
  unknown : ∀ market ∈ markets, market.InRange →
    ∀ label ∈ priceColumns, market.row.lookup label = some .null ↔ market.Unpriced
  /-- Unknown averages come first, and markets of one average stand in the order
  of their regions and currencies. -/
  ordered : markets.Pairwise fun first second => Cell.realsInOrder first.average? second.average? ∧
    (Cell.realsInOrder second.average? first.average? → compare first.key second.key = .lt)
  /-- The averages that the rows show are in this order as well. -/
  shown : (∀ market ∈ markets, market.InRange) → (markets.map row).Pairwise fun first second =>
    Cell.realsInOrder (MonthlyPrices.shownAverage? first) (MonthlyPrices.shownAverage? second)

theorem answers_sorted {offers : List Product}
    (finite : ∀ offer ∈ offers, ∀ cost ∈ offer.cost, cost.isFinite = true) : Answers offers (sorted offers) where
  partition := of_sorted offers
  counts := (of_sorted offers).sum_counts
  unknown := by
    intro market member inRange
    apply lookup_eq_null_iff _ inRange
    intro cost listed
    rcases List.mem_filterMap.mp listed with ⟨offer, inside, known⟩
    rw [(of_sorted offers).offers market member] at inside
    exact finite offer (List.mem_filter.mp inside).1 cost known
  ordered := pairwise_sorted offers
  shown := by
    intro inRange
    apply List.pairwise_map.mpr
    apply (pairwise_sorted offers).imp_of_mem
    intro first second inFirst inSecond ordered
    rw [shownAverage?_row (inRange first inFirst), shownAverage?_row (inRange second inSecond)]
    exact ordered.1

end Market

/-! ## The plan -/

namespace Synthesis

theorem average_eq (entities : Entities) :
    average entities = {
      source := .catalog
      projection := [field .region, field .currency, .average, .least, .greatest, .count .suppliers]
      filters := searchConditions entities.criteria
      grouping := [field .region, field .currency]
      ordering := [(.average, .ascending)] } := by
  simp only [average, about, Plan.filterIf_eq, Plan.filter, Plan.groupBy, Plan.orderBy, searchConditions,
    Entities.criteria, Option.map_none, Option.toList_none, List.nil_append, List.append_assoc]

theorem groupsBy_average (entities : Entities) : (average entities).GroupsBy Product.marketKey := by
  rw [average_eq]
  exact ⟨rfl, rfl, fun _ => rfl⟩

theorem all_average (entities : Entities) (offer : Product) :
    (average entities).filters.all (·.accepts (Plan.alone offer)) =
      (offer.isActive && named entities.product offer &&
        entities.region.all fun place => decide (offer.region = some place)) := by
  rw [average_eq, Plan.alone, searchConditions]
  simp only [Entities.criteria, Option.map_none, Option.toList_none, List.nil_append, List.all_append, all_regionIs,
    List.all_cons, List.all_nil, Bool.and_true, accepts_isActive]
  rw [← named, ← Bool.and_assoc, Bool.and_comm _ offer.isActive, Bool.and_assoc]

theorem row_average (entities : Entities) (group : List Product) :
    (average entities).row (group.map Plan.alone) = (Market.ofGroup group).row := by
  have region : (field .region).cell false (group.map Plan.alone) = .ofText? (Market.ofGroup group).region :=
    MonthlyPrices.cell_region group
  have currency : (field .currency).cell false (group.map Plan.alone) = .ofText? (Market.ofGroup group).currency :=
    MonthlyPrices.cell_currency group
  have average : Output.average.cell false (group.map Plan.alone) = .ofReal? (Market.ofGroup group).average? :=
    MonthlyPrices.cell_average group
  have least : Output.least.cell false (group.map Plan.alone) = .ofReal? (Market.ofGroup group).least? :=
    MonthlyPrices.cell_least group
  have greatest : Output.greatest.cell false (group.map Plan.alone) = .ofReal? (Market.ofGroup group).greatest? :=
    MonthlyPrices.cell_greatest group
  have count : ((Output.count .suppliers).cell false (group.map Plan.alone)).json =
      .integer (Market.ofGroup group).offers.length := by
    rw [Output.cell, List.length_map]
    rfl
  rw [average_eq, Market.row, ← json_ofText?, ← json_ofText?, ← region, ← currency, ← average, ← least, ← greatest,
    ← count]
  rfl

theorem allRows_average (entities : Entities) (offers : List Product) :
    (average entities).allRows (offers.map Plan.alone) = (Market.sorted offers).map Market.row := by
  have ordering : (average entities).ordering = [(.average, .ascending)] := by
    rw [average_eq]
  have markets := List.map_mergeSort (f := Market.ofGroup) (l := Grouping.groups Product.marketKey offers)
    (r := fun left right => Cell.realsInOrder (Plan.averageOf? left) (Plan.averageOf? right))
    (s := fun left right => Cell.realsInOrder left.average? right.average?) fun _ _ _ _ => rfl
  rw [(groupsBy_average entities).allRows_of_average ordering, Market.sorted, Market.inKeyOrder, ← markets,
    List.map_map]
  apply List.map_congr_left
  intro group _
  exact row_average entities group

theorem rows_average_of_kept {catalog : Catalog} {entities : Entities} {records : List Record}
    (found : (average entities).kept catalog = .ok records) :
    (average entities).rows catalog = .ok ((Market.sorted (catalog.about entities)).map Market.row) := by
  have about : records = (catalog.about entities).map Plan.alone := by
    rw [Plan.eq_filter_of_kept found]
    exact (groupsBy_average entities).records_filter (all_average entities) catalog
  have uncut : ∀ rows, (average entities).cut rows = rows := by
    intro rows
    rw [average_eq, Plan.cut]
  rw [Plan.rows, found, about]
  dsimp only
  rw [uncut, allRows_average]

/-- A question for average prices is answered with one row for each market of
the active products that it asks about, and these products are counted once
each.  The prices of a market are unknown exactly if no cost is known there, and
the rows are in the order of the averages, unknown ones first.  Both need sums
of costs that do not leave the numbers, and no sum does with costs up to 2 ^ 970
and up to 2 ^ 26 products.  Every product that a question can name is looked for
as a part of the names. -/
theorem averages_partition {connection : Connection} (reachable : connection.Reachable) (entities : Entities) :
    (∀ rows, (average entities).rows connection.catalog = .ok rows →
      ∃ markets, Market.Answers (connection.catalog.about entities) markets ∧ rows = markets.map Market.row ∧
        ((∀ offer ∈ connection.catalog.about entities, ∀ cost ∈ offer.cost, cost.size ≤ Binary64.summandLimit) →
          (connection.catalog.about entities).length ≤ Binary64.summandCount →
            ∀ market ∈ markets, market.InRange)) ∧
      (entities.criteria.Searchable →
        (∃ rows, (average entities).rows connection.catalog = .ok rows) ∧
        ∀ offer, offer ∈ connection.catalog.about entities ↔
          offer ∈ connection.catalog.products ∧ offer.isActive = true ∧
            (∀ value ∈ entities.product, offer.name.Mentions value) ∧
            ∀ place ∈ entities.region, offer.region = some place) ∧
      ∀ text, entities = Entities.ofText text → entities.criteria.Searchable := by
  have finite : ∀ offer ∈ connection.catalog.about entities, ∀ cost ∈ offer.cost, cost.isFinite = true :=
    fun offer member => reachable.kept.costs offer (List.mem_filter.mp member).1
  refine ⟨?_, ?_, ?_⟩
  · intro rows given
    cases found : (average entities).kept connection.catalog with
    | error error =>
        rw [Plan.rows, found] at given
        cases given
    | ok records =>
        cases (rows_average_of_kept found).symm.trans given
        refine ⟨_, Market.answers_sorted finite, rfl, ?_⟩
        intro small few
        apply (Market.of_sorted _).inRange _ few
        intro offer member cost known
        exact ⟨finite offer member cost known, small offer member cost known⟩
  · intro searchable
    have decided : ∀ filter ∈ (average entities).filters, filter.Decided := by
      rw [average_eq]
      exact decided_searchConditions searchable
    exact ⟨⟨_, rows_average_of_kept (Plan.kept_eq_ok decided _)⟩, Catalog.mem_about searchable⟩
  · intro text same
    rw [same]
    exact Entities.searchable_ofText text

/-! Two products of one market, of which one has no known cost, a product whose
region and currency are unknown, and one that is not active. -/

def barleyMarketsText : Text :=
  "\x7b\"products\":[\x7b\"product_name\":\"Barley\",\"cost_per_kg\":2.5,\"cost_currency\":\"OMR\"," ++
    "\"supplier_country\":\"Oman\"\x7d,\x7b\"product_name\":\"barley\",\"cost_currency\":\"OMR\"," ++
    "\"supplier_country\":\"Oman\"\x7d,\x7b\"product_name\":\"Barley\"\x7d," ++
    "\x7b\"product_name\":\"Barley\",\"cost_per_kg\":1.5,\"is_active\":false\x7d]\x7d"

def barleyMarkets : Fixture where
  products := [
    { name := "Barley", cost := some (.ofDecimal false 25 (-1)), currency := some "OMR", region := some "Oman" },
    { name := "barley", currency := some "OMR", region := some "Oman" },
    { name := "Barley" },
    { name := "Barley", cost := some (.ofDecimal false 15 (-1)), isActive := false }]

def barleyMarketsConnection : Connection :=
  (Connection.add {} barleyMarkets).2

/-- What a question for the average price of barley is about. -/
def aboutBarley : Entities where
  product := some "barley"
  region := none

example : ((average aboutBarley).rows barleyMarketsConnection.catalog).toOption.map
    (List.map MonthlyPrices.shownAverage?) = some [none, some (.ofDecimal false 25 (-1))] := by
  decide +kernel

theorem averages_partition_barley :
    barleyMarketsConnection.Reachable ∧ aboutBarley.criteria.Searchable ∧
      (barleyMarketsConnection.catalog.about aboutBarley).length = 3 ∧
      ∃ markets, Market.Answers (barleyMarketsConnection.catalog.about aboutBarley) markets ∧
        (average aboutBarley).rows barleyMarketsConnection.catalog = .ok (markets.map Market.row) ∧
        (∀ market ∈ markets, market.InRange) ∧
        (markets.map Market.row).Pairwise fun first second =>
          Cell.realsInOrder (MonthlyPrices.shownAverage? first) (MonthlyPrices.shownAverage? second) := by
  have read : Fixture.ofText? barleyMarketsText = some barleyMarkets := by decide +kernel
  have reachable : barleyMarketsConnection.Reachable := .added read .opened
  have asked : Entities.ofText "average price of barley" = aboutBarley := by decide +kernel
  have count : (barleyMarketsConnection.catalog.about aboutBarley).length = 3 := by decide +kernel
  have small : ∀ offer ∈ barleyMarketsConnection.catalog.about aboutBarley,
      ∀ cost ∈ offer.cost, cost.size ≤ Binary64.summandLimit := by decide +kernel
  rcases averages_partition reachable aboutBarley with ⟨answered, given, named⟩
  have searchable := named "average price of barley" asked.symm
  rcases (given searchable).1 with ⟨rows, here⟩
  rcases answered rows here with ⟨markets, answers, rfl, bounded⟩
  have inRange := bounded small (by rw [count]; decide)
  exact ⟨reachable, searchable, count, markets, answers, here, inRange, answers.shown inRange⟩

end Synthesis
end FeedDesk
