import FeedDesk.Proofs.Catalog.Grouping
import FeedDesk.Proofs.Catalog.Search
import FeedDesk.Question.Synthesis

namespace FeedDesk

open Lookup Synthesis

/-!
# Two views of historical prices

The price history of a product shows all its months in their order, and the
trend shows the ten cheapest months.  The two plans are written separately.
Both are described here by the same list of monthly prices: one entry for each
month, region and currency that occurs among the historical price points, with
the costs of these points in id order.  The history shows every entry.  The
trend sorts the entries by their averages, the sort being stable, and shows four
of the six columns of the first ten.

Entries are sorted by the average itself.  An average beyond the range of the
numbers is last in this order, but it is shown like an unknown one, which is
first.
-/

/-! ## Price points -/

namespace Product

/-- The month of the date. -/
def dated (offer : Product) : Option Text :=
  offer.createdAt.bind Month.ofMoment?

/-- The code carries the historical mark before its first null character. -/
def IsHistorical (offer : Product) : Prop :=
  ∃ code ∈ offer.code, historicalMarker.asciiLower <:+: (Like.untilNull code).asciiLower

instance (offer : Product) : Decidable offer.IsHistorical :=
  inferInstanceAs (Decidable (∃ code ∈ offer.code, historicalMarker.asciiLower <:+: (Like.untilNull code).asciiLower))

/-- What the price points of one entry have in common. -/
def priceKey (offer : Product) : List (Option Text) :=
  [offer.dated, offer.region, offer.currency]

end Product

/-- The historical price points of a product, active or not, in id order. -/
def Catalog.historical (catalog : Catalog) (product : Text) (region : Option Text) : List Product :=
  catalog.products.filter fun offer =>
    (nameContains product).accepts (Plan.alone offer) && decide offer.IsHistorical &&
      region.all fun place => decide (offer.region = some place)

/-- The prices of a month in a region and a currency. -/
structure MonthlyPrices where
  month : Option Text
  region : Option Text
  currency : Option Text
  costs : List Binary64

namespace MonthlyPrices

variable (prices : MonthlyPrices)

def key : List (Option Text) :=
  [prices.month, prices.region, prices.currency]

def least? : Option Binary64 :=
  (Binary64.least? prices.costs).map .roundHundredths

def average? : Option Binary64 :=
  (Binary64.mean? prices.costs).map .roundHundredths

def greatest? : Option Binary64 :=
  (Binary64.greatest? prices.costs).map .roundHundredths

/-- The row of the history. -/
def row : Row := [
  ("month", .ofText? prices.month), ("min_price", (Cell.ofReal? prices.least?).json),
  ("avg_price", (Cell.ofReal? prices.average?).json), ("max_price", (Cell.ofReal? prices.greatest?).json),
  ("cost_currency", .ofText? prices.currency), ("supplier_country", .ofText? prices.region)]

/-- The columns of the trend. -/
def trendColumns : List Text :=
  ["month", "avg_price", "cost_currency", "supplier_country"]

/-- The row of the trend. -/
def trendRow : Row :=
  prices.row.filter fun column => trendColumns.contains column.1

theorem trendRow_eq : prices.trendRow = ([
    ("month", .ofText? prices.month), ("avg_price", (Cell.ofReal? prices.average?).json),
    ("cost_currency", .ofText? prices.currency), ("supplier_country", .ofText? prices.region)] : Row) :=
  rfl

/-- The entry of price points that have the same key. -/
def ofGroup (group : List Product) : MonthlyPrices where
  month := group.head?.bind Product.dated
  region := group.head?.bind Product.region
  currency := group.head?.bind Product.currency
  costs := group.filterMap Product.cost

/-- The entries of price points: one for each key that occurs, with the costs of
all the points of this key. -/
structure Of (offers : List Product) (entries : List MonthlyPrices) : Prop where
  keys : Grouping.Enumerates (entries.map key) (offers.map Product.priceKey)
  costs : ∀ entry ∈ entries,
    entry.costs = (offers.filter fun offer => decide (offer.priceKey = entry.key)).filterMap Product.cost

/-- The entries in the order of their keys. -/
def inKeyOrder (offers : List Product) : List MonthlyPrices :=
  (Grouping.groups Product.priceKey offers).map ofGroup

theorem key_ofGroup (first : Product) (rest : List Product) : (ofGroup (first :: rest)).key = first.priceKey :=
  rfl

theorem of_inKeyOrder (offers : List Product) : Of offers (inKeyOrder offers) where
  keys := by
    rw [inKeyOrder, Grouping.map_entryKey_groups fun first rest _ => key_ofGroup first rest]
    exact Grouping.enumerates_ascending _
  costs := by
    intro entry member
    have whole := congrArg costs (Grouping.eq_make_of_mem (fun first rest _ => key_ofGroup first rest) member)
    exact whole

end MonthlyPrices

/-! ## The two plans -/

namespace Lookup

/-- The conditions on price points. -/
def priceConditions (product : Text) (region : Option Text) : List (Filter Column) :=
  [nameContains product, isHistorical] ++ (region.map regionIs).toList

theorem priceHistory_eq (product : Text) (region : Option Text) :
    priceHistory product region = {
      source := .catalog
      projection := [.month, .least, .average, .greatest, field .currency, field .region]
      filters := priceConditions product region
      grouping := [.month, field .region, field .currency]
      ordering := [(.month, .ascending)] } := by
  rw [priceHistory, Plan.filterIf_eq]
  rfl

theorem historicalTrend_eq (product : Text) (region : Option Text) :
    historicalTrend { product := some product, region } = {
      source := .catalog
      projection := [.month, .average, field .currency, field .region]
      filters := priceConditions product region
      grouping := [.month, field .region, field .currency]
      ordering := [(.average, .ascending)]
      limit := some 10 } := by
  rw [historicalTrend, Plan.filterIf_eq, Plan.filterIf_eq]
  rfl

theorem groupsBy_priceHistory (product : Text) (region : Option Text) :
    (priceHistory product region).GroupsBy Product.priceKey := by
  rw [priceHistory_eq]
  exact ⟨rfl, rfl, fun _ => rfl⟩

theorem groupsBy_historicalTrend (product : Text) (region : Option Text) :
    (historicalTrend { product := some product, region }).GroupsBy Product.priceKey := by
  rw [historicalTrend_eq]
  exact ⟨rfl, rfl, fun _ => rfl⟩

theorem decided_priceConditions {product : Text} (searchable : product.Searchable) (region : Option Text) :
    ∀ filter ∈ priceConditions product region, filter.Decided := by
  intro filter member
  rw [priceConditions, List.mem_append, List.mem_cons, List.mem_singleton] at member
  rcases member with (rfl | rfl) | place
  · exact Filter.decided_contains searchable.short
  · exact Filter.decided_marked (by decide)
  · exact decided_regionIs place

theorem holds_isHistorical (offer : Product) :
    isHistorical.holds (Plan.alone offer) =
      .ok (offer.code.any fun code => Like.holds none (Pattern.marking historicalMarker) code) := by
  have short : ¬Like.patternLimit < (Pattern.marking historicalMarker).byteLength := by decide
  change Filter.like none (Pattern.marking historicalMarker) (Cell.ofText? offer.code) = _
  cases offer.code <;> exact if_neg short

theorem accepts_isHistorical (offer : Product) :
    isHistorical.accepts (Plan.alone offer) = decide offer.IsHistorical := by
  have parts : Like.parts? none (Like.untilNull (Pattern.marking historicalMarker)) =
      some (.anything :: (historicalMarker.map .exactly ++ [.anything])) := by decide
  have marked : ∀ code, Like.holds none (Pattern.marking historicalMarker) code = true ↔
      historicalMarker.asciiLower <:+: (Like.untilNull code).asciiLower := by
    intro code
    rw [Like.holds, parts]
    exact Like.matchParts_between historicalMarker (Like.untilNull code)
  rw [Filter.accepts_of_holds (holds_isHistorical offer), Bool.eq_iff_iff, decide_eq_true_eq, Option.any_eq_true]
  exact exists_congr fun code => and_congr_right fun _ => marked code

theorem all_priceConditions (product : Text) (region : Option Text) (offer : Product) :
    (priceConditions product region).all (·.accepts (Plan.alone offer)) =
      ((nameContains product).accepts (Plan.alone offer) && decide offer.IsHistorical &&
        region.all fun place => decide (offer.region = some place)) := by
  rw [priceConditions, List.all_append, List.all_cons, List.all_cons, List.all_nil, Bool.and_true, Plan.alone,
    all_regionIs, ← accepts_isHistorical, Plan.alone]

end Lookup

namespace MonthlyPrices

variable (group : List Product)

theorem cell_month : Output.month.cell false (group.map Plan.alone) = .ofText? (ofGroup group).month := by
  cases group <;> rfl

theorem cell_region : (field .region).cell false (group.map Plan.alone) = .ofText? (ofGroup group).region := by
  cases group <;> rfl

theorem cell_currency :
    (field .currency).cell false (group.map Plan.alone) = .ofText? (ofGroup group).currency := by
  cases group <;> rfl

theorem costs_alone : Output.costs (group.map Plan.alone) = (ofGroup group).costs :=
  Plan.costs_alone group

theorem cell_least : Output.least.cell false (group.map Plan.alone) = .ofReal? (ofGroup group).least? := by
  rw [Output.cell, costs_alone, least?]

theorem cell_average :
    Output.average.cell false (group.map Plan.alone) = .ofReal? (ofGroup group).average? :=
  Plan.cell_average false group

theorem cell_greatest :
    Output.greatest.cell false (group.map Plan.alone) = .ofReal? (ofGroup group).greatest? := by
  rw [Output.cell, costs_alone, greatest?]

theorem row_priceHistory (product : Text) (region : Option Text) :
    (priceHistory product region).row (group.map Plan.alone) = (ofGroup group).row := by
  rw [priceHistory_eq, row, ← json_ofText?, ← json_ofText?, ← json_ofText?, ← cell_month, ← cell_region,
    ← cell_currency, ← cell_least, ← cell_average, ← cell_greatest]
  rfl

theorem row_historicalTrend (product : Text) (region : Option Text) :
    (historicalTrend { product := some product, region }).row (group.map Plan.alone) =
      (ofGroup group).trendRow := by
  rw [historicalTrend_eq, trendRow_eq, ← json_ofText?, ← json_ofText?, ← json_ofText?, ← cell_month, ← cell_region,
    ← cell_currency, ← cell_average]
  rfl

/-- The history keeps the order of the keys, which begin with the month. -/
theorem allRows_priceHistory (product : Text) (region : Option Text) (offers : List Product) :
    (priceHistory product region).allRows (offers.map Plan.alone) = (inKeyOrder offers).map row := by
  have ordered : ∀ first second rest others, compare first.priceKey second.priceKey = .lt →
      (priceHistory product region).orderGroups (Plan.alone first :: rest) (Plan.alone second :: others) ≠ .gt := by
    intro first second rest others below
    rw [priceHistory_eq]
    change ((Cell.ofText? first.dated).order (.ofText? second.dated)).then .eq ≠ .gt
    rw [Cell.order_ofText?, Ordering.then_eq]
    exact compare_head_ne_gt below
  rw [(groupsBy_priceHistory product region).allRows_of_ordered ordered, inKeyOrder, List.map_map]
  exact List.map_congr_left fun group _ => row_priceHistory group product region

/-- The trend sorts the entries by their averages. -/
theorem allRows_historicalTrend (product : Text) (region : Option Text) (offers : List Product) :
    (historicalTrend { product := some product, region }).allRows (offers.map Plan.alone) =
      ((inKeyOrder offers).mergeSort fun left right =>
        Cell.realsInOrder left.average? right.average?).map trendRow := by
  have ordering : (historicalTrend { product := some product, region }).ordering = [(.average, .ascending)] := by
    rw [historicalTrend_eq]
  have entries := List.map_mergeSort (f := ofGroup) (l := Grouping.groups Product.priceKey offers)
    (r := fun left right => Cell.realsInOrder (Plan.averageOf? left) (Plan.averageOf? right))
    (s := fun left right => Cell.realsInOrder left.average? right.average?) fun _ _ _ _ => rfl
  rw [(groupsBy_historicalTrend product region).allRows_of_average ordering, inKeyOrder, ← entries, List.map_map]
  exact List.map_congr_left fun group _ => row_historicalTrend group product region

/-! ## The averages as they are shown -/

/-- The average that a row shows. -/
def shownAverage? (row : Row) : Option Binary64 :=
  match row.lookup ("avg_price" : Text) with
  | some (.real average) => some average
  | _ => none

theorem shownAverage?_eq {row : Row} {average : Option Binary64}
    (cell : row.lookup ("avg_price" : Text) = some (Cell.ofReal? average).json)
    (finite : ∀ value ∈ average, value.isFinite = true) : shownAverage? row = average := by
  rw [shownAverage?, cell]
  cases average with
  | none => rfl
  | some value =>
      rw [Cell.ofReal?, Cell.json, finite value rfl]
      rfl

theorem shownAverage?_row {entry : MonthlyPrices}
    (finite : ∀ average ∈ entry.average?, average.isFinite = true) :
    shownAverage? entry.row = entry.average? :=
  shownAverage?_eq rfl finite

/-- Where no average is beyond the numbers, entries can be sorted by what their rows show. -/
theorem mergeSort_rows {entries : List MonthlyPrices}
    (finite : ∀ entry ∈ entries, ∀ average ∈ entry.average?, average.isFinite = true) :
    (entries.map row).mergeSort (fun left right => Cell.realsInOrder (shownAverage? left) (shownAverage? right)) =
      (entries.mergeSort fun left right => Cell.realsInOrder left.average? right.average?).map row := by
  refine (List.map_mergeSort fun left inLeft right inRight => ?_).symm
  rw [shownAverage?_row (finite left inLeft), shownAverage?_row (finite right inRight)]

end MonthlyPrices

/-! ## What the views have in common -/

namespace Catalog

variable (catalog : Catalog) (product : Text) (region : Option Text)

theorem mem_historical {product : Text} (searchable : product.Searchable) (offer : Product) :
    offer ∈ catalog.historical product region ↔ offer ∈ catalog.products ∧
      offer.name.Mentions product ∧ offer.IsHistorical ∧ ∀ place ∈ region, offer.region = some place := by
  rw [historical, List.mem_filter, Bool.and_eq_true, Bool.and_eq_true, decide_eq_true_eq, and_assoc,
    Plan.alone, accepts_name searchable, Option.all_eq_true]
  simp only [decide_eq_true_eq, Option.mem_def]

/-- Both plans keep the same records, or cannot test their conditions. -/
theorem kept_historicalTrend :
    (historicalTrend { product := some product, region }).kept catalog =
      (priceHistory product region).kept catalog := by
  refine Plan.kept_congr ?_ ?_ catalog
  · rw [historicalTrend_eq, priceHistory_eq]
  · rw [historicalTrend_eq, priceHistory_eq]

theorem eq_historical_of_kept {records : List Record}
    (found : (priceHistory product region).kept catalog = .ok records) :
    records = (catalog.historical product region).map Plan.alone := by
  rw [Plan.eq_filter_of_kept found]
  refine (groupsBy_priceHistory product region).records_filter (fun offer => ?_) catalog
  rw [priceHistory_eq]
  exact all_priceConditions product region offer

theorem rows_of_error {error : QueryError} (failed : (priceHistory product region).kept catalog = .error error) :
    (priceHistory product region).rows catalog = .error error ∧
      (historicalTrend { product := some product, region }).rows catalog = .error error := by
  rw [Plan.rows, Plan.rows, kept_historicalTrend, failed]
  exact ⟨rfl, rfl⟩

theorem rows_of_ok {records : List Record} (found : (priceHistory product region).kept catalog = .ok records) :
    (priceHistory product region).rows catalog =
        .ok ((MonthlyPrices.inKeyOrder (catalog.historical product region)).map MonthlyPrices.row) ∧
      (historicalTrend { product := some product, region }).rows catalog =
        .ok ((((MonthlyPrices.inKeyOrder (catalog.historical product region)).mergeSort fun left right =>
          Cell.realsInOrder left.average? right.average?).take 10).map MonthlyPrices.trendRow) := by
  have uncut : ∀ rows, (priceHistory product region).cut rows = rows := fun rows => by
    rw [priceHistory_eq, Plan.cut]
  have cut : ∀ rows, (historicalTrend { product := some product, region }).cut rows = rows.take 10 := fun rows => by
    rw [historicalTrend_eq, Plan.cut]
  rw [Plan.rows, Plan.rows, kept_historicalTrend, found, catalog.eq_historical_of_kept product region found]
  dsimp only
  rw [uncut, cut, MonthlyPrices.allRows_priceHistory, MonthlyPrices.allRows_historicalTrend, List.map_take]
  exact ⟨rfl, rfl⟩

/-- The history and the trend of a product, without or within a region, are
refused together; they never are for a product that can be searched for.  When
they are given, both show the same entries: one for each month, region and
currency among the historical price points of the product, whether these are
active or not.  The history has a row for every entry.  The rows of the trend
have the month, average, currency and region of the ten entries that come first
when the history is sorted stably by average, unknown averages first. -/
theorem trend_of_history :
    (∀ error, (priceHistory product region).rows catalog = .error error ↔
        (historicalTrend { product := some product, region }).rows catalog = .error error) ∧
      (product.Searchable →
        (∃ rows, (priceHistory product region).rows catalog = .ok rows) ∧
          ∀ offer, offer ∈ catalog.historical product region ↔ offer ∈ catalog.products ∧
            offer.name.Mentions product ∧ offer.IsHistorical ∧ ∀ place ∈ region, offer.region = some place) ∧
      ∀ rows, (priceHistory product region).rows catalog = .ok rows →
        ∃ entries, MonthlyPrices.Of (catalog.historical product region) entries ∧
          rows = entries.map MonthlyPrices.row ∧
          (historicalTrend { product := some product, region }).rows catalog =
            .ok (((entries.mergeSort fun left right =>
              Cell.realsInOrder left.average? right.average?).take 10).map MonthlyPrices.trendRow) ∧
          ((∀ entry ∈ entries, ∀ average ∈ entry.average?, average.isFinite = true) →
            (historicalTrend { product := some product, region }).rows catalog =
              .ok (((rows.mergeSort fun left right => Cell.realsInOrder (MonthlyPrices.shownAverage? left)
                (MonthlyPrices.shownAverage? right)).take 10).map fun row =>
                  row.filter fun column => MonthlyPrices.trendColumns.contains column.1)) := by
  refine ⟨fun error => ?_, fun searchable => ⟨?_, catalog.mem_historical region searchable⟩,
    fun rows given => ?_⟩
  · cases found : (priceHistory product region).kept catalog with
    | error other =>
        obtain ⟨history, trend⟩ := catalog.rows_of_error product region found
        rw [history, trend]
    | ok records =>
        obtain ⟨history, trend⟩ := catalog.rows_of_ok product region found
        rw [history, trend]
        exact ⟨fun impossible => (nomatch impossible), fun impossible => (nomatch impossible)⟩
  · have decided : ∀ filter ∈ (priceHistory product region).filters, filter.Decided := by
      rw [priceHistory_eq]
      exact decided_priceConditions searchable region
    exact ⟨_, (catalog.rows_of_ok product region (Plan.kept_eq_ok decided catalog)).1⟩
  · cases found : (priceHistory product region).kept catalog with
    | error error =>
        rw [(catalog.rows_of_error product region found).1] at given
        cases given
    | ok records =>
        obtain ⟨history, trend⟩ := catalog.rows_of_ok product region found
        cases history.symm.trans given
        refine ⟨_, MonthlyPrices.of_inKeyOrder _, rfl, trend, fun finite => ?_⟩
        rw [trend, MonthlyPrices.mergeSort_rows finite, ← List.map_take, List.map_map]
        rfl

/-! Three price points of two months, one of them not active, beside an offer
that is no price point. -/

def pricePoints : Catalog :=
  (Catalog.add {} {
    products := [
      { name := "Barley", code := some "B-HIST-1", cost := some (.ofDecimal false 25 (-1)), createdAt := some 0 },
      { name := "barley", code := some "b-hist-2", cost := some (.ofDecimal false 2 0), createdAt := some 1,
        isActive := false },
      { name := "Barley", code := some "B-HIST-3", cost := some (.ofDecimal false 1 0), createdAt := some 9000000 },
      { name := "Barley", code := some "B-4", cost := some (.ofDecimal false 1 0), createdAt := some 0 }] }).1

theorem trend_of_history_pricePoints :
    Text.Searchable "barley" ∧ (pricePoints.historical "barley" none).map Product.id = [1, 2, 3] ∧
      ∃ rows, (priceHistory "barley" none).rows pricePoints = .ok rows ∧ rows.length = 2 ∧
        (historicalTrend { product := some "barley", region := none }).rows pricePoints =
          .ok (((rows.mergeSort fun left right => Cell.realsInOrder (MonthlyPrices.shownAverage? left)
            (MonthlyPrices.shownAverage? right)).take 10).map fun row =>
              row.filter fun column => MonthlyPrices.trendColumns.contains column.1) := by
  have searchable : Text.Searchable "barley" := ⟨by decide, by decide +kernel⟩
  have points : (pricePoints.historical "barley" none).map Product.id = [1, 2, 3] := by decide +kernel
  have finite : ∀ offer ∈ pricePoints.historical "barley" none,
      ∀ average ∈ (Binary64.mean? (((pricePoints.historical "barley" none).filter fun other =>
        decide (other.priceKey = offer.priceKey)).filterMap Product.cost)).map Binary64.roundHundredths,
        average.isFinite = true := by decide +kernel
  obtain ⟨-, given, views⟩ := pricePoints.trend_of_history "barley" none
  obtain ⟨rows, history⟩ := (given searchable).1
  obtain ⟨entries, ofPoints, same, -, sorted⟩ := views rows history
  have count : ((priceHistory "barley" none).rows pricePoints).toOption.map List.length = some 2 := by
    decide +kernel
  rw [history] at count
  refine ⟨searchable, points, rows, history, Option.some.inj count, sorted fun entry member average known => ?_⟩
  obtain ⟨offer, inside, sameKey⟩ :=
    List.mem_map.mp ((ofPoints.keys.mem_iff entry.key).mp (List.mem_map_of_mem member))
  refine finite offer inside average ?_
  rw [sameKey, ← ofPoints.costs entry member]
  exact known

end Catalog
end FeedDesk
