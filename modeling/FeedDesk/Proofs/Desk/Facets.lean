import FeedDesk.Proofs.Catalog.Facets

namespace FeedDesk

open Lookup

/-!
# Statistics and facets agree

The statistics count products with queries of their own, the lookups are plans,
and the graph interface reads the rows of the lookups once more.  All three show
the same lists.  What they have to do with each other is stated by three
structures: the statistics count what is listed, the lookups give the lists row
by row, and the interface shows them.  Only the last one speaks of the size of a
catalog, because a count of the interface is a number of signed 64 bits, as the
ids of the products are.
-/

/-! ## Rows in the graph interface -/

namespace Graph.Supplier

theorem textCell_of_value? {row : Row} {column : Text} {value : Option Text}
    (found : row.value? column = some (.ofText? value)) : textCell row column = value := by
  rw [textCell, found]
  cases value <;> rfl

/-- A supplier is read from its row as it is. -/
theorem ofRow_row {supplier : Supplier} (counted : supplier.productCount < signedLimit) :
    ofRow supplier.row = supplier := by
  have country : textCell supplier.row "supplier_country" = supplier.country := textCell_of_value? rfl
  have email : textCell supplier.row "supplier_email" = supplier.email := textCell_of_value? rfl
  have phone : textCell supplier.row "supplier_phone" = supplier.phone := textCell_of_value? rfl
  have count : countCell supplier.row "product_count" = supplier.productCount := if_pos counted
  rw [ofRow, country, email, phone, count]
  rfl

theorem map_ofRow {suppliers : List Supplier}
    (counted : ∀ supplier ∈ suppliers, supplier.productCount < signedLimit) :
    ((suppliers.map row).map fun row => supplierJson (ofRow row)) = suppliers.map supplierJson := by
  rw [List.map_map]
  exact List.map_congr_left fun supplier member => congrArg supplierJson (ofRow_row (counted supplier member))

end Graph.Supplier

theorem Graph.countryOfRow_regionRow {count : Count} (counted : count.count < signedLimit) :
    countryOfRow count.regionRow = count := by
  have number : countCell count.regionRow "product_count" = count.count := if_pos counted
  rw [countryOfRow, number]
  rfl

theorem Graph.map_countryOfRow {counts : List Count} (counted : ∀ count ∈ counts, count.count < signedLimit) :
    ((counts.map Count.regionRow).map fun row => countJson (countryOfRow row)) = counts.map countJson := by
  rw [List.map_map]
  exact List.map_congr_left fun count member => congrArg countJson (countryOfRow_regionRow (counted count member))

theorem Graph.productTypesOfRows_map (names : List Text) : productTypesOfRows (names.map categoryRow) = names := by
  rw [productTypesOfRows, List.filterMap_map]
  exact List.filterMap_some

/-! ## What a desk shows -/

/-- The values by which products can be chosen. -/
structure Facets where
  categories : List Text
  /-- The regions of the active products with the number of products, among them
  the group of those that have no region. -/
  regions : List (Option Text × Nat)
  suppliers : List Graph.Supplier

namespace Facets

/-- The regions without the group of products that have none. -/
def countries (facets : Facets) : List Count :=
  Statistics.counts (facets.regions.filter fun group => group.1.isSome)

def suppliersIn (facets : Facets) (region : Text) : List Graph.Supplier :=
  facets.suppliers.filter fun supplier => decide (supplier.country = some region)

variable (facets : Facets) (desk : Desk Connection) (session : Session Connection)

/-- The statistics count what the facets list. -/
structure Counted (statistics : Statistics) : Prop where
  given : desk.statistics session = .ok statistics
  active : statistics.active = session.state.catalog.onOffer.length
  active_le_total : statistics.active ≤ statistics.total
  sum_byCategory : (statistics.byCategory.map Count.count).sum = statistics.active
  sum_byRegion : (statistics.byRegion.map Count.count).sum = statistics.active
  tallies : Statistics.Tallies session.state.catalog.onOffer Product.region facets.regions
  byRegion : statistics.byRegion = Statistics.counts facets.regions
  sum_suppliers : (facets.suppliers.map Graph.Supplier.productCount).sum = session.state.catalog.supplied.length
  uniqueSuppliers : (facets.suppliers.map Graph.Supplier.name).dedup.length = statistics.uniqueSuppliers

/-- The lookups give the facets, row by row.  The categories are those of all
products, each listed once. -/
structure LookedUp : Prop where
  known_categories : Grouping.Enumerates (facets.categories.map some)
    ((session.state.catalog.products.filter fun offer => offer.category.isSome).map Product.category)
  categories : desk.categories session = (.ok (facets.categories.map categoryRow), session)
  regions : desk.regions session = (.ok (facets.countries.map Count.regionRow), session)
  suppliers : desk.suppliers session none = (.ok (facets.suppliers.map Graph.Supplier.row), session)
  suppliersIn : ∀ region,
    desk.suppliers session (some region) = (.ok ((facets.suppliersIn region).map Graph.Supplier.row), session)

/-- The fields of the graph interface show the facets, one by one. -/
structure Shown : Prop where
  productTypes : Graph.resolve desk session .productTypes = (.ok (.array (facets.categories.map .string)), session)
  countries : Graph.resolve desk session .countries = (.ok (.array (facets.countries.map Graph.countJson)), session)
  suppliers : Graph.resolve desk session (.suppliers none) =
    (.ok (.array (facets.suppliers.map Graph.supplierJson)), session)
  suppliersIn : ∀ region, Graph.resolve desk session (.suppliers (some region)) =
    (.ok (.array ((facets.suppliersIn region).map Graph.supplierJson)), session)

variable {facets desk session}

/-- Rows are shown as they are, as long as no count is beyond the numbers of the interface. -/
theorem LookedUp.shown (lookedUp : facets.LookedUp desk session)
    (small : ∀ count ∈ facets.countries, count.count < signedLimit)
    (few : ∀ supplier ∈ facets.suppliers, supplier.productCount < signedLimit) : facets.Shown desk session where
  productTypes := by
    rw [Graph.resolve, lookedUp.categories, Graph.shown, Graph.productTypesOfRows_map]
  countries := by
    rw [Graph.resolve, lookedUp.regions, Graph.shown, Graph.map_countryOfRow small]
  suppliers := by
    rw [Graph.resolve, lookedUp.suppliers, Graph.shown, Graph.Supplier.map_ofRow few]
  suppliersIn := by
    intro region
    have counted : ∀ supplier ∈ facets.suppliersIn region, supplier.productCount < signedLimit :=
      fun supplier member => few supplier (List.mem_filter.mp member).1
    rw [Graph.resolve, lookedUp.suppliersIn, Graph.shown, Graph.Supplier.map_ofRow counted]

end Facets

namespace Catalog

/-- The facets of a catalog. -/
def facets (catalog : Catalog) : Facets where
  categories := catalog.categories
  regions := Statistics.bySize (Statistics.tally (catalog.onOffer.map Product.region))
  suppliers := catalog.suppliers

theorem count_le {catalog : Catalog} {count : Count} (member : count ∈ catalog.facets.countries) :
    count.count ≤ catalog.products.length := by
  obtain ⟨group, kept, rfl⟩ := List.mem_map.mp member
  have listed := (Statistics.perm_bySize _).mem_iff.mp (List.mem_filter.mp kept).1
  have size := (Statistics.tallies_tally catalog.onOffer Product.region).sizes group listed
  refine Int.ofNat_le.mpr (size.le.trans ?_)
  exact (List.length_filter_le _ _).trans (List.length_filter_le _ _)

end Catalog

namespace Desk

variable {desk : Desk Connection} (onCatalogs : desk.store = Connection.store) (session : Session Connection)

include onCatalogs

theorem fetch_of_rows {plan : CatalogPlan} {rows : List Row} (given : plan.rows session.state.catalog = .ok rows) :
    desk.fetch session plan = (.ok rows, session) := by
  rw [fetch, Desk.rows, onCatalogs]
  change ((plan.rows session.state.catalog).mapError _, session) = _
  rw [given]
  rfl

omit onCatalogs

end Desk
end FeedDesk
