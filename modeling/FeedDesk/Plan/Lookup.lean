import FeedDesk.Plan.Output

namespace FeedDesk

/-!
The structured lookups: products by criteria, monthly prices of a product, and the categories,
regions and suppliers that the catalog holds. A criterion that is not given constrains nothing.
-/

/-- The marker carried by the codes of historical price points. -/
def historicalMarker : Text := "HIST"

/-- Criteria of a search for products. -/
structure Criteria where
  /-- Part of the product's name. -/
  product : Option Text := none
  category : Option Text := none
  region : Option Text := none
  /-- Part of the supplier's name. -/
  supplier : Option Text := none
  leastCost : Option Binary64 := none
  greatestCost : Option Binary64 := none
  limit : Option Nat := none
  deriving DecidableEq

def defaultSearchLimit : Nat := 20
def largestSearchLimit : Nat := 100

namespace Criteria

/-- The number of rows that are given at most. -/
def cap (criteria : Criteria) : Nat :=
  max 1 (min (criteria.limit.getD defaultSearchLimit) largestSearchLimit)

end Criteria

namespace Lookup

def nameContains (name : Text) : Filter Column := .contains (.product .name) name
def regionIs (region : Text) : Filter Column := .equals (.product .region) region
def isActive : Filter Column := .flag (.product .active)
def isHistorical : Filter Column := .marked (.product .code) historicalMarker
def hasSupplier : Filter Column := .notNull (.product .supplier)

/-- An output that is a column of the product. -/
def field (column : ProductColumn) : Output := .plain (.product column)

def productSearch (criteria : Criteria) : CatalogPlan :=
  let plan : CatalogPlan := {
    source := .catalog
    projection := [field .name, field .code, field .category, field .supplier, field .region,
      field .cost, field .currency, field .email, field .phone] }
  plan
    |>.filterIf criteria.product nameContains
    |>.filterIf criteria.category (Filter.equals (.product .category))
    |>.filterIf criteria.region regionIs
    |>.filterIf criteria.supplier (Filter.contains (.product .supplier))
    |>.filterIf criteria.leastCost (Filter.atLeast (.product .cost))
    |>.filterIf criteria.greatestCost (Filter.atMost (.product .cost))
    |>.filter isActive
    |>.orderBy (field .cost) .ascending
    |>.cutAt criteria.cap

/-- Monthly prices over the historical rows of a product. -/
def priceHistory (product : Text) (region : Option Text) : CatalogPlan :=
  let plan : CatalogPlan := {
    source := .catalog
    projection := [.month, .least, .average, .greatest, field .currency, field .region] }
  plan
    |>.filter (nameContains product)
    |>.filter isHistorical
    |>.filterIf region regionIs
    |>.groupBy [.month, field .region, field .currency]
    |>.orderBy .month .ascending

def categories : CatalogPlan :=
  let plan : CatalogPlan := { source := .catalog, projection := [field .category] }
  plan
    |>.filter (.notNull (.product .category))
    |>.groupBy [field .category]
    |>.orderBy (field .category) .ascending

def regions : CatalogPlan :=
  let plan : CatalogPlan := {
    source := .catalog
    projection := [field .region, .count .products] }
  plan
    |>.filter isActive
    |>.filter (.notNull (.product .region))
    |>.groupBy [field .region]
    |>.orderBy (.count .products) .descending
    |>.orderBy (field .region) .ascending

def suppliers (region : Option Text) : CatalogPlan :=
  let plan : CatalogPlan := {
    source := .catalog
    projection := [field .supplier, field .region, field .email, field .phone, .count .products] }
  plan
    |>.filter isActive
    |>.filter hasSupplier
    |>.filterIf region regionIs
    |>.groupBy [field .supplier, field .region]
    |>.orderBy (field .supplier) .ascending

end Lookup
end FeedDesk
