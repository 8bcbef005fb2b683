import FeedDesk.Plan.Statement

namespace FeedDesk

/-!
The columns of the catalog and the outputs that plans over it may ask for. An output is a column,
the month of a product's date, a price over a group of products, or the size of the group. Each
has the name under which it appears in the rows, the expression that computes it, and the
reference by which grouping and ordering speak of it.
-/

/-- Columns of a product. -/
inductive ProductColumn
  | name
  | code
  | category
  | cost
  | currency
  | supplier
  | region
  | email
  | phone
  | active
  deriving DecidableEq

/-- Columns of a feeding rule. -/
inductive RuleColumn
  | species
  | sex
  | leastAge
  | greatestAge
  | feedCap
  | concentrateCap
  | focus
  | lactation
  | active
  deriving DecidableEq

inductive Column
  | product (column : ProductColumn)
  | rule (column : RuleColumn)
  deriving DecidableEq

def ProductColumn.label : ProductColumn → Text
  | name => "product_name"
  | code => "product_code"
  | category => "type"
  | cost => "cost_per_kg"
  | currency => "cost_currency"
  | supplier => "supplier"
  | region => "supplier_country"
  | email => "supplier_email"
  | phone => "supplier_phone"
  | active => "is_active"

def RuleColumn.label : RuleColumn → Text
  | species => "species"
  | sex => "sex"
  | leastAge => "min_age_months"
  | greatestAge => "max_age_months"
  | feedCap => "max_perc_feed"
  | concentrateCap => "max_perc_conc"
  | focus => "production_focus"
  | lactation => "lactation_cycle"
  | active => "is_active"

namespace Column

def label : Column → Text
  | product column => column.label
  | rule column => column.label

/-- In a join a column is qualified by the table it belongs to. -/
def reference (source : Source) (column : Column) : Text :=
  match source, column with
  | .catalog, column => column.label
  | .catalogWithRules, product column => "p." ++ column.label
  | .catalogWithRules, rule column => "r." ++ column.label

end Column

/-- What a group of products is counted as. -/
inductive Counted
  | suppliers
  | products
  deriving DecidableEq

inductive Output
  | plain (column : Column)
  /-- The year and month of a product's date. -/
  | month
  /-- The mean cost of a group, to two places. -/
  | average
  /-- The least cost of a group, to two places. -/
  | least
  /-- The greatest cost of a group, to two places. -/
  | greatest
  /-- The least cost of a group as it stands. -/
  | lowestCost
  /-- The size of a group. -/
  | count (counted : Counted)
  deriving DecidableEq

namespace Output

def label : Output → Text
  | plain column => column.label
  | month => "month"
  | average => "avg_price"
  | least => "min_price"
  | greatest => "max_price"
  | lowestCost => "cost_per_kg"
  | count .suppliers => "supplier_count"
  | count .products => "product_count"

def expression (source : Source) (output : Output) : Text :=
  match output with
  | plain column => column.reference source
  | month => "strftime('%Y-%m', created_at, 'unixepoch') AS " ++ output.label
  | average => "ROUND(AVG(cost_per_kg), 2) AS " ++ output.label
  | least => "ROUND(MIN(cost_per_kg), 2) AS " ++ output.label
  | greatest => "ROUND(MAX(cost_per_kg), 2) AS " ++ output.label
  | lowestCost => "MIN(cost_per_kg) AS " ++ output.label
  | count _ => "COUNT(*) AS " ++ output.label

def reference (source : Source) (output : Output) : Text :=
  match output with
  | plain column => column.reference source
  | output => output.label

end Output

/-- A plan over the columns of the catalog. -/
abbrev CatalogPlan := Plan Column Output

namespace Plan

/-- The plan with its columns and outputs written out. -/
def written (plan : CatalogPlan) : WrittenPlan where
  source := plan.source
  projection := plan.projection.map (Output.expression plan.source)
  filters := plan.filters.map (Filter.map (Column.reference plan.source))
  grouping := plan.grouping.map (Output.reference plan.source)
  ordering := plan.ordering.map fun (key, direction) => (key.reference plan.source, direction)
  limit := plan.limit

end Plan
end FeedDesk
