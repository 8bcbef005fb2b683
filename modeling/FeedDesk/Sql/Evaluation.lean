import FeedDesk.Sql.Command
import FeedDesk.Text.Utf8

namespace FeedDesk
namespace Sql

/-!
The meaning of a selection over a catalog. The tables are the products and the feeding rules with
all their columns. The table is looked up first, then the columns in the order in which they are
written; then rows are read in id order.
-/

/-- A row of a table: all columns with their values. -/
abbrev TableRow := List (Text × Cell)

def productRow (product : Product) : TableRow := [
  ("id", .integer product.id), ("product_name", .text product.name),
  ("product_code", .ofText? product.code), ("name", .ofText? product.tradeName),
  ("type", .ofText? product.category), ("cost_per_kg", .ofReal? product.cost),
  ("cost_currency", .ofText? product.currency), ("supplier", .ofText? product.supplier),
  ("supplier_country", .ofText? product.region), ("supplier_email", .ofText? product.email),
  ("supplier_phone", .ofText? product.phone), ("supplier_address", .ofText? product.address),
  ("is_standard_product", .ofBool product.isStandard),
  ("created_at", .ofInteger? product.createdAt), ("is_active", .ofBool product.isActive)]

def ruleRow (rule : Restriction) : TableRow := [
  ("id", .integer rule.id), ("product_id", .integer rule.productId),
  ("species", .ofText? rule.species), ("sex", .ofText? rule.sex),
  ("min_age_months", .ofInteger? rule.leastAge), ("max_age_months", .ofInteger? rule.greatestAge),
  ("breeding_cycle", .ofText? rule.breedingCycle), ("lactation_cycle", .ofText? rule.lactation),
  ("production_focus", .ofText? rule.focus), ("is_eligible", .ofBool rule.isEligible),
  ("max_perc_feed", .ofReal? rule.feedCap), ("max_perc_conc", .ofReal? rule.concentrateCap),
  ("is_active", .ofBool rule.isActive)]

inductive Table
  | products
  | rules
  deriving DecidableEq

namespace Table

def ofName? (name : Text) : Option Table :=
  if name.asciiLower = productTable then some products
  else if name.asciiLower = ruleTable then some rules
  else none

def columns : Table → List Text
  | products => ["id", "product_name", "product_code", "name", "type", "cost_per_kg",
      "cost_currency", "supplier", "supplier_country", "supplier_email", "supplier_phone",
      "supplier_address", "is_standard_product", "created_at", "is_active"]
  | rules => ["id", "product_id", "species", "sex", "min_age_months", "max_age_months",
      "breeding_cycle", "lactation_cycle", "production_focus", "is_eligible", "max_perc_feed",
      "max_perc_conc", "is_active"]

def rows (catalog : Catalog) : Table → List TableRow
  | products => catalog.products.map productRow
  | rules => catalog.restrictions.map ruleRow

end Table

namespace Datum

/-- The value in a result row; bytes are only counted. -/
def json : Datum → Json
  | cell value => value.json
  | blob bytes => .string ("<" ++ Text.ofNat bytes.length ++ " bytes>")

/-- The value as a text, if it has one. -/
def asText : Datum → Datum
  | cell (.integer value) => cell (.text (Text.ofInt value))
  | cell (.real value) => cell (.text value.jsonText)
  | cell value => cell value
  | blob bytes => cell (.text (Text.ofBytes bytes))

def isNull : Datum → Bool
  | cell value => value.isNull
  | blob _ => false

end Datum

namespace Expression

/-- The columns of an expression with their places. -/
def columns : Expression → List (Text × Nat)
  | column name offset => [(name, offset)]
  | literal _ => []
  | placeholder _ => []
  | asText value => value.columns

/-- The last place of a bound value. -/
def lastPlace : Expression → Nat
  | placeholder place => place
  | asText value => value.lastPlace
  | _ => 0

def value (parameters : List Parameter) (row : TableRow) : Expression → Datum
  | column name _ => .cell ((row.lookup name.asciiLower).getD .null)
  | literal value => value
  | placeholder place =>
    match parameters[place - 1]? with
    | some (.text text) => .cell (.text text)
    | some (.real number) => .cell (if number.isNaN then .null else .real number)
    | none => .cell .null
  | asText expression => (expression.value parameters row).asText

/-- The name of the column when none is given. -/
def label : Expression → Text
  | column name _ => name.asciiLower
  | _ => []

end Expression

namespace Condition

def expressions : Condition → List Expression
  | equal left right => [left, right]
  | known value => [value]
  | unknown value => [value]

/-- Unknown values are equal to nothing. -/
def holds (parameters : List Parameter) (row : TableRow) : Condition → Bool
  | equal left right =>
    let left := left.value parameters row
    !left.isNull && left == right.value parameters row
  | known value => !(value.value parameters row).isNull
  | unknown value => (value.value parameters row).isNull

end Condition

namespace Selection

def expressions (selection : Selection) : List Expression :=
  selection.items.map Item.expression ++ selection.conditions.flatMap Condition.expressions

/-- The table, or none for a selection of literals. -/
def table? (selection : Selection) : Except QueryError (Option Table) :=
  match selection.table with
  | none => .ok none
  | some name =>
    match Table.ofName? name with
    | some table => .ok (some table)
    | none => .error (.unknownTable name)

/-- The first column that the table does not have. -/
def strangeColumn? (selection : Selection) (table : Option Table) : Option (Text × Nat) :=
  let known := (table.map Table.columns).getD []
  (selection.expressions.flatMap Expression.columns).find? fun (name, _) =>
    !known.contains name.asciiLower

/-- The number of values that must be bound. -/
def placeCount (selection : Selection) : Nat :=
  (selection.expressions.map Expression.lastPlace).foldl max 0

def row (selection : Selection) (parameters : List Parameter) (row : TableRow) :
    List (Text × Datum) :=
  selection.items.map fun item =>
    (item.label.getD item.expression.label, item.expression.value parameters row)

/-- A row as an object: of several columns with one name the last value counts. -/
def jsonRow (row : List (Text × Datum)) : Row :=
  row.foldl (fun members (name, value) =>
    if members.any fun (other, _) => other == name then
      members.map fun (other, old) => (other, if other == name then value.json else old)
    else members ++ [(name, value.json)]) []

/-- The rows of a selection from the text of a statement. -/
def rows (selection : Selection) (statement : Statement) (catalog : Catalog) :
    Except QueryError (List Row) :=
  match selection.table? with
  | .error error => .error error
  | .ok table =>
    match selection.strangeColumn? table with
    | some (name, offset) => .error (.unknownColumn name statement.sql offset)
    | none =>
      if selection.placeCount ≠ statement.parameters.length then
        .error (.wrongParameterCount statement.parameters.length selection.placeCount)
      else
        let tableRows := match table with
          | some table => table.rows catalog
          | none => [[]]
        let kept := tableRows.filter fun row =>
          selection.conditions.all (Condition.holds statement.parameters row)
        let rows := kept.map (selection.row statement.parameters)
        .ok ((if selection.distinct then rows.eraseDups else rows).map jsonRow)

end Selection
end Sql
end FeedDesk
