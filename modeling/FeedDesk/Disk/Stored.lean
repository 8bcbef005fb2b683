import FeedDesk.Json.Written
import FeedDesk.Sql.Evaluation

namespace FeedDesk
namespace Stored

/-!
A catalog as the text of a file: an object with the rows of both tables, each under the names of
its columns. What is unknown is `null`, and truth values are one and zero.
-/

def rowJson (row : Sql.TableRow) : Json :=
  .object (row.map fun (name, cell) => (name, cell.json))

def text (catalog : Catalog) : Text :=
  (Json.object [
    ("products", .array (catalog.products.map fun product => rowJson (Sql.productRow product))),
    ("restrictions", .array (catalog.restrictions.map fun rule => rowJson (Sql.ruleRow rule)))
  ]).compact

def text? (row : Json) (name : Text) : Option Text :=
  (row.member? name).bind Json.text?

def integer? (row : Json) (name : Text) : Option Int :=
  (row.member? name).bind Json.integer?

def real? (row : Json) (name : Text) : Option Binary64 :=
  (row.member? name).bind Json.real?

def number? (row : Json) (name : Text) : Option Nat :=
  (integer? row name).map Int.toNat

def isSet (row : Json) (name : Text) : Bool :=
  integer? row name == some 1

def product? (row : Json) : Option Product := do
  return {
    id := ← number? row "id"
    name := ← text? row "product_name"
    code := text? row "product_code"
    tradeName := text? row "name"
    category := text? row "type"
    cost := real? row "cost_per_kg"
    currency := text? row "cost_currency"
    supplier := text? row "supplier"
    region := text? row "supplier_country"
    email := text? row "supplier_email"
    phone := text? row "supplier_phone"
    address := text? row "supplier_address"
    isStandard := isSet row "is_standard_product"
    createdAt := integer? row "created_at"
    isActive := isSet row "is_active" }

def restriction? (row : Json) : Option Restriction := do
  return {
    id := ← number? row "id"
    productId := ← number? row "product_id"
    species := text? row "species"
    sex := text? row "sex"
    leastAge := integer? row "min_age_months"
    greatestAge := integer? row "max_age_months"
    breedingCycle := text? row "breeding_cycle"
    lactation := text? row "lactation_cycle"
    focus := text? row "production_focus"
    isEligible := isSet row "is_eligible"
    feedCap := real? row "max_perc_feed"
    concentrateCap := real? row "max_perc_conc"
    isActive := isSet row "is_active" }

/-- Reads the text of a stored catalog. -/
def catalog? (text : Text) : Option Catalog := do
  let value ← Json.ofText text
  let products ← (value.member? "products").bind Json.array?
  let restrictions ← (value.member? "restrictions").bind Json.array?
  return {
    products := ← products.mapM product?
    restrictions := ← restrictions.mapM restriction? }

end Stored
end FeedDesk
