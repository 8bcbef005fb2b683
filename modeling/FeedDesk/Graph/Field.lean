import FeedDesk.Desk.Answer
import FeedDesk.Desk.Example
import FeedDesk.Desk.Lookups
import FeedDesk.Number.Word

namespace FeedDesk

/-!
The graph interface: each root field is one request to the desk. A failed request is told by its
outermost error alone. Lists of suppliers, regions and categories are read from the rows of the
lookups; a cell that is not of the expected kind counts as empty, and a count that is not a whole
number of signed 64 bits counts as zero.
-/

/-- The filter of a product search. Unlike the criteria it may hold a negative limit. -/
structure ProductFilter where
  product : Option Text := none
  productType : Option Text := none
  country : Option Text := none
  supplier : Option Text := none
  minCost : Option Binary64 := none
  maxCost : Option Binary64 := none
  limit : Option Int := none
  deriving DecidableEq

namespace ProductFilter

/-- A negative limit becomes zero. -/
def criteria (filter : ProductFilter) : Criteria where
  product := filter.product
  category := filter.productType
  region := filter.country
  supplier := filter.supplier
  leastCost := filter.minCost
  greatestCost := filter.maxCost
  limit := filter.limit.map Int.toNat

end ProductFilter

namespace Graph

/-- A root field with its arguments. -/
inductive Field
  | ask (query : Text) (language : Option Text)
  | searchProducts (filter : ProductFilter)
  | priceHistory (product : Text) (country : Option Text)
  | productTypes
  | countries
  | suppliers (country : Option Text)
  | stats
  | health
  | examples

structure Supplier where
  name : Text
  country : Option Text
  email : Option Text
  phone : Option Text
  productCount : Int
  deriving DecidableEq

def textCell (row : Row) (column : Text) : Option Text :=
  (row.value? column).bind Json.text?

def countCell (row : Row) (column : Text) : Int :=
  match row.value? column with
  | some (.integer value) => if value < signedLimit then value else 0
  | _ => 0

def Supplier.ofRow (row : Row) : Supplier where
  name := (textCell row "supplier").getD []
  country := textCell row "supplier_country"
  email := textCell row "supplier_email"
  phone := textCell row "supplier_phone"
  productCount := countCell row "product_count"

def countryOfRow (row : Row) : Count where
  name := (textCell row "supplier_country").getD []
  count := countCell row "product_count"

/-- The categories of the rows that have one. -/
def productTypesOfRows (rows : List Row) : List Text :=
  rows.filterMap fun row => textCell row "type"

def countJson (count : Count) : Json :=
  .object [("name", .string count.name), ("count", .integer count.count)]

def supplierJson (supplier : Supplier) : Json :=
  .object [("name", .string supplier.name), ("country", .ofText? supplier.country),
    ("email", .ofText? supplier.email), ("phone", .ofText? supplier.phone),
    ("productCount", .integer supplier.productCount)]

def statisticsJson (statistics : Statistics) : Json :=
  .object [("total", .integer statistics.total), ("active", .integer statistics.active),
    ("byType", .array (statistics.byCategory.map countJson)),
    ("byRegion", .array (statistics.byRegion.map countJson)),
    ("uniqueSuppliers", .integer statistics.uniqueSuppliers),
    ("totalRestrictions", .integer statistics.totalRestrictions)]

def healthJson (health : Health) : Json :=
  .object [("status", .string (if health.database then "healthy" else "degraded")),
    ("database", .boolean health.database), ("oracle", .boolean health.oracle),
    ("translator", .boolean health.translator)]

def exampleJson (question : Example) : Json :=
  .object [("category", .string question.category), ("english", .string question.english),
    ("arabic", .string question.arabic)]

def outcomeJson (outcome : Outcome) : Json :=
  .object [("success", .boolean outcome.success), ("response", .string outcome.response),
    ("queryText", .string outcome.queryText), ("data", .array (outcome.data.map .object)),
    ("language", .string outcome.language.code), ("error", .ofText? outcome.error),
    ("intent", .string outcome.intent.name), ("normalizedQuery", .string outcome.normalized),
    ("explanation", .string outcome.explanation)]

/-- The language that an answer is forced into, or why it cannot be. -/
def forcedLanguage (code : Option Text) : Except Text (Option Language) :=
  match code with
  | none => .ok none
  | some code =>
    match Language.ofCode? code with
    | some language => .ok (some language)
    | none => .error ("unsupported language `" ++ code ++ "`")

/-- Rows shown in some form, and a failure by its outermost error. -/
def shown {State : Type} (form : List Row → Json)
    (found : Except StoreFailure (List Row) × Session State) : Except Text Json × Session State :=
  match found with
  | (.ok rows, session) => (.ok (form rows), session)
  | (.error failure, session) => (.error failure.error.outermost, session)

/-- The value of a root field, and the session after it. -/
def resolve {State : Type} (desk : Desk State) (session : Session State) :
    Field → Except Text Json × Session State
  | .ask query code =>
    match forcedLanguage code with
    | .error message => (.error message, session)
    | .ok forced =>
      let (outcome, session) := desk.ask session query forced
      (.ok (outcomeJson outcome), session)
  | .searchProducts filter =>
    shown (fun rows => .array (rows.map .object)) (desk.search session filter.criteria)
  | .priceHistory product country =>
    shown (fun rows => .array (rows.map .object)) (desk.priceHistory session product country)
  | .productTypes =>
    shown (fun rows => .array ((productTypesOfRows rows).map .string)) (desk.categories session)
  | .countries =>
    shown (fun rows => .array (rows.map fun row => countJson (countryOfRow row)))
      (desk.regions session)
  | .suppliers country =>
    shown (fun rows => .array (rows.map fun row => supplierJson (Supplier.ofRow row)))
      (desk.suppliers session country)
  | .stats =>
    match desk.statistics session with
    | .ok statistics => (.ok (statisticsJson statistics), session)
    | .error failure => (.error failure.error.outermost, session)
  | .health => (.ok (healthJson (desk.health session)), session)
  | .examples => (.ok (.array (Example.all.map exampleJson)), session)

end Graph
end FeedDesk
