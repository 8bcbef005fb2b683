import FeedDesk.Catalog.Fixture

namespace FeedDesk

/-!
Adding a fixture to a catalog. Products come behind the ones that are there, with the ids that
follow. Then each rule is tied to the product of least id that has the rule's code, among all
products, and is passed over if there is none. A catalog knows one zero: costs and caps of
negative zero are kept as zero.
-/

structure ImportSummary where
  products : Nat := 0
  restrictions : Nat := 0
  /-- Rules whose code no product has. -/
  skipped : Nat := 0
  deriving DecidableEq

/-- The product of a record under an id; a record without a trade name goes by its name. -/
def ProductRecord.product (record : ProductRecord) (id : Nat) : Product where
  id
  name := record.name
  code := record.code
  tradeName := some (record.tradeName.getD record.name)
  category := record.category
  cost := record.cost.map .withOneZero
  currency := record.currency
  supplier := record.supplier
  region := record.region
  email := record.email
  phone := record.phone
  address := record.address
  isStandard := record.isStandard
  createdAt := record.createdAt
  isActive := record.isActive

/-- The rule of a record under an id, tied to a product. -/
def RestrictionRecord.restriction (record : RestrictionRecord) (id productId : Nat) :
    Restriction where
  id
  productId
  species := record.species
  sex := record.sex
  leastAge := record.leastAge
  greatestAge := record.greatestAge
  breedingCycle := record.breedingCycle
  lactation := record.lactation
  focus := record.focus
  isEligible := record.isEligible
  feedCap := record.feedCap.map .withOneZero
  concentrateCap := record.concentrateCap.map .withOneZero
  isActive := record.isActive

namespace Catalog

/-- The first product with a code. -/
def productWithCode? (catalog : Catalog) (code : Text) : Option Product :=
  catalog.products.find? fun product => product.code == some code

def addProduct (catalog : Catalog) (record : ProductRecord) : Catalog :=
  { catalog with
    products := catalog.products ++ [record.product (catalog.products.length + 1)] }

def addRestriction (catalog : Catalog) (record : RestrictionRecord) : Option Catalog :=
  (catalog.productWithCode? record.code).map fun product =>
    { catalog with
      restrictions := catalog.restrictions ++
        [record.restriction (catalog.restrictions.length + 1) product.id] }

def addRestrictions (catalog : Catalog) (summary : ImportSummary) :
    List RestrictionRecord → Catalog × ImportSummary
  | [] => (catalog, summary)
  | record :: records =>
    match catalog.addRestriction record with
    | some catalog =>
      catalog.addRestrictions { summary with restrictions := summary.restrictions + 1 } records
    | none => catalog.addRestrictions { summary with skipped := summary.skipped + 1 } records

/-- The catalog with a fixture added, and what has been added. -/
def add (catalog : Catalog) (fixture : Fixture) : Catalog × ImportSummary :=
  (fixture.products.foldl addProduct catalog).addRestrictions
    { products := fixture.products.length } fixture.restrictions

end Catalog
end FeedDesk
