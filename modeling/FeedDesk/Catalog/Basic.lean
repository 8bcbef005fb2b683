import FeedDesk.Number.Binary64
import FeedDesk.Text.Basic

namespace FeedDesk

/-!
The catalog: products and the feeding rules that restrict them. Both are kept in the order of
their ids, which is the order in which they were added. Apart from a product's name everything
about a product or a rule may be unknown.
-/

structure Product where
  id : Nat
  name : Text
  code : Option Text
  tradeName : Option Text
  category : Option Text
  cost : Option Binary64
  currency : Option Text
  supplier : Option Text
  region : Option Text
  email : Option Text
  phone : Option Text
  address : Option Text
  isStandard : Bool
  /-- Seconds since the beginning of 1970. -/
  createdAt : Option Int
  isActive : Bool
  deriving DecidableEq

/-- A feeding rule of one product. -/
structure Restriction where
  id : Nat
  productId : Nat
  species : Option Text
  sex : Option Text
  leastAge : Option Int
  greatestAge : Option Int
  breedingCycle : Option Text
  lactation : Option Text
  focus : Option Text
  isEligible : Bool
  feedCap : Option Binary64
  concentrateCap : Option Binary64
  isActive : Bool
  deriving DecidableEq

structure Catalog where
  products : List Product := []
  restrictions : List Restriction := []
  deriving DecidableEq

/-- A row that a plan reads: a product, in a join together with one of its rules. -/
structure Record where
  product : Product
  rule : Option Restriction := none
  deriving DecidableEq

namespace Catalog

def productOf? (catalog : Catalog) (rule : Restriction) : Option Product :=
  catalog.products.find? fun product => product.id == rule.productId

/-- The products, in id order. -/
def productRecords (catalog : Catalog) : List Record :=
  catalog.products.map fun product => { product }

/-- The rules in id order, each with its product. -/
def ruleRecords (catalog : Catalog) : List Record :=
  catalog.restrictions.filterMap fun rule =>
    (catalog.productOf? rule).map fun product => { product, rule := some rule }

end Catalog
end FeedDesk
