import FeedDesk.Desk.Basic
import FeedDesk.Plan.Lookup

namespace FeedDesk

/-!
The structured lookups at a desk. Each puts one plan to the store.
-/

namespace Desk

variable {State : Type} (desk : Desk State) (session : Session State)

def search (criteria : Criteria) : Except StoreFailure (List Row) × Session State :=
  desk.fetch session (Lookup.productSearch criteria)

def priceHistory (product : Text) (region : Option Text) :
    Except StoreFailure (List Row) × Session State :=
  desk.fetch session (Lookup.priceHistory product region)

def categories : Except StoreFailure (List Row) × Session State :=
  desk.fetch session Lookup.categories

def regions : Except StoreFailure (List Row) × Session State :=
  desk.fetch session Lookup.regions

def suppliers (region : Option Text) : Except StoreFailure (List Row) × Session State :=
  desk.fetch session (Lookup.suppliers region)

end Desk
end FeedDesk
