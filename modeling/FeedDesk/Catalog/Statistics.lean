import FeedDesk.Catalog.Evaluation

namespace FeedDesk

/-!
Counts over the whole catalog. Active products are counted by category, in the order of the
categories, and by region, the largest region first. Products without a category or region are
counted under a name of their own.
-/

/-- A number of products under a name. -/
structure Count where
  name : Text
  count : Int
  deriving DecidableEq

structure Statistics where
  total : Int := 0
  active : Int := 0
  byCategory : List Count := []
  byRegion : List Count := []
  uniqueSuppliers : Int := 0
  totalRestrictions : Int := 0
  deriving DecidableEq

/-- The name under which products without one are counted. -/
def unknownName : Text := "Unknown"

namespace Statistics

/-- The groups of equal values, in ascending order, each with its size; a missing value comes
first. -/
def tally (values : List (Option Text)) : List (Option Text × Nat) :=
  let sorted := Sorting.sort
    (fun left right => (Cell.ofText? left).order (.ofText? right) != .gt) values
  (runs (fun left right => (Cell.ofText? left).order (.ofText? right) == .eq) sorted).filterMap
    fun run => run.head?.map fun value => (value, run.length)

def counts (groups : List (Option Text × Nat)) : List Count :=
  groups.map fun (name, size) => ⟨name.getD unknownName, size⟩

/-- Larger groups first; the sort is stable, so that equal sizes stay in order of their values. -/
def bySize (groups : List (Option Text × Nat)) : List (Option Text × Nat) :=
  Sorting.sort (fun left right => right.2 ≤ left.2) groups

def ofCatalog (catalog : Catalog) : Statistics :=
  let active := catalog.products.filter Product.isActive
  { total := catalog.products.length
    active := active.length
    byCategory := counts (tally (active.map Product.category))
    byRegion := counts (bySize (tally (active.map Product.region)))
    uniqueSuppliers := ((tally (active.map Product.supplier)).filter (·.1.isSome)).length
    totalRestrictions := catalog.restrictions.length }

def countLines (title : Text) (counts : List Count) : List Text :=
  if counts.isEmpty then []
  else title :: counts.map fun count => "  " ++ count.name ++ ": " ++ Text.ofInt count.count

/-- The counts as lines of text. -/
def text (statistics : Statistics) : Text :=
  Text.joined "\n" ([
    "Products: " ++ Text.ofInt statistics.total ++
      " (" ++ Text.ofInt statistics.active ++ " active)",
    "Suppliers: " ++ Text.ofInt statistics.uniqueSuppliers,
    "Restrictions: " ++ Text.ofInt statistics.totalRestrictions] ++
    countLines "By type:" statistics.byCategory ++
    countLines "By country:" statistics.byRegion)

end Statistics
end FeedDesk
