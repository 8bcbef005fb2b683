import FeedDesk.Proofs.Catalog.Search
import FeedDesk.Proofs.Catalog.Tally

namespace FeedDesk

open Lookup

/-!
# Categories, regions and suppliers

The lookups of categories, regions and suppliers group products, each by its own
columns.  Their rows are described here without plans.  The regions are the
groups that the statistics count, put in the same order; the lookup breaks ties
between sizes by name, and the statistics do so because their groups stood in
the order of the names before.

A group of the suppliers is a pair of a supplier and a region.  Whether the
region is missing makes no difference for the group, only for the row; and a
region that is asked for keeps whole groups, since a group has one region.
-/

/-- The active products, in id order. -/
def Catalog.onOffer (catalog : Catalog) : List Product :=
  catalog.products.filter Product.isActive

/-- The active products that have a supplier. -/
def Catalog.supplied (catalog : Catalog) : List Product :=
  catalog.onOffer.filter fun offer => offer.supplier.isSome

/-- The categories of all products, those that are not active among them. -/
def Catalog.categories (catalog : Catalog) : List Text :=
  (Grouping.groups Product.category (catalog.products.filter fun offer => offer.category.isSome)).map fun group =>
    (group.head?.bind Product.category).getD []

def categoryRow (name : Text) : Row :=
  [("type", .string name)]

def Count.regionRow (count : Count) : Row :=
  [("supplier_country", .string count.name), ("product_count", .integer count.count)]

namespace Graph.Supplier

def row (supplier : Supplier) : Row := [
  ("supplier", .string supplier.name), ("supplier_country", .ofText? supplier.country),
  ("supplier_email", .ofText? supplier.email), ("supplier_phone", .ofText? supplier.phone),
  ("product_count", .integer supplier.productCount)]

/-- The supplier of a group; the first product of the group speaks for it. -/
def ofGroup (group : List Product) : Supplier where
  name := (group.head?.bind Product.supplier).getD []
  country := group.head?.bind Product.region
  email := group.head?.bind Product.email
  phone := group.head?.bind Product.phone
  productCount := group.length

end Graph.Supplier

/-! ## The plans of the lookups -/

namespace Lookup

def supplierKey (offer : Product) : List (Option Text) :=
  [offer.supplier, offer.region]

def supplierConditions (region : Option Text) : List (Filter Column) :=
  [isActive, hasSupplier] ++ (region.map regionIs).toList

theorem suppliers_eq (region : Option Text) :
    suppliers region = {
      source := .catalog
      projection := [field .supplier, field .region, field .email, field .phone, .count .products]
      filters := supplierConditions region
      grouping := [field .supplier, field .region]
      ordering := [(field .supplier, .ascending)] } := by
  rw [suppliers, Plan.filterIf_eq]
  rfl

theorem groupsBy_suppliers (region : Option Text) : (suppliers region).GroupsBy supplierKey := by
  rw [suppliers_eq]
  exact ⟨rfl, rfl, fun _ => rfl⟩

theorem ordered_suppliers (region : Option Text) (first second : Product) (rest others : List Record)
    (below : compare (supplierKey first) (supplierKey second) = .lt) :
    (suppliers region).orderGroups (Plan.alone first :: rest) (Plan.alone second :: others) ≠ .gt := by
  rw [suppliers_eq]
  change ((Cell.ofText? first.supplier).order (.ofText? second.supplier)).then .eq ≠ .gt
  rw [Cell.order_ofText?, Ordering.then_eq]
  exact compare_head_ne_gt below

theorem decided_supplierConditions (region : Option Text) :
    ∀ filter ∈ supplierConditions region, filter.Decided := by
  intro filter member
  rw [supplierConditions, List.mem_append, List.mem_cons, List.mem_singleton] at member
  rcases member with (rfl | rfl) | place
  · exact Filter.decided_flag _
  · exact fun _ => rfl
  · exact decided_regionIs place

theorem all_supplierConditions (region : Option Text) (offer : Product) :
    (supplierConditions region).all (·.accepts (Plan.alone offer)) =
      ((region.all fun place => decide (offer.region = some place)) && offer.supplier.isSome && offer.isActive) := by
  have supplied : hasSupplier.accepts (Plan.alone offer) = offer.supplier.isSome := accepts_notNull rfl
  rw [supplierConditions, List.all_append, List.all_cons, List.all_cons, List.all_nil, Bool.and_true, supplied,
    Plan.alone, accepts_isActive, all_regionIs, Bool.and_comm, Bool.and_comm offer.isActive,
    Bool.and_assoc]

theorem row_suppliers (region : Option Text) {first : Product} (rest : List Product)
    (supplied : first.supplier.isSome = true) :
    (suppliers region).row ((first :: rest).map Plan.alone) = (Graph.Supplier.ofGroup (first :: rest)).row := by
  obtain ⟨name, known⟩ := Option.isSome_iff_exists.mp supplied
  rw [suppliers_eq]
  change ([("supplier", (Cell.ofText? first.supplier).json), ("supplier_country", (Cell.ofText? first.region).json),
    ("supplier_email", (Cell.ofText? first.email).json), ("supplier_phone", (Cell.ofText? first.phone).json),
    ("product_count", .integer ((first :: rest).map Plan.alone).length)] : Row) =
      ([("supplier", .string (first.supplier.getD [])), ("supplier_country", .ofText? first.region),
        ("supplier_email", .ofText? first.email), ("supplier_phone", .ofText? first.phone),
        ("product_count", .integer (first :: rest).length)] : Row)
  rw [json_ofText?, json_ofText?, json_ofText?, json_ofText?, known, List.length_map]
  rfl

end Lookup

/-! ## Suppliers and their groups -/

/-- The suppliers of the active products, one for each name and region. -/
def Catalog.suppliers (catalog : Catalog) : List Graph.Supplier :=
  (Grouping.groups supplierKey catalog.supplied).map Graph.Supplier.ofGroup

/-- The supplier is in the region, if one is asked for. -/
def Graph.Supplier.within (region : Option Text) (supplier : Supplier) : Bool :=
  region.all fun place => decide (supplier.country = some place)

namespace Catalog

variable (catalog : Catalog)

/-- The region of a key, if one is asked for. -/
def keyWithin (region : Option Text) (key : List (Option Text)) : Bool :=
  region.all fun place => decide (key.getLastD none = some place)

/-- A region that is asked for keeps whole groups. -/
theorem suppliers_within (region : Option Text) :
    (Grouping.groups supplierKey (catalog.supplied.filter fun offer => keyWithin region (supplierKey offer))).map
        Graph.Supplier.ofGroup = catalog.suppliers.filter (Graph.Supplier.within region) := by
  rw [Grouping.groups_filter, suppliers, Grouping.groups, List.map_map, List.map_map, List.filter_map]
  refine congrArg (List.map _) (List.filter_congr fun key listed => ?_)
  obtain ⟨first, rest, whole, same⟩ := Grouping.exists_ofKey_eq_cons listed
  rw [Function.comp_apply, Function.comp_apply, whole, ← same]
  rfl

theorem rows_suppliers (region : Option Text) :
    (Lookup.suppliers region).rows catalog =
      .ok ((catalog.suppliers.filter (Graph.Supplier.within region)).map Graph.Supplier.row) := by
  have decided : ∀ filter ∈ (Lookup.suppliers region).filters, filter.Decided := by
    rw [suppliers_eq]
    exact decided_supplierConditions region
  have accepted : ∀ offer, (Lookup.suppliers region).filters.all (·.accepts (Plan.alone offer)) =
      (keyWithin region (supplierKey offer) && offer.supplier.isSome && offer.isActive) := by
    rw [suppliers_eq]
    exact all_supplierConditions region
  have offers : (catalog.products.filter fun offer =>
      keyWithin region (supplierKey offer) && offer.supplier.isSome && offer.isActive) =
        catalog.supplied.filter fun offer => keyWithin region (supplierKey offer) := by
    rw [supplied, onOffer, List.filter_filter, List.filter_filter]
  have uncut : ∀ rows, (Lookup.suppliers region).cut rows = rows := fun rows => by
    rw [suppliers_eq, Plan.cut]
  rw [(groupsBy_suppliers region).rows_eq decided accepted, offers,
    (groupsBy_suppliers region).allRows_of_ordered (ordered_suppliers region), uncut, ← suppliers_within,
    List.map_map]
  refine congrArg Except.ok (List.map_congr_left fun group member => ?_)
  obtain ⟨first, rest, rfl, inside⟩ := Grouping.exists_of_mem_groups member
  exact row_suppliers region rest (List.mem_filter.mp (List.mem_filter.mp inside).1).2

theorem productCount_le {supplier : Graph.Supplier} (member : supplier ∈ catalog.suppliers) :
    supplier.productCount ≤ catalog.products.length := by
  obtain ⟨group, listed, rfl⟩ := List.mem_map.mp member
  obtain ⟨key, _, rfl⟩ := List.mem_map.mp listed
  have size : (Grouping.ofKey supplierKey catalog.supplied key).length ≤ catalog.products.length :=
    (List.length_filter_le _ _).trans ((List.length_filter_le _ _).trans (List.length_filter_le _ _))
  exact Int.ofNat_le.mpr size

end Catalog
end FeedDesk
