import FeedDesk.Proofs.Desk.Facets

namespace FeedDesk

open Lookup

/-!
# Contact data of suppliers

A row of the supplier lookup stands for all active products of a supplier in a
region.  Its name and its region are those of every one of these products, but
its email and its phone number come from the product of least id alone.  The
products may carry different parts of the contact data, so a number that only a
later product carries is not shown.

What is promised of a row and what it does are therefore kept apart.  The
promise compares the row with all its products; the row is compared with the
first of them; and the two meet exactly where the first product has what the
others have.
-/

/-- Where some of the products carry a value, the value shown is one of theirs. -/
def KeepsContact (shown : Option Text) (carried : Product → Option Text) (offers : List Product) : Prop :=
  (∃ offer ∈ offers, (carried offer).isSome = true) →
    ∃ offer ∈ offers, ∃ value, carried offer = some value ∧ shown = some value

/-- The product of least id. -/
structure IsFirst (first : Product) (offers : List Product) : Prop where
  member : first ∈ offers
  least : ∀ other ∈ offers, first.id ≤ other.id

/-- A row that shows what one product carries keeps the contact data of them all
only where this product carries any, or none does. -/
theorem keepsContact_iff {first : Product} {offers : List Product} (member : first ∈ offers)
    (carried : Product → Option Text) :
    KeepsContact (carried first) carried offers ↔
      (carried first).isSome = true ∨ ∀ offer ∈ offers, carried offer = none := by
  constructor
  · intro keeps
    by_cases known : ∃ offer ∈ offers, (carried offer).isSome = true
    · rcases keeps known with ⟨_, _, value, _, shown⟩
      rw [shown]
      exact Or.inl rfl
    · apply Or.inr
      intro offer inside
      apply Option.not_isSome_iff_eq_none.mp
      intro here
      exact known ⟨offer, inside, here⟩
  · intro either known
    rcases either with here | unknown
    · rcases Option.isSome_iff_exists.mp here with ⟨value, same⟩
      exact ⟨first, member, value, same, same⟩
    · rcases known with ⟨offer, inside, here⟩
      rw [unknown offer inside] at here
      cases here

/-! ## The products behind a row -/

namespace Graph.Supplier

def key (supplier : Supplier) : List (Option Text) :=
  [some supplier.name, supplier.country]

theorem key_ofGroup {first : Product} (rest : List Product) (supplied : first.supplier.isSome = true) :
    (ofGroup (first :: rest)).key = supplierKey first := by
  rcases Option.isSome_iff_exists.mp supplied with ⟨name, known⟩
  change [some (first.supplier.getD []), first.region] = [first.supplier, first.region]
  rw [known]
  rfl

end Graph.Supplier

namespace Catalog

variable {catalog : Catalog}

/-- The active products of the supplier in its region, in id order. -/
def offersOf (catalog : Catalog) (supplier : Graph.Supplier) : List Product :=
  catalog.products.filter fun offer =>
    offer.isActive && decide (offer.supplier = some supplier.name ∧ offer.region = supplier.country)

theorem ofKey_supplied (supplier : Graph.Supplier) :
    Grouping.ofKey supplierKey catalog.supplied supplier.key = catalog.offersOf supplier := by
  rw [Grouping.ofKey, supplied, onOffer, List.filter_filter, List.filter_filter, offersOf]
  apply List.filter_congr
  intro offer _
  apply Bool.eq_iff_iff.mpr
  simp only [Bool.and_eq_true, beq_iff_eq, decide_eq_true_eq, supplierKey, Graph.Supplier.key, List.cons.injEq,
    and_true]
  constructor
  · intro both
    exact ⟨both.2, both.1.1⟩
  · intro both
    rcases both with ⟨active, supplied, region⟩
    rw [supplied]
    exact ⟨⟨⟨rfl, region⟩, rfl⟩, active⟩

theorem offersOf_congr {supplier other : Graph.Supplier} (same : supplier.key = other.key) :
    catalog.offersOf supplier = catalog.offersOf other := by
  rw [← ofKey_supplied, ← ofKey_supplied, same]

theorem key_ofGroup_of_supplied (first : Product) (rest : List Product) (member : first ∈ catalog.supplied) :
    (Graph.Supplier.ofGroup (first :: rest)).key = supplierKey first :=
  Graph.Supplier.key_ofGroup rest (List.mem_filter.mp member).2

/-- Each supplier has one row for each of its regions. -/
theorem enumerates_keys (catalog : Catalog) :
    Grouping.Enumerates (catalog.suppliers.map Graph.Supplier.key) (catalog.supplied.map supplierKey) := by
  rw [suppliers, Grouping.map_entryKey_groups key_ofGroup_of_supplied]
  exact Grouping.enumerates_ascending _

/-- A row is made from the products of its supplier in its region. -/
theorem eq_ofGroup_of_mem_suppliers {supplier : Graph.Supplier} (member : supplier ∈ catalog.suppliers) :
    ∃ first rest, catalog.offersOf supplier = first :: rest ∧
      supplier = Graph.Supplier.ofGroup (first :: rest) := by
  have made := Grouping.eq_make_of_mem key_ofGroup_of_supplied member
  have keyed := (catalog.enumerates_keys.mem_iff supplier.key).mp (List.mem_map_of_mem member)
  rcases Grouping.exists_ofKey_eq_cons (Grouping.mem_ascending.mpr keyed) with ⟨first, rest, whole, _⟩
  rw [whole] at made
  rw [ofKey_supplied] at whole
  exact ⟨first, rest, whole, made⟩

theorem Kept.isFirst (kept : catalog.Kept) {supplier : Graph.Supplier} {first : Product} {rest : List Product}
    (whole : catalog.offersOf supplier = first :: rest) : IsFirst first (catalog.offersOf supplier) := by
  have order : (catalog.offersOf supplier).Pairwise fun one other => one.id < other.id :=
    kept.idOrder.sublist List.filter_sublist
  rw [whole] at order ⊢
  constructor
  · exact List.mem_cons_self
  · intro other member
    rcases List.mem_cons.mp member with rfl | later
    · exact Nat.le_refl _
    · exact Nat.le_of_lt ((List.pairwise_cons.mp order).1 other later)

end Catalog

/-! ## The lookup of suppliers -/

namespace Desk

variable {desk : Desk Connection} (onCatalogs : desk.store = Connection.store) {session : Session Connection}

include onCatalogs

theorem suppliers_eq_ok (region : Option Text) :
    desk.suppliers session region = (.ok ((session.state.catalog.suppliers.filter
      (Graph.Supplier.within region)).map Graph.Supplier.row), session) :=
  fetch_of_rows onCatalogs session (session.state.catalog.rows_suppliers region)

theorem resolve_suppliers_eq_ok (few : session.state.catalog.products.length < signedLimit) (region : Option Text) :
    Graph.resolve desk session (.suppliers region) = (.ok (.array ((session.state.catalog.suppliers.filter
      (Graph.Supplier.within region)).map Graph.supplierJson)), session) := by
  rw [Graph.resolve, suppliers_eq_ok onCatalogs, Graph.shown, Graph.Supplier.map_ofRow]
  intro supplier member
  have size := session.state.catalog.productCount_le (List.mem_filter.mp member).1
  exact Int.lt_of_le_of_lt size (Int.ofNat_lt.mpr few)

/-- The lookup of suppliers, and the field of the graph interface, give one row
for each supplier with active products and each of its regions, as far as this
region is asked for.  The row shows the email and the phone number of the first
product, that of least id.  So an email that some product of the row carries is
kept exactly if the first product carries one, and the same holds of the phone
number. -/
theorem contact_kept_iff (reachable : session.state.Reachable) (region : Option Text) :
    ∃ suppliers : List Graph.Supplier,
      desk.suppliers session region = (.ok (suppliers.map Graph.Supplier.row), session) ∧
      (session.state.catalog.products.length < signedLimit →
        Graph.resolve desk session (.suppliers region) =
          (.ok (.array (suppliers.map Graph.supplierJson)), session)) ∧
      (suppliers.map Graph.Supplier.key).Nodup ∧
      (∀ offer ∈ session.state.catalog.supplied, (∀ place ∈ region, offer.region = some place) →
        ∃ supplier ∈ suppliers, supplier.key = supplierKey offer) ∧
      ∀ supplier ∈ suppliers, ∃ first, IsFirst first (session.state.catalog.offersOf supplier) ∧
        supplier.email = first.email ∧ supplier.phone = first.phone ∧
        (KeepsContact supplier.email Product.email (session.state.catalog.offersOf supplier) ↔
          first.email.isSome = true ∨ ∀ offer ∈ session.state.catalog.offersOf supplier, offer.email = none) ∧
        (KeepsContact supplier.phone Product.phone (session.state.catalog.offersOf supplier) ↔
          first.phone.isSome = true ∨ ∀ offer ∈ session.state.catalog.offersOf supplier, offer.phone = none) := by
  have keys := session.state.catalog.enumerates_keys
  refine ⟨_, suppliers_eq_ok onCatalogs region, fun few => resolve_suppliers_eq_ok onCatalogs few region, ?_, ?_, ?_⟩
  · exact keys.nodup.sublist (List.filter_sublist.map Graph.Supplier.key)
  · intro offer supplied within
    have listed := (keys.mem_iff (supplierKey offer)).mpr (List.mem_map_of_mem supplied)
    rcases List.mem_map.mp listed with ⟨supplier, member, same⟩
    have country : supplier.country = offer.region := (List.cons.inj (List.cons.inj same).2).1
    refine ⟨supplier, List.mem_filter.mpr ⟨member, ?_⟩, same⟩
    rw [Graph.Supplier.within, Option.all_eq_true]
    intro place asked
    rw [country, decide_eq_true_eq]
    exact within place asked
  · intro supplier member
    rcases Catalog.eq_ofGroup_of_mem_suppliers (List.mem_filter.mp member).1 with ⟨first, rest, whole, rfl⟩
    have isFirst := reachable.kept.isFirst whole
    exact ⟨first, isFirst, rfl, rfl, keepsContact_iff isFirst.member Product.email,
      keepsContact_iff isFirst.member Product.phone⟩

/-! A supplier of whose two products the first carries an email and the second
a phone number. -/

omit onCatalogs

def contactsText : Text :=
  "\x7b\"products\":[\x7b\"product_name\":\"Hay\",\"supplier\":\"A\",\"supplier_email\":\"a@feeds.om\"\x7d," ++
    "\x7b\"product_name\":\"Oats\",\"supplier\":\"A\",\"supplier_phone\":\"+968 1\"\x7d]\x7d"

def contacts : Fixture where
  products := [
    { name := "Hay", supplier := some "A", email := some "a@feeds.om" },
    { name := "Oats", supplier := some "A", phone := some "+968 1" }]

def contactsSession : Session Connection where
  state := (Connection.add {} contacts).2

/-- The row of the supplier, as the lookup gives it. -/
def contactsSupplier : Graph.Supplier where
  name := "A"
  country := none
  email := some "a@feeds.om"
  phone := none
  productCount := 2

theorem contact_kept_iff_contacts :
    offersDesk.store = Connection.store ∧ contactsSession.state.Reachable ∧
      contactsSession.state.catalog.products.length < signedLimit ∧
      ∃ suppliers : List Graph.Supplier,
        offersDesk.suppliers contactsSession none = (.ok (suppliers.map Graph.Supplier.row), contactsSession) ∧
        Graph.resolve offersDesk contactsSession (.suppliers none) =
          (.ok (.array (suppliers.map Graph.supplierJson)), contactsSession) ∧
        ∃ supplier ∈ suppliers, supplier.key = contactsSupplier.key ∧
          KeepsContact supplier.email Product.email (contactsSession.state.catalog.offersOf supplier) ∧
          ¬KeepsContact supplier.phone Product.phone (contactsSession.state.catalog.offersOf supplier) := by
  have read : Fixture.ofText? contactsText = some contacts := by decide +kernel
  have reachable : contactsSession.state.Reachable := .added read .opened
  have onCatalogs : offersDesk.store = Connection.store := rfl
  have few : contactsSession.state.catalog.products.length < signedLimit := by decide +kernel
  have carried : ∀ first ∈ contactsSession.state.catalog.offersOf contactsSupplier,
      (∀ other ∈ contactsSession.state.catalog.offersOf contactsSupplier, first.id ≤ other.id) →
        first.email.isSome = true ∧ first.phone.isSome = false := by decide +kernel
  have numbered : ∃ offer ∈ contactsSession.state.catalog.offersOf contactsSupplier, offer.phone ≠ none := by
    decide +kernel
  have offered : ∃ offer ∈ contactsSession.state.catalog.supplied, supplierKey offer = contactsSupplier.key := by
    decide +kernel
  rcases contact_kept_iff onCatalogs reachable none with ⟨suppliers, rows, shown, _, listed, contact⟩
  rcases offered with ⟨offer, supplied, offerKey⟩
  rcases listed offer supplied (fun _ impossible => nomatch impossible) with ⟨supplier, member, keyed⟩
  have same : supplier.key = contactsSupplier.key := keyed.trans offerKey
  rcases contact supplier member with ⟨first, isFirst, _, _, email, phone⟩
  rw [Catalog.offersOf_congr same] at isFirst email phone
  rcases carried first isFirst.member isFirst.least with ⟨withEmail, withoutPhone⟩
  refine ⟨onCatalogs, reachable, few, suppliers, rows, shown few, supplier, member, same, ?_⟩
  rw [Catalog.offersOf_congr same, email, phone]
  refine ⟨Or.inl withEmail, ?_⟩
  intro kept
  rcases kept with here | nowhere
  · rw [withoutPhone] at here
    cases here
  · rcases numbered with ⟨other, inside, known⟩
    exact known (nowhere other inside)

/-- The phone number that the second product carries is not shown. -/
theorem contact_lost :
    offersDesk.store = Connection.store ∧ contactsSession.state.Reachable ∧
      offersDesk.suppliers contactsSession none = (.ok [contactsSupplier.row], contactsSession) ∧
      Graph.resolve offersDesk contactsSession (.suppliers none) =
        (.ok (.array [Graph.supplierJson contactsSupplier]), contactsSession) ∧
      ¬KeepsContact contactsSupplier.phone Product.phone
        (contactsSession.state.catalog.offersOf contactsSupplier) := by
  have read : Fixture.ofText? contactsText = some contacts := by decide +kernel
  have carried : ∃ offer ∈ contactsSession.state.catalog.offersOf contactsSupplier, offer.phone.isSome = true := by
    decide +kernel
  refine ⟨rfl, .added read .opened, rfl, rfl, ?_⟩
  intro keeps
  rcases keeps carried with ⟨_, _, _, _, impossible⟩
  cases impossible

end Desk
end FeedDesk
