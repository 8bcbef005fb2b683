import FeedDesk.Proofs.Store.Reachable
import Mathlib.Data.List.Forall2

namespace FeedDesk

/-!
# What a fixture adds

A fixture is added in two passes.  The first one puts the products behind those
that are there.  The second one takes the rules one by one and looks for the
product of each; it adds no product, so every rule is looked up among the same
products, old and new ones together.  A rule is therefore added or passed over
for its code alone, whatever rules stand before it.

The result is described without the passes.  What had to be proved of the
catalog before are its ids: they count the rows, so that a row that is added
gets an id above all others, and the first product of a code is the one of
least id.
-/

namespace Catalog

/-- Some product has the code of the record. -/
def knows (catalog : Catalog) (record : RestrictionRecord) : Bool :=
  catalog.products.any fun product => product.code == some record.code

/-- Among the products with the code this one has the least id. -/
structure LeastWithCode (catalog : Catalog) (code : Text) (product : Product) : Prop where
  member : product ∈ catalog.products
  coded : product.code = some code
  least : ∀ other ∈ catalog.products, other.code = some code → product.id ≤ other.id

/-- The rule is that of the record, tied to the product of its code. -/
def Ties (catalog : Catalog) (record : RestrictionRecord) (rule : Restriction) : Prop :=
  ∃ product, catalog.LeastWithCode record.code product ∧ rule = record.restriction rule.id product.id

/-- What becomes of a catalog to which a fixture is added, and what is told of it. -/
structure Grown (before after : Catalog) (fixture : Fixture) (summary : ImportSummary) : Prop where
  /-- The products of the fixture stand behind the old ones. -/
  products : ∃ added, after.products = before.products ++ added ∧
    List.Forall₂ (fun record product => product = record.product product.id) fixture.products added
  productIds : after.products.Pairwise fun first second => first.id < second.id
  /-- The rules that have a product stand behind the old ones, each of them once. -/
  rules : ∃ added, after.restrictions = before.restrictions ++ added ∧
    List.Forall₂ after.Ties (fixture.restrictions.filter after.knows) added ∧
      summary.restrictions = added.length
  ruleIds : after.restrictions.Pairwise fun first second => first.id < second.id
  productCount : summary.products = fixture.products.length
  /-- The other rules are skipped. -/
  skipped : summary.skipped = (fixture.restrictions.filter fun record => !after.knows record).length
  ruleCount : summary.restrictions + summary.skipped = fixture.restrictions.length

/-- Ids count the rules, and every rule refers to a product. -/
structure Intact (catalog : Catalog) : Prop where
  ids : catalog.restrictions.map Restriction.id = List.range' 1 catalog.restrictions.length
  ties : ∀ rule ∈ catalog.restrictions, ∃ product ∈ catalog.products, product.id = rule.productId

variable {catalog before after : Catalog}

theorem exists_of_forall₂ {α β : Type} {relation : α → β → Prop} {items : List α} {others : List β}
    (alike : List.Forall₂ relation items others) {other : β} (member : other ∈ others) :
    ∃ item, relation item other := by
  induction alike with
  | nil => cases member
  | cons first _ inductionHypothesis =>
      rcases List.mem_cons.mp member with rfl | later
      · exact ⟨_, first⟩
      · exact inductionHypothesis later

/-! ## The product of a code -/

theorem knows_eq (record : RestrictionRecord) :
    catalog.knows record = (catalog.productWithCode? record.code).isSome :=
  Bool.eq_iff_iff.mpr (List.any_eq_true.trans List.find?_isSome.symm)

theorem Kept.leastWithCode (kept : catalog.Kept) {code : Text} {product : Product}
    (found : catalog.productWithCode? code = some product) : catalog.LeastWithCode code product := by
  obtain ⟨matching, earlier, later, whole, passed⟩ := List.find?_eq_some_iff_append.mp found
  have order := kept.idOrder
  rw [whole] at order
  refine ⟨List.mem_of_find?_eq_some found, beq_iff_eq.mp matching, fun other member same => ?_⟩
  rw [whole, List.mem_append, List.mem_cons] at member
  rcases member with before | rfl | behind
  · have different := passed other before
    rw [same, beq_self_eq_true] at different
    cases different
  · exact Nat.le_refl _
  · exact Nat.le_of_lt ((List.pairwise_cons.mp (List.pairwise_append.mp order).2.1).1 other behind)

/-! ## The two passes -/

theorem exists_addProducts (catalog : Catalog) (records : List ProductRecord) :
    ∃ added, records.foldl addProduct catalog = { catalog with products := catalog.products ++ added } ∧
      List.Forall₂ (fun record product => product = record.product product.id) records added := by
  induction records generalizing catalog with
  | nil => exact ⟨[], by rw [List.append_nil]; rfl, .nil⟩
  | cons record records inductionHypothesis =>
      obtain ⟨added, whole, alike⟩ := inductionHypothesis (catalog.addProduct record)
      refine ⟨record.product (catalog.products.length + 1) :: added, ?_, .cons rfl alike⟩
      rw [List.foldl_cons, whole, addProduct, List.append_assoc, List.singleton_append]

/-- The pass over the rules.  It depends on the products, and these stay as they are. -/
theorem exists_addRestrictions (catalog : Catalog) (summary : ImportSummary) (records : List RestrictionRecord) :
    ∃ added, catalog.addRestrictions summary records =
        ({ catalog with restrictions := catalog.restrictions ++ added },
          { summary with
            restrictions := summary.restrictions + added.length
            skipped := summary.skipped + (records.filter fun record => !catalog.knows record).length }) ∧
      List.Forall₂ (fun record rule => ∃ product, catalog.productWithCode? record.code = some product ∧
        rule = record.restriction rule.id product.id)
        (records.filter catalog.knows) added ∧
      added.map Restriction.id = List.range' (catalog.restrictions.length + 1) added.length := by
  induction records generalizing catalog summary with
  | nil =>
      refine ⟨[], ?_, .nil, rfl⟩
      rw [List.append_nil]
      rfl
  | cons record records inductionHypothesis =>
      rw [addRestrictions, addRestriction]
      cases found : catalog.productWithCode? record.code with
      | none =>
          have unknown : catalog.knows record = false := by
            rw [knows_eq, found]
            rfl
          obtain ⟨added, whole, tied, ids⟩ :=
            inductionHypothesis catalog { summary with skipped := summary.skipped + 1 }
          rw [List.filter_cons_of_pos (by rw [unknown]; rfl), List.filter_cons_of_neg (by rw [unknown]; decide)]
          refine ⟨added, ?_, tied, ids⟩
          rw [Option.map_none]
          dsimp only
          rw [whole, List.length_cons, Nat.add_right_comm, Nat.add_assoc]
      | some product =>
          have known : catalog.knows record = true := by
            rw [knows_eq, found]
            rfl
          obtain ⟨added, whole, tied, ids⟩ := inductionHypothesis
            { catalog with restrictions := catalog.restrictions ++
                [record.restriction (catalog.restrictions.length + 1) product.id] }
            { summary with restrictions := summary.restrictions + 1 }
          rw [List.filter_cons_of_neg (by rw [known]; decide), List.filter_cons_of_pos known]
          refine ⟨record.restriction (catalog.restrictions.length + 1) product.id :: added, ?_,
            .cons ⟨product, found, rfl⟩ tied, ?_⟩
          · rw [Option.map_some]
            dsimp only
            rw [whole, List.append_assoc, List.singleton_append, List.length_cons, Nat.add_right_comm, Nat.add_assoc]
            rfl
          · rw [List.map_cons, ids, List.length_append, List.length_singleton, List.length_cons, List.range'_succ]
            rfl

/-! ## The catalog after both passes -/

/-- The products of a fixture stand behind the old ones, whatever its rules are. -/
theorem exists_products_add (catalog : Catalog) (fixture : Fixture) :
    ∃ added, (catalog.add fixture).1.products = catalog.products ++ added ∧
      List.Forall₂ (fun record product => product = record.product product.id) fixture.products added := by
  obtain ⟨added, between, alike⟩ := catalog.exists_addProducts fixture.products
  obtain ⟨_, whole, _⟩ := exists_addRestrictions { catalog with products := catalog.products ++ added }
    { products := fixture.products.length } fixture.restrictions
  refine ⟨added, ?_, alike⟩
  rw [Catalog.add, between, whole]

namespace Intact

theorem empty : Intact {} := ⟨rfl, fun _ member => nomatch member⟩

theorem idOrder (intact : catalog.Intact) :
    catalog.restrictions.Pairwise fun first second => first.id < second.id := by
  have ordered := List.pairwise_lt_range' (s := 1) (n := catalog.restrictions.length)
  rw [← intact.ids] at ordered
  exact List.pairwise_map.mp ordered

/-- Products and rules that go on counting leave the catalog intact, if the new
rules refer to old or new products. -/
theorem behind (intact : catalog.Intact) {products : List Product} {rules : List Restriction}
    (ids : rules.map Restriction.id = List.range' (catalog.restrictions.length + 1) rules.length)
    (ties : ∀ rule ∈ rules, ∃ product ∈ catalog.products ++ products, product.id = rule.productId) :
    Intact ⟨catalog.products ++ products, catalog.restrictions ++ rules⟩ where
  ids := by
    rw [List.map_append, intact.ids, ids, List.length_append, Nat.add_comm _ 1, List.range'_append_1]
  ties := by
    intro rule member
    rcases List.mem_append.mp member with old | new
    · obtain ⟨product, inside, same⟩ := intact.ties rule old
      exact ⟨product, List.mem_append_left _ inside, same⟩
    · exact ties rule new

end Intact

/-- Adding a fixture that was read does what the fixture says, and every rule
still refers to a product. -/
theorem Kept.grown_add (kept : catalog.Kept) (intact : catalog.Intact) {fixture : Fixture}
    (finite : ∀ record ∈ fixture.products, ∀ cost, record.cost = some cost → cost.isFinite = true) :
    Grown catalog (catalog.add fixture).1 fixture (catalog.add fixture).2 ∧ (catalog.add fixture).1.Intact := by
  have keptAfter := kept.add finite
  obtain ⟨products, between, alike⟩ := catalog.exists_addProducts fixture.products
  obtain ⟨rules, whole, found, ids⟩ := exists_addRestrictions
    { catalog with products := catalog.products ++ products }
    { products := fixture.products.length } fixture.restrictions
  rw [Catalog.add, between, whole] at keptAfter ⊢
  have tied : List.Forall₂ (Ties ⟨catalog.products ++ products, catalog.restrictions ++ rules⟩)
      (fixture.restrictions.filter (knows ⟨catalog.products ++ products, catalog.restrictions⟩)) rules :=
    found.imp fun record rule ⟨product, first, same⟩ => ⟨product, keptAfter.leastWithCode first, same⟩
  have intactAfter : Intact ⟨catalog.products ++ products, catalog.restrictions ++ rules⟩ := by
    refine intact.behind ids fun rule new => ?_
    obtain ⟨record, product, least, same⟩ := exists_of_forall₂ tied new
    exact ⟨product, least.member, by rw [same]; rfl⟩
  refine ⟨?_, intactAfter⟩
  exact {
    products := ⟨products, rfl, alike⟩
    productIds := keptAfter.idOrder
    rules := ⟨rules, rfl, tied, Nat.zero_add _⟩
    ruleIds := intactAfter.idOrder
    productCount := rfl
    skipped := Nat.zero_add _
    ruleCount := by
      dsimp only
      rw [Nat.zero_add, Nat.zero_add, ← found.length_eq]
      exact (List.length_eq_length_filter_add _).symm }

namespace Grown

variable {fixture : Fixture} {summary : ImportSummary}

theorem length_products (grown : Grown before after fixture summary) :
    after.products.length = before.products.length + summary.products := by
  obtain ⟨added, whole, alike⟩ := grown.products
  rw [whole, List.length_append, grown.productCount, alike.length_eq]

theorem length_restrictions (grown : Grown before after fixture summary) :
    after.restrictions.length = before.restrictions.length + summary.restrictions := by
  obtain ⟨added, whole, _, count⟩ := grown.rules
  rw [whole, List.length_append, count]

end Grown
end Catalog
end FeedDesk
