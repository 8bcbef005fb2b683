import FeedDesk.Proofs.Catalog.Cheapest
import FeedDesk.Proofs.Catalog.Grouping
import FeedDesk.Proofs.Store.History

namespace FeedDesk

open Lookup Synthesis

/-!
# Rules with their products

A question for restrictions is answered from a join: every rule is read together
with the product that it is tied to.  Neither codes nor names tell products
apart, but ids do, and a rule is tied to an id.  So what the join needs is what
every catalog keeps, that ids are unique and that each rule refers to one of
them; then it loses no rule and repeats none.

The answer is described by pairs of a rule and its product.  That a product is
no longer active does not matter to its rules.
-/

/-- A rule and the product that it restricts. -/
structure RuledProduct where
  product : Product
  rule : Restriction

namespace RuledProduct

variable (ruled : RuledProduct)

def record : Record where
  product := ruled.product
  rule := some ruled.rule

/-- The row of the answer. -/
def row : Row := [
  ("product_name", .string ruled.product.name), ("type", .ofText? ruled.product.category),
  ("species", .ofText? ruled.rule.species), ("sex", .ofText? ruled.rule.sex),
  ("min_age_months", (Cell.ofInteger? ruled.rule.leastAge).json),
  ("max_age_months", (Cell.ofInteger? ruled.rule.greatestAge).json),
  ("max_perc_feed", (Cell.ofReal? ruled.rule.feedCap).json),
  ("max_perc_conc", (Cell.ofReal? ruled.rule.concentrateCap).json),
  ("production_focus", .ofText? ruled.rule.focus), ("lactation_cycle", .ofText? ruled.rule.lactation)]

/-- What the rows are sorted by. -/
def key : List (Option Text) :=
  [some ruled.product.name, ruled.rule.species]

/-- The order of an answer: by the names of the products, then by species, the
unknown one first, and then by the ids of the rules. -/
def ListedBefore (first second : RuledProduct) : Prop :=
  compare first.product.name second.product.name = .lt ∨
    first.product.name = second.product.name ∧
      (compare first.rule.species second.rule.species = .lt ∨
        first.rule.species = second.rule.species ∧ first.rule.id < second.rule.id)

theorem compare_key (first second : RuledProduct) :
    compare first.key second.key =
      (compare first.product.name second.product.name).then (compare first.rule.species second.rule.species) := by
  rw [key, key, List.compare_eq_compareLex, List.compareLex_cons_cons, List.compareLex_cons_cons,
    List.compareLex_nil_nil, Ordering.then_eq]
  rfl

/-- Where sorting by keys leaves a choice, the lower id of the rules decides. -/
theorem listedBefore_of_inOrder {first second : RuledProduct} (before : Grouping.inOrder key first second = true)
    (stable : Grouping.inOrder key second first = true → first.rule.id < second.rule.id) :
    first.ListedBefore second := by
  rw [Grouping.inOrder, compare_key, bne_iff_ne] at before stable
  cases names : compare first.product.name second.product.name with
  | lt => exact Or.inl names
  | gt =>
      rw [names] at before
      exact absurd rfl before
  | eq =>
      have sameName := Std.compare_eq_iff_eq.mp names
      apply Or.inr
      refine ⟨sameName, ?_⟩
      rw [sameName, Std.compare_self] at before stable
      cases species : compare first.rule.species second.rule.species with
      | lt => exact Or.inl rfl
      | gt =>
          rw [species] at before
          exact absurd rfl before
      | eq =>
          have sameSpecies := Std.compare_eq_iff_eq.mp species
          rw [sameSpecies, Std.compare_self] at stable
          exact Or.inr ⟨sameSpecies, stable (by decide)⟩

end RuledProduct

/-! ## The join -/

namespace Catalog

variable {catalog : Catalog}

/-- The product is the one that the rule is tied to: no other one has this id. -/
def IsProductOf (catalog : Catalog) (product : Product) (rule : Restriction) : Prop :=
  ∀ other, other ∈ catalog.products ∧ other.id = rule.productId ↔ other = product

/-- The rules with their products, in the order of the rules. -/
def ruledProducts (catalog : Catalog) : List RuledProduct :=
  catalog.restrictions.filterMap fun rule => (catalog.productOf? rule).map fun product => { product, rule }

theorem ruleRecords_eq (catalog : Catalog) : catalog.ruleRecords = catalog.ruledProducts.map RuledProduct.record := by
  rw [ruleRecords, ruledProducts, List.map_filterMap]
  apply List.filterMap_congr
  intro rule _
  rw [Option.map_map]
  rfl

theorem mem_ruledProducts {ruled : RuledProduct} :
    ruled ∈ catalog.ruledProducts ↔
      ruled.rule ∈ catalog.restrictions ∧ catalog.productOf? ruled.rule = some ruled.product := by
  rw [ruledProducts, List.mem_filterMap]
  constructor
  · intro ⟨rule, member, found⟩
    rcases Option.map_eq_some_iff.mp found with ⟨product, tied, rfl⟩
    exact ⟨member, tied⟩
  · intro ⟨member, tied⟩
    refine ⟨ruled.rule, member, ?_⟩
    rw [tied]
    rfl

/-- Ids tell products apart. -/
theorem Kept.eq_of_id_eq (kept : catalog.Kept) {first second : Product} (inFirst : first ∈ catalog.products)
    (inSecond : second ∈ catalog.products) (same : first.id = second.id) : first = second := by
  have distinct : (catalog.products.map Product.id).Nodup := by
    rw [kept.ids]
    exact List.nodup_range'
  exact List.inj_on_of_nodup_map distinct inFirst inSecond same

theorem Kept.isProductOf (kept : catalog.Kept) {rule : Restriction} {product : Product}
    (found : catalog.productOf? rule = some product) : catalog.IsProductOf product rule := by
  have member := List.mem_of_find?_eq_some found
  have passed := List.find?_some found
  have tied : product.id = rule.productId := beq_iff_eq.mp passed
  intro other
  constructor
  · intro ⟨inside, same⟩
    exact kept.eq_of_id_eq inside member (same.trans tied.symm)
  · intro same
    rw [same]
    exact ⟨member, tied⟩

theorem Intact.exists_productOf? (intact : catalog.Intact) {rule : Restriction} (member : rule ∈ catalog.restrictions) :
    ∃ product, catalog.productOf? rule = some product := by
  rcases intact.ties rule member with ⟨product, inside, tied⟩
  apply Option.isSome_iff_exists.mp
  exact List.find?_isSome.mpr ⟨product, inside, beq_iff_eq.mpr tied⟩

/-- The join has every rule once. -/
theorem Intact.map_rule_ruledProducts (intact : catalog.Intact) :
    catalog.ruledProducts.map RuledProduct.rule = catalog.restrictions := by
  have alone : ∀ rule ∈ catalog.restrictions,
      ((catalog.productOf? rule).map fun product => RuledProduct.mk product rule).map RuledProduct.rule =
        some rule := by
    intro rule member
    rcases intact.exists_productOf? member with ⟨product, found⟩
    rw [found]
    rfl
  rw [ruledProducts, List.map_filterMap]
  exact (List.filterMap_congr alone).trans List.filterMap_some

/-! ## The rules that are asked for -/

/-- The active rules of products of this name, or all active rules where no
name is known. -/
def rulesAbout (catalog : Catalog) (name : Option Text) : List Restriction :=
  catalog.restrictions.filter fun rule => rule.isActive && (catalog.productOf? rule).any (named name)

/-- These rules with their products. -/
def ruledAbout (catalog : Catalog) (name : Option Text) : List RuledProduct :=
  catalog.ruledProducts.filter fun ruled => ruled.rule.isActive && named name ruled.product

theorem Intact.mem_rulesAbout (intact : catalog.Intact) (kept : catalog.Kept) {name : Option Text}
    (searchable : ∀ value ∈ name, value.Searchable) (rule : Restriction) :
    rule ∈ catalog.rulesAbout name ↔ rule ∈ catalog.restrictions ∧ rule.isActive = true ∧
      ∃ product ∈ catalog.products, product.id = rule.productId ∧ ∀ value ∈ name, product.name.Mentions value := by
  rw [rulesAbout, List.mem_filter, Bool.and_eq_true, Option.any_eq_true]
  apply and_congr_right
  intro member
  apply and_congr_right
  intro _
  constructor
  · intro ⟨product, found, accepted⟩
    rcases (kept.isProductOf found product).mpr rfl with ⟨inside, tied⟩
    exact ⟨product, inside, tied, (named_iff searchable).mp accepted⟩
  · intro ⟨product, inside, tied, mentioned⟩
    rcases intact.exists_productOf? member with ⟨other, found⟩
    rw [(kept.isProductOf found product).mp ⟨inside, tied⟩] at mentioned
    exact ⟨other, found, (named_iff searchable).mpr mentioned⟩

theorem Intact.map_rule_ruledAbout (intact : catalog.Intact) (name : Option Text) :
    (catalog.ruledAbout name).map RuledProduct.rule = catalog.rulesAbout name := by
  rw [rulesAbout, ← intact.map_rule_ruledProducts, List.filter_map, ruledAbout]
  apply congrArg
  apply List.filter_congr
  intro ruled member
  rw [Function.comp_apply, (mem_ruledProducts.mp member).2, Option.any_some]

/-- The answer has each of the rules once, with the product that it is tied to,
and its rows stand in order. -/
structure AnswersRules (catalog : Catalog) (rules : List Restriction) (answer : List RuledProduct) : Prop where
  rules : (answer.map RuledProduct.rule).Perm rules
  products : ∀ ruled ∈ answer, catalog.IsProductOf ruled.product ruled.rule
  ordered : answer.Pairwise RuledProduct.ListedBefore

/-- The pairs in the order of the answer. -/
def sortedAbout (catalog : Catalog) (name : Option Text) : List RuledProduct :=
  Sorting.sort (Grouping.inOrder RuledProduct.key) (catalog.ruledAbout name)

theorem Intact.answersRules (intact : catalog.Intact) (kept : catalog.Kept) (name : Option Text) :
    catalog.AnswersRules (catalog.rulesAbout name) (catalog.sortedAbout name) where
  rules := by
    rw [← intact.map_rule_ruledAbout]
    exact (Sorting.sort_perm _ _).map RuledProduct.rule
  products := by
    intro ruled member
    have joined := (List.mem_filter.mp (Sorting.mem_sort.mp member)).1
    exact kept.isProductOf (mem_ruledProducts.mp joined).2
  ordered := by
    -- The rules are joined in the order of their ids, and a stable sort keeps it for equal keys.
    have idOrder : (catalog.ruledAbout name).Pairwise fun first second => first.rule.id < second.rule.id := by
      have ascending : (catalog.rulesAbout name).Pairwise fun first second => first.id < second.id :=
        intact.idOrder.sublist List.filter_sublist
      rw [← intact.map_rule_ruledAbout, List.pairwise_map] at ascending
      exact ascending
    have total : ∀ first second : RuledProduct,
        (Grouping.inOrder RuledProduct.key first second || Grouping.inOrder RuledProduct.key second first) = true :=
      Grouping.inOrder_total
    have stable := Sorting.pairwise_mergeSort_stable Grouping.inOrder_trans total idOrder
    rw [sortedAbout, Sorting.sort_eq_mergeSort Grouping.inOrder_trans total]
    apply stable.imp
    intro first second ⟨before, decides⟩
    exact RuledProduct.listedBefore_of_inOrder before decides

end Catalog

/-! ## The plan -/

namespace Synthesis

theorem restrictionLookup_eq (entities : Entities) :
    restrictionLookup entities = {
      source := .catalogWithRules
      projection := [field .name, field .category, .plain (.rule .species), .plain (.rule .sex),
        .plain (.rule .leastAge), .plain (.rule .greatestAge), .plain (.rule .feedCap),
        .plain (.rule .concentrateCap), .plain (.rule .focus), .plain (.rule .lactation)]
      filters := (entities.product.map nameContains).toList ++ [.flag (.rule .active)]
      ordering := [(field .name, .ascending), (.plain (.rule .species), .ascending)]
      limit := some 20 } := by
  rw [restrictionLookup, Plan.filterIf_eq]
  rfl

theorem row_restrictionLookup (entities : Entities) (ruled : RuledProduct) :
    (restrictionLookup entities).row [ruled.record] = ruled.row := by
  rw [restrictionLookup_eq, RuledProduct.row]
  simp only [← json_ofText?]
  rfl

theorem orderGroups_restrictionLookup (entities : Entities) (first second : RuledProduct) :
    ((restrictionLookup entities).orderGroups [first.record] [second.record] != .gt) =
      Grouping.inOrder RuledProduct.key first second := by
  rw [restrictionLookup_eq]
  change (Cell.orderKeys (first.key.map Cell.ofText?) (second.key.map Cell.ofText?) != .gt) = _
  have sameLength : first.key.length = second.key.length := rfl
  rw [Cell.orderKeys_ofText? sameLength]
  rfl

theorem all_restrictionLookup (entities : Entities) (ruled : RuledProduct) :
    (restrictionLookup entities).filters.all (·.accepts ruled.record) =
      (ruled.rule.isActive && named entities.product ruled.product) := by
  have active : (Filter.flag (.rule .active)).accepts ruled.record = ruled.rule.isActive := by
    change (Cell.ofBool ruled.rule.isActive == .integer 1) = _
    cases ruled.rule.isActive <;> rfl
  have name : ∀ name : Option Text,
      (name.map nameContains).toList.all (·.accepts ruled.record) = named name ruled.product := by
    intro name
    cases name <;> rfl
  rw [restrictionLookup_eq, List.all_append, List.all_cons, List.all_nil, Bool.and_true, active, name, Bool.and_comm]

theorem decided_restrictionLookup {entities : Entities} (searchable : entities.criteria.Searchable) :
    ∀ filter ∈ (restrictionLookup entities).filters, filter.Decided := by
  rw [restrictionLookup_eq]
  intro filter member
  rcases List.mem_append.mp member with name | active
  · rw [Option.mem_toList] at name
    rcases Option.map_eq_some_iff.mp name with ⟨value, given, rfl⟩
    exact Filter.decided_contains (searchable.product value given).short
  · rw [List.mem_singleton.mp active]
    exact Filter.decided_flag _

variable {catalog : Catalog} {entities : Entities}

theorem eq_ruledAbout_of_kept {records : List Record} (found : (restrictionLookup entities).kept catalog = .ok records) :
    records = (catalog.ruledAbout entities.product).map RuledProduct.record := by
  have source : (restrictionLookup entities).records catalog = catalog.ruleRecords := by
    rw [restrictionLookup_eq]
    rfl
  rw [Plan.eq_filter_of_kept found, source, catalog.ruleRecords_eq, List.filter_map, Catalog.ruledAbout]
  apply congrArg
  apply List.filter_congr
  intro ruled _
  exact all_restrictionLookup entities ruled

theorem allRows_restrictionLookup (entities : Entities) (joined : List RuledProduct) :
    (restrictionLookup entities).allRows (joined.map RuledProduct.record) =
      (Sorting.sort (Grouping.inOrder RuledProduct.key) joined).map RuledProduct.row := by
  have ungrouped : (restrictionLookup entities).grouping = [] := by
    rw [restrictionLookup_eq]
  have sorted := Sorting.map_sort (Grouping.inOrder RuledProduct.key)
    (fun left right => (restrictionLookup entities).orderGroups left right != .gt)
    (fun ruled => [ruled.record]) joined
    fun first _ second _ => orderGroups_restrictionLookup entities first second
  rw [Plan.allRows, Plan.groups_of_grouping_eq_nil ungrouped, List.map_map]
  change List.map _ (Sorting.sort _ (joined.map fun ruled => [ruled.record])) = _
  rw [← sorted, List.map_map]
  apply List.map_congr_left
  intro ruled _
  exact row_restrictionLookup entities ruled

theorem rows_of_kept {records : List Record} (found : (restrictionLookup entities).kept catalog = .ok records) :
    (restrictionLookup entities).rows catalog =
        .ok (((catalog.sortedAbout entities.product).map RuledProduct.row).take 20) ∧
      Plan.rows { restrictionLookup entities with limit := none } catalog =
        .ok ((catalog.sortedAbout entities.product).map RuledProduct.row) := by
  have uncut : Plan.kept { restrictionLookup entities with limit := none } catalog = .ok records := by
    rw [← found]
    exact Plan.kept_congr rfl rfl catalog
  have rows := allRows_restrictionLookup entities (catalog.ruledAbout entities.product)
  rw [← eq_ruledAbout_of_kept found] at rows
  rw [Plan.rows, Plan.rows, found, uncut, Catalog.sortedAbout, ← rows]
  constructor
  · rw [restrictionLookup_eq]
    rfl
  · rfl

/-- A question for restrictions is answered with the first twenty rows of a list
that has each of the active rules about the product once, whether or not the
product itself is active.  The row of a rule shows the one product that the rule
is tied to, and the rows are ordered by the names of the products, by species
and by the ids of the rules.  Every product that a question can name is looked
for as a part of the names. -/
theorem rules_with_their_products {connection : Connection} (reachable : connection.Reachable) (entities : Entities) :
    (∀ rows, (restrictionLookup entities).rows connection.catalog = .ok rows →
      ∃ answer, connection.catalog.AnswersRules (connection.catalog.rulesAbout entities.product) answer ∧
        Plan.rows { restrictionLookup entities with limit := none } connection.catalog =
          .ok (answer.map RuledProduct.row) ∧
        rows = (answer.map RuledProduct.row).take 20) ∧
      (entities.criteria.Searchable →
        (∃ rows, (restrictionLookup entities).rows connection.catalog = .ok rows) ∧
        ∀ rule, rule ∈ connection.catalog.rulesAbout entities.product ↔
          rule ∈ connection.catalog.restrictions ∧ rule.isActive = true ∧
            ∃ product ∈ connection.catalog.products, product.id = rule.productId ∧
              ∀ value ∈ entities.product, product.name.Mentions value) ∧
      (∀ text, entities = Entities.ofText text → entities.criteria.Searchable) ∧
      connection.catalog.restrictions.Pairwise fun first second => first.id < second.id := by
  have kept := reachable.kept
  have intact := reachable.intact
  refine ⟨?_, ?_, ?_, intact.idOrder⟩
  · intro rows given
    cases found : (restrictionLookup entities).kept connection.catalog with
    | error error =>
        rw [Plan.rows, found] at given
        cases given
    | ok records =>
        rcases rows_of_kept found with ⟨cut, uncut⟩
        cases cut.symm.trans given
        exact ⟨_, intact.answersRules kept entities.product, uncut, rfl⟩
  · intro searchable
    have found := Plan.kept_eq_ok (decided_restrictionLookup searchable) connection.catalog
    exact ⟨⟨_, (rows_of_kept found).1⟩, intact.mem_rulesAbout kept searchable.product⟩
  · intro text same
    rw [same]
    exact Entities.searchable_ofText text

/-! Rules of a code that two products share, of which the first is not active,
beside a rule that is not active and one of another product. -/

def ureaText : Text :=
  "\x7b\"products\":[\x7b\"product_name\":\"Feed urea\",\"product_code\":\"U\",\"is_active\":false\x7d," ++
    "\x7b\"product_name\":\"Urea\",\"product_code\":\"U\"\x7d,\x7b\"product_name\":\"Salt\",\"product_code\":\"S\"\x7d]," ++
    "\"restrictions\":[\x7b\"product_code\":\"U\",\"species\":\"sheep\"\x7d,\x7b\"product_code\":\"U\"\x7d," ++
    "\x7b\"product_code\":\"U\",\"species\":\"cattle\",\"is_active\":false\x7d,\x7b\"product_code\":\"S\"\x7d]\x7d"

def urea : Fixture where
  products := [
    { name := "Feed urea", code := some "U", isActive := false }, { name := "Urea", code := some "U" },
    { name := "Salt", code := some "S" }]
  restrictions := [
    { code := "U", species := some "sheep" }, { code := "U" },
    { code := "U", species := some "cattle", isActive := false }, { code := "S" }]

def ureaConnection : Connection :=
  (Connection.add {} urea).2

/-- What a question for the rules of urea is about. -/
def aboutUrea : Entities where
  product := some "urea"
  region := none

example : (ureaConnection.catalog.sortedAbout aboutUrea.product).map
    (fun ruled => (ruled.product.id, ruled.rule.id)) = [(1, 2), (1, 1)] := by
  decide +kernel

theorem rules_with_their_products_urea :
    ureaConnection.Reachable ∧ aboutUrea.criteria.Searchable ∧
      (ureaConnection.catalog.rulesAbout aboutUrea.product).map Restriction.id = [1, 2] ∧
      ∃ answer, ureaConnection.catalog.AnswersRules (ureaConnection.catalog.rulesAbout aboutUrea.product) answer ∧
        answer.length = 2 ∧
        (restrictionLookup aboutUrea).rows ureaConnection.catalog = .ok ((answer.map RuledProduct.row).take 20) := by
  have read : Fixture.ofText? ureaText = some urea := by decide +kernel
  have reachable : ureaConnection.Reachable := .added read .opened
  have asked : Entities.ofText "rules for urea" = aboutUrea := by decide +kernel
  have ids : (ureaConnection.catalog.rulesAbout aboutUrea.product).map Restriction.id = [1, 2] := by decide +kernel
  rcases rules_with_their_products reachable aboutUrea with ⟨answered, given, named, _⟩
  have searchable := named "rules for urea" asked.symm
  rcases (given searchable).1 with ⟨rows, here⟩
  rcases answered rows here with ⟨answer, answers, _, same⟩
  have size := answers.rules.length_eq
  rw [List.length_map, ← List.length_map Restriction.id, ids] at size
  rw [same] at here
  exact ⟨reachable, searchable, ids, answer, answers, size, here⟩

end Synthesis
end FeedDesk
