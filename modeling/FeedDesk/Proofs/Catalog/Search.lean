import FeedDesk.Graph.Field
import FeedDesk.Proofs.Catalog.CostOrder
import FeedDesk.Proofs.Store.Reachable

namespace FeedDesk

/-!
# What a search for products gives

The answer to a search is described without plans and conditions: the active
products that satisfy every given criterion, cheapest first and those of
unknown cost before all others, as many of them as are asked for.  Products of
one cost keep the order of their ids.  The description is then proved of the
search at a desk and of the search field of the graph interface, whose limit
may be negative.
-/

/-! ## The products that are asked for -/

/-- The text holds the value, up to its first null character and without regard
to the case of basic letters. -/
def Text.Mentions (text value : Text) : Prop :=
  value.lower <:+: (Like.untilNull text).asciiLower

instance (text value : Text) : Decidable (text.Mentions value) :=
  inferInstanceAs (Decidable (value.lower <:+: (Like.untilNull text).asciiLower))

/-- The product is as every given criterion wants it. -/
structure Criteria.Satisfied (criteria : Criteria) (offer : Product) : Prop where
  product : ∀ value ∈ criteria.product, offer.name.Mentions value
  category : ∀ value ∈ criteria.category, offer.category = some value
  region : ∀ value ∈ criteria.region, offer.region = some value
  supplier : ∀ value ∈ criteria.supplier, ∃ name ∈ offer.supplier, name.Mentions value
  leastCost : ∀ bound ∈ criteria.leastCost, ∃ cost ∈ offer.cost, bound.le cost = true
  greatestCost : ∀ bound ∈ criteria.greatestCost, ∃ cost ∈ offer.cost, cost.le bound = true

instance (criteria : Criteria) (offer : Product) : Decidable (criteria.Satisfied offer) :=
  decidable_of_iff
    ((∀ value ∈ criteria.product, offer.name.Mentions value) ∧
      (∀ value ∈ criteria.category, offer.category = some value) ∧
      (∀ value ∈ criteria.region, offer.region = some value) ∧
      (∀ value ∈ criteria.supplier, ∃ name ∈ offer.supplier, name.Mentions value) ∧
      (∀ bound ∈ criteria.leastCost, ∃ cost ∈ offer.cost, bound.le cost = true) ∧
      ∀ bound ∈ criteria.greatestCost, ∃ cost ∈ offer.cost, cost.le bound = true)
    ⟨fun ⟨product, category, region, supplier, least, greatest⟩ =>
        ⟨product, category, region, supplier, least, greatest⟩,
      fun ⟨product, category, region, supplier, least, greatest⟩ =>
        ⟨product, category, region, supplier, least, greatest⟩⟩

/-- The order of an answer: unknown costs, then costs from the lowest. -/
def Product.noDearer (first second : Product) : Bool :=
  match first.cost, second.cost with
  | none, _ => true
  | some _, none => false
  | some cost, some other => cost.le other

/-- The active products that satisfy the criteria, in id order. -/
def Criteria.wanted (criteria : Criteria) (catalog : Catalog) : List Product :=
  catalog.products.filter fun offer => offer.isActive && decide (criteria.Satisfied offer)

/-- They are given in the order of their costs. -/
def Criteria.found (criteria : Criteria) (catalog : Catalog) : List Product :=
  (criteria.wanted catalog).mergeSort Product.noDearer

/-- The row of a product in an answer. -/
def Product.row (offer : Product) : Row := [
  ("product_name", .string offer.name), ("product_code", .ofText? offer.code),
  ("type", .ofText? offer.category), ("supplier", .ofText? offer.supplier),
  ("supplier_country", .ofText? offer.region),
  ("cost_per_kg", match offer.cost with
    | some cost => if cost.isFinite then .real cost else .null
    | none => .null),
  ("cost_currency", .ofText? offer.currency), ("supplier_email", .ofText? offer.email),
  ("supplier_phone", .ofText? offer.phone)]

/-- The value can be looked for: it holds no null character and its pattern is
not too long. -/
structure Text.Searchable (value : Text) : Prop where
  free : '\x00' ∉ value
  short : (Pattern.containing value).byteLength ≤ Like.patternLimit

structure Criteria.Searchable (criteria : Criteria) : Prop where
  product : ∀ value ∈ criteria.product, value.Searchable
  supplier : ∀ value ∈ criteria.supplier, value.Searchable

/-! ## The plan of a search -/

namespace Lookup

/-- The conditions of a search, each there only if its criterion is given. -/
def searchConditions (criteria : Criteria) : List (Filter Column) :=
  (criteria.product.map nameContains).toList ++
    ((criteria.category.map (Filter.equals (.product .category))).toList ++
      ((criteria.region.map regionIs).toList ++
        ((criteria.supplier.map (Filter.contains (.product .supplier))).toList ++
          ((criteria.leastCost.map (Filter.atLeast (.product .cost))).toList ++
            ((criteria.greatestCost.map (Filter.atMost (.product .cost))).toList ++ [isActive])))))

theorem productSearch_eq (criteria : Criteria) :
    productSearch criteria = {
      source := .catalog
      projection := [field .name, field .code, field .category, field .supplier, field .region,
        field .cost, field .currency, field .email, field .phone]
      filters := searchConditions criteria
      ordering := [(field .cost, .ascending)]
      limit := some criteria.cap } := by
  simp only [productSearch, Plan.filterIf_eq, Plan.filter, Plan.orderBy, Plan.cutAt, searchConditions,
    List.nil_append, List.append_assoc]

theorem mem_searchConditions {criteria : Criteria} {filter : Filter Column}
    (member : filter ∈ searchConditions criteria) :
    (∃ value ∈ criteria.product, filter = .contains (.product .name) value) ∨
      (∃ value ∈ criteria.supplier, filter = .contains (.product .supplier) value) ∨ filter.Decided := by
  have given : ∀ {α : Type} {value : Option α} {condition : α → Filter Column},
      filter ∈ (value.map condition).toList → ∃ inside ∈ value, filter = condition inside := by
    intro α value condition listed
    rw [Option.mem_toList] at listed
    obtain ⟨inside, here, rfl⟩ := Option.map_eq_some_iff.mp listed
    exact ⟨inside, here, rfl⟩
  simp only [searchConditions, List.mem_append, List.mem_singleton] at member
  rcases member with name | category | region | supplier | least | greatest | active
  · exact Or.inl (given name)
  · obtain ⟨value, _, rfl⟩ := given category
    exact Or.inr (Or.inr (Filter.decided_equals _ value))
  · obtain ⟨value, _, rfl⟩ := given region
    exact Or.inr (Or.inr (Filter.decided_equals _ value))
  · exact Or.inr (Or.inl (given supplier))
  · obtain ⟨value, _, rfl⟩ := given least
    exact Or.inr (Or.inr (Filter.decided_atLeast _ value))
  · obtain ⟨value, _, rfl⟩ := given greatest
    exact Or.inr (Or.inr (Filter.decided_atMost _ value))
  · rw [active]
    exact Or.inr (Or.inr (Filter.decided_flag _))

theorem decided_searchConditions {criteria : Criteria} (searchable : criteria.Searchable) :
    ∀ filter ∈ searchConditions criteria, filter.Decided := by
  intro filter member
  rcases mem_searchConditions member with ⟨value, given, rfl⟩ | ⟨value, given, rfl⟩ | decided
  · exact Filter.decided_contains (searchable.product value given).short
  · exact Filter.decided_contains (searchable.supplier value given).short
  · exact decided

/-! ## What the conditions accept -/

variable {offer : Product}

theorem accepts_name {value : Text} (searchable : value.Searchable) :
    (nameContains value).accepts { product := offer } = true ↔ offer.name.Mentions value := by
  have known : Record.cell { product := offer } (.product .name) = .text offer.name := rfl
  have tested := Filter.holds_contains_of_text searchable.free searchable.short known
  rw [nameContains, Filter.accepts_of_holds tested, Text.contains_iff]
  rfl

theorem accepts_supplier {value : Text} (searchable : value.Searchable) :
    (Filter.contains (.product .supplier) value).accepts { product := offer } = true ↔
      ∃ name ∈ offer.supplier, name.Mentions value := by
  cases known : offer.supplier with
  | none =>
      have unknown : Record.cell { product := offer } (.product .supplier) = .null :=
        congrArg Cell.ofText? known
      have other : ∀ text, Record.cell { product := offer } (.product .supplier) ≠ .text text := by
        intro text same
        rw [unknown] at same
        cases same
      have tested := Filter.holds_contains_of_not_text searchable.short other
      rw [Filter.accepts_of_holds tested]
      constructor
      · intro impossible
        cases impossible
      · rintro ⟨_, impossible, _⟩
        cases impossible
  | some name =>
      have cell : Record.cell { product := offer } (.product .supplier) = .text name :=
        congrArg Cell.ofText? known
      have tested := Filter.holds_contains_of_text searchable.free searchable.short cell
      rw [Filter.accepts_of_holds tested, Text.contains_iff]
      constructor
      · intro inside
        exact ⟨name, rfl, inside⟩
      · rintro ⟨_, same, inside⟩
        cases same
        exact inside

/-- A column that may be unknown equals a text. -/
theorem ofText?_beq_iff {known : Option Text} {value : Text} :
    (Cell.ofText? known == .text value) = true ↔ known = some value := by
  rw [beq_iff_eq]
  cases known with
  | none =>
      constructor
      · intro impossible
        cases impossible
      · intro impossible
        cases impossible
  | some text =>
      constructor
      · intro same
        exact congrArg some (Cell.text.inj same)
      · intro same
        exact congrArg Cell.text (Option.some.inj same)

theorem real_cost_iff (test : Binary64 → Bool) :
    (match Cell.ofReal? offer.cost with
      | .real cost => test cost
      | _ => false) = true ↔ ∃ cost ∈ offer.cost, test cost = true := by
  cases offer.cost with
  | none =>
      constructor
      · intro impossible
        cases impossible
      · rintro ⟨_, impossible, _⟩
        cases impossible
  | some cost =>
      constructor
      · intro holds
        exact ⟨cost, rfl, holds⟩
      · rintro ⟨_, same, holds⟩
        cases same
        exact holds

theorem accepts_atLeast {bound : Binary64} :
    (Filter.atLeast (.product .cost) bound).accepts { product := offer } = true ↔
      ∃ cost ∈ offer.cost, bound.le cost = true :=
  real_cost_iff fun cost => bound.le cost

theorem accepts_atMost {bound : Binary64} :
    (Filter.atMost (.product .cost) bound).accepts { product := offer } = true ↔
      ∃ cost ∈ offer.cost, cost.le bound = true :=
  real_cost_iff fun cost => cost.le bound

theorem accepts_isActive : isActive.accepts { product := offer } = offer.isActive := by
  change (Cell.ofBool offer.isActive == .integer 1) = offer.isActive
  cases offer.isActive <;> rfl

/-- A column that may be unknown is known. -/
theorem accepts_notNull {column : ProductColumn} {value : Option Text} (cell : offer.cell column = .ofText? value) :
    (Filter.notNull (.product column)).accepts { product := offer } = value.isSome := by
  change (!(offer.cell column).isNull) = _
  rw [cell]
  cases value <;> rfl

theorem all_given_iff {α : Type} {value : Option α} {condition : α → Filter Column} {record : Record} :
    (value.map condition).toList.all (·.accepts record) = true ↔
      ∀ inside ∈ value, (condition inside).accepts record = true := by
  cases value with
  | none => exact ⟨fun _ _ impossible => (nomatch impossible), fun _ => rfl⟩
  | some inside =>
      simp only [Option.map_some, Option.toList_some, List.all_cons, List.all_nil, Bool.and_true,
        Option.mem_some, forall_eq']

/-- A region that may be asked for can always be tested. -/
theorem decided_regionIs {region : Option Text} {filter : Filter Column}
    (member : filter ∈ (region.map regionIs).toList) : filter.Decided := by
  rw [Option.mem_toList] at member
  obtain ⟨place, _, rfl⟩ := Option.map_eq_some_iff.mp member
  exact Filter.decided_equals _ place

theorem all_regionIs (region : Option Text) (offer : Product) :
    (region.map regionIs).toList.all (·.accepts { product := offer }) =
      region.all fun place => decide (offer.region = some place) := by
  rw [Bool.eq_iff_iff, all_given_iff, Option.all_eq_true]
  refine forall_congr' fun place => imp_congr_right fun _ => ?_
  rw [decide_eq_true_iff]
  exact ofText?_beq_iff

/-- The name, where one is asked for, accepts the product. -/
def named (name : Option Text) (offer : Product) : Bool :=
  (name.map nameContains).toList.all (·.accepts { product := offer })

theorem named_iff {name : Option Text} (searchable : ∀ value ∈ name, value.Searchable) :
    named name offer = true ↔ ∀ value ∈ name, offer.name.Mentions value := by
  rw [named, all_given_iff]
  constructor
  · intro accepted value given
    exact (accepts_name (searchable value given)).mp (accepted value given)
  · intro mentioned value given
    exact (accepts_name (searchable value given)).mpr (mentioned value given)

theorem all_searchConditions {criteria : Criteria} (searchable : criteria.Searchable) (offer : Product) :
    (searchConditions criteria).all (·.accepts { product := offer }) =
      (offer.isActive && decide (criteria.Satisfied offer)) := by
  rw [Bool.eq_iff_iff, Bool.and_eq_true, decide_eq_true_eq]
  simp only [searchConditions, List.all_append, Bool.and_eq_true, all_given_iff, List.all_cons, List.all_nil,
    Bool.and_true, accepts_isActive]
  constructor
  · rintro ⟨product, category, region, supplier, least, greatest, active⟩
    exact ⟨active, {
      product := fun value given => (accepts_name (searchable.product value given)).mp (product value given)
      category := fun value given => ofText?_beq_iff.mp (category value given)
      region := fun value given => ofText?_beq_iff.mp (region value given)
      supplier := fun value given =>
        (accepts_supplier (searchable.supplier value given)).mp (supplier value given)
      leastCost := fun bound given => accepts_atLeast.mp (least bound given)
      greatestCost := fun bound given => accepts_atMost.mp (greatest bound given) }⟩
  · rintro ⟨active, satisfied⟩
    exact ⟨
      fun value given => (accepts_name (searchable.product value given)).mpr (satisfied.product value given),
      fun value given => ofText?_beq_iff.mpr (satisfied.category value given),
      fun value given => ofText?_beq_iff.mpr (satisfied.region value given),
      fun value given =>
        (accepts_supplier (searchable.supplier value given)).mpr (satisfied.supplier value given),
      fun bound given => accepts_atLeast.mpr (satisfied.leastCost bound given),
      fun bound given => accepts_atMost.mpr (satisfied.greatestCost bound given),
      active⟩

/-! ## The rows -/

theorem byCost_productSearch (criteria : Criteria) : (productSearch criteria).ByCost := by
  rw [productSearch_eq]
  exact ⟨rfl, rfl, rfl, rfl⟩

theorem json_ofText? (value : Option Text) : (Cell.ofText? value).json = .ofText? value := by
  cases value <;> rfl

theorem row_productSearch (criteria : Criteria) (offer : Product) :
    (productSearch criteria).row [{ product := offer }] = offer.row := by
  have cost : (Cell.ofReal? offer.cost).json = match offer.cost with
      | some cost => if cost.isFinite then .real cost else .null
      | none => .null := by
    cases offer.cost <;> rfl
  rw [productSearch_eq, Product.row, ← cost]
  simp only [← json_ofText?]
  rfl

end Lookup

/-! ## Searching -/

/-- The order of an answer can be told from the positions of the costs. -/
theorem Product.noDearer_eq {first second : Product}
    (firstNumber : ∀ cost, first.cost = some cost → cost.isNaN = false)
    (secondNumber : ∀ cost, second.cost = some cost → cost.isNaN = false) :
    first.noDearer second = Cell.realsInOrder first.cost second.cost := by
  rw [noDearer]
  cases here : first.cost with
  | none => rfl
  | some cost =>
      cases there : second.cost with
      | none => rfl
      | some other =>
          dsimp only
          rw [Binary64.le, firstNumber cost here, secondNumber other there]
          rfl

namespace Catalog.Kept

variable {catalog : Catalog}

theorem noDearer_eq (kept : catalog.Kept) {first second : Product} (firstKept : first ∈ catalog.products)
    (secondKept : second ∈ catalog.products) :
    Cell.realsInOrder first.cost second.cost = first.noDearer second := by
  have number : ∀ offer ∈ catalog.products, ∀ cost, offer.cost = some cost → cost.isNaN = false :=
    fun offer member cost known => Binary64.isNaN_of_isFinite (kept.costs offer member cost known)
  exact (Product.noDearer_eq (number first firstKept) (number second secondKept)).symm

theorem mergeSort_noDearer (kept : catalog.Kept) (wanted : Product → Bool) :
    (catalog.products.filter wanted).mergeSort Product.noDearer =
      (catalog.products.filter wanted).mergeSort fun left right => Cell.realsInOrder left.cost right.cost := by
  have same := List.map_mergeSort (f := id) (l := catalog.products.filter wanted)
    (r := fun left right : Product => Cell.realsInOrder left.cost right.cost) (s := Product.noDearer)
    fun first firstWanted second secondWanted =>
      kept.noDearer_eq (List.mem_filter.mp firstWanted).1 (List.mem_filter.mp secondWanted).1
  rw [List.map_id, List.map_id] at same
  exact same.symm

/-- Cheaper products come first, and of two at one cost the one of lower id. -/
theorem pairwise_noDearer (kept : catalog.Kept) (wanted : Product → Bool) :
    ((catalog.products.filter wanted).mergeSort Product.noDearer).Pairwise fun first second =>
      first.noDearer second ∧ (second.noDearer first → first.id < second.id) := by
  have idOrder : (catalog.products.filter wanted).Pairwise fun first second => first.id < second.id :=
    kept.idOrder.sublist List.filter_sublist
  have stable : ((catalog.products.filter wanted).mergeSort fun left right =>
      Cell.realsInOrder left.cost right.cost).Pairwise fun first second =>
        Cell.realsInOrder first.cost second.cost ∧
          (Cell.realsInOrder second.cost first.cost → first.id < second.id) :=
    Sorting.pairwise_mergeSort_stable
      (fun first second third => Cell.realsInOrder_trans first.cost second.cost third.cost)
      (fun first second => Cell.realsInOrder_total first.cost second.cost) idOrder
  rw [kept.mergeSort_noDearer]
  refine stable.imp_of_mem fun {first second} inFirst inSecond ordered => ?_
  have firstKept := (List.mem_filter.mp (List.mem_mergeSort.mp inFirst)).1
  have secondKept := (List.mem_filter.mp (List.mem_mergeSort.mp inSecond)).1
  rwa [kept.noDearer_eq firstKept secondKept, kept.noDearer_eq secondKept firstKept] at ordered

/-- The rows that the plan of a search gives. -/
theorem rows_productSearch (kept : catalog.Kept) {criteria : Criteria} (searchable : criteria.Searchable) :
    (Lookup.productSearch criteria).rows catalog =
      .ok (((criteria.found catalog).take criteria.cap).map Product.row) := by
  have decided : ∀ filter ∈ (Lookup.productSearch criteria).filters, filter.Decided := by
    rw [Lookup.productSearch_eq]
    exact Lookup.decided_searchConditions searchable
  have accepted : ∀ offer, (Lookup.productSearch criteria).filters.all (·.accepts { product := offer }) =
      (offer.isActive && decide (criteria.Satisfied offer)) := by
    rw [Lookup.productSearch_eq]
    exact Lookup.all_searchConditions searchable
  have row : (fun offer => (Lookup.productSearch criteria).row [{ product := offer }]) = Product.row :=
    funext (Lookup.row_productSearch criteria)
  rw [(Lookup.byCost_productSearch criteria).rows_eq decided accepted, ← kept.mergeSort_noDearer, row,
    Lookup.productSearch_eq, Plan.cut, List.map_take]
  rfl

end Catalog.Kept

/-- The criteria of a filter, its limit aside. -/
def ProductFilter.asked (filter : ProductFilter) : Criteria where
  product := filter.product
  category := filter.productType
  region := filter.country
  supplier := filter.supplier
  leastCost := filter.minCost
  greatestCost := filter.maxCost

def offersText : Text :=
  "\x7b\"products\":[\x7b\"product_name\":\"Wheat Straw\",\"cost_per_kg\":1.5,\"supplier\":\"50% Feeds\"\x7d," ++
    "\x7b\"product_name\":\"straw\",\"is_active\":false\x7d,\x7b\"product_name\":\"Oat straw\"\x7d]\x7d"

def offers : Fixture where
  products := [
    { name := "Wheat Straw", cost := some (.ofDecimal false 15 (-1)), supplier := some "50% Feeds" },
    { name := "straw", isActive := false },
    { name := "Oat straw" }]

def offersDesk : Desk Connection where
  store := Connection.store

def offersSession : Session Connection where
  state := (Connection.add {} offers).2

end FeedDesk
