import FeedDesk.Proofs.Catalog.Search
import FeedDesk.Proofs.Desk.Exchange
import FeedDesk.Proofs.Lexicon.Table
import FeedDesk.Proofs.Number.Least

namespace FeedDesk

open Lookup

/-!
# What a question for the cheapest offer is answered with

Such a question is answered with the active offers of the product and the
region that it names, as far as their suppliers are known, in the order in
which a search gives them.  Offers of unknown price stand first in this order.
The first row therefore carries the least price only where every offer has a
price: a single offer without one comes before the cheapest, and ten of them
leave no price in the answer at all.
-/

/-! ## The offers that are asked for -/

namespace Entities

def criteria (entities : Entities) : Criteria where
  product := entities.product
  region := entities.region

/-- Active, of a known supplier, and as the product and the region want it. -/
def wants (entities : Entities) (offer : Product) : Bool :=
  offer.isActive && decide (entities.criteria.Satisfied offer) && offer.supplier.isSome

/-- The offers in id order. -/
def offers (entities : Entities) (catalog : Catalog) : List Product :=
  catalog.products.filter entities.wants

/-- Every product that can be named is short and holds no null character. -/
theorem searchable_products :
    (∀ name ∈ Lexicon.productNames, '\x00' ∉ name ∧
        (Pattern.containing name).byteLength ≤ Like.patternLimit) ∧
      ∀ term ∈ Lexicon.productTerms, '\x00' ∉ term.english ∧
        (Pattern.containing term.english).byteLength ≤ Like.patternLimit := by
  decide +kernel

theorem searchable_ofText (text : Text) : (ofText text).criteria.Searchable where
  product := by
    intro value given
    change product? text = some value at given
    rw [product?] at given
    split at given
    · rename_i listed
      cases given
      obtain ⟨free, short⟩ := searchable_products.1 _ (List.mem_of_find?_eq_some listed)
      exact ⟨free, short⟩
    · obtain ⟨term, inTable, rfl⟩ := Vocabulary.exists_term_of_mentioned? given
      obtain ⟨free, short⟩ := searchable_products.2 term inTable
      exact ⟨free, short⟩
  supplier := fun _ impossible => (nomatch impossible)

end Entities

/-- The row of an offer in the answer. -/
def Product.offerRow (offer : Product) : Row := [
  ("product_name", .string offer.name), ("supplier", .ofText? offer.supplier),
  ("supplier_country", .ofText? offer.region), ("cost_per_kg", (Cell.ofReal? offer.cost).json),
  ("cost_currency", .ofText? offer.currency), ("supplier_email", .ofText? offer.email),
  ("supplier_phone", .ofText? offer.phone)]

/-! ## The plan -/

namespace Synthesis

theorem cheapest_eq (entities : Entities) :
    cheapest entities = {
      source := .catalog
      projection := [field .name, field .supplier, field .region, field .cost, field .currency,
        field .email, field .phone]
      filters := searchConditions entities.criteria ++ [hasSupplier]
      ordering := [(field .cost, .ascending)]
      limit := some 10 } := by
  simp only [cheapest, about, Plan.filterIf_eq, Plan.filter, Plan.orderBy, Plan.cutAt, searchConditions,
    Entities.criteria, Option.map_none, Option.toList_none, List.nil_append, List.append_assoc]

theorem byCost_cheapest (entities : Entities) : (cheapest entities).ByCost := by
  rw [cheapest_eq]
  exact ⟨rfl, rfl, rfl, rfl⟩

theorem row_cheapest (entities : Entities) (offer : Product) :
    (cheapest entities).row [{ product := offer }] = offer.offerRow := by
  rw [cheapest_eq, Product.offerRow]
  simp only [← json_ofText?]
  rfl

theorem all_cheapest {entities : Entities} (searchable : entities.criteria.Searchable) (offer : Product) :
    (cheapest entities).filters.all (·.accepts { product := offer }) = entities.wants offer := by
  rw [cheapest_eq, List.all_append, all_searchConditions searchable, Entities.wants]
  congr 1
  rw [List.all_cons, List.all_nil, Bool.and_true]
  exact accepts_notNull rfl

theorem decided_cheapest {entities : Entities} (searchable : entities.criteria.Searchable) :
    ∀ filter ∈ (cheapest entities).filters, filter.Decided := by
  rw [cheapest_eq]
  intro filter member
  rcases List.mem_append.mp member with condition | last
  · exact decided_searchConditions searchable filter condition
  · rw [List.mem_singleton.mp last]
    exact fun _ => rfl

end Synthesis

theorem Catalog.Kept.rows_cheapest {catalog : Catalog} (kept : catalog.Kept) {entities : Entities}
    (searchable : entities.criteria.Searchable) :
    (Synthesis.cheapest entities).rows catalog =
      .ok ((((entities.offers catalog).mergeSort Product.noDearer).take 10).map Product.offerRow) := by
  have row : (fun offer => (Synthesis.cheapest entities).row [{ product := offer }]) = Product.offerRow :=
    funext (Synthesis.row_cheapest entities)
  rw [(Synthesis.byCost_cheapest entities).rows_eq (Synthesis.decided_cheapest searchable)
    (Synthesis.all_cheapest searchable), ← kept.mergeSort_noDearer, row, Synthesis.cheapest_eq, Plan.cut,
    List.map_take]
  rfl

/-! ## Prices in the order of the answer -/

/-- The price that a row carries. -/
def Row.price? (row : Row) : Option Binary64 :=
  match row.lookup ("cost_per_kg" : Text) with
  | some (.real price) => some price
  | _ => none

/-- The least of the known prices. -/
structure IsLeastPrice (offers : List Product) (price : Binary64) : Prop where
  offered : ∃ offer ∈ offers, offer.cost = some price
  least : ∀ offer ∈ offers, ∀ cost ∈ offer.cost, price.le cost = true

/-- There is a first row, and it carries the least price of the offers. -/
def LeadsWithLeast (rows : List Row) (offers : List Product) : Prop :=
  ∃ row ∈ rows.head?, ∃ price ∈ Row.price? row, IsLeastPrice offers price

theorem Product.price?_offerRow {offer : Product}
    (finite : ∀ cost, offer.cost = some cost → cost.isFinite = true) :
    Row.price? offer.offerRow = offer.cost := by
  cases known : offer.cost with
  | none =>
      rw [offerRow, known]
      rfl
  | some cost =>
      rw [offerRow, known, Cell.ofReal?, Cell.json, finite cost known]
      rfl

theorem Product.noDearer_of_some {first second : Product} {price : Binary64} (known : first.cost = some price)
    (before : first.noDearer second = true) : ∃ cost, second.cost = some cost ∧ price.le cost = true := by
  rw [noDearer, known] at before
  cases other : second.cost with
  | none =>
      rw [other] at before
      cases before
  | some cost =>
      rw [other] at before
      exact ⟨cost, rfl, before⟩

section Order

variable {offers sorted : List Product}

/-- In the order of an answer the offers of unknown price stand before all others. -/
theorem eq_unpriced_append (order : sorted.Pairwise fun first second => first.noDearer second = true) :
    sorted = sorted.filter (·.cost.isNone) ++ sorted.filter (·.cost.isSome) := by
  induction sorted with
  | nil => rfl
  | cons first rest inductionHypothesis =>
      obtain ⟨before, restOrder⟩ := List.pairwise_cons.mp order
      cases known : first.cost with
      | none =>
          simp only [List.filter_cons, known, Option.isNone_none, Option.isSome_none, if_true,
            Bool.false_eq_true, if_false, List.cons_append]
          exact congrArg (first :: ·) (inductionHypothesis restOrder)
      | some price =>
          have priced : ∀ offer ∈ first :: rest, offer.cost.isSome = true := by
            intro offer member
            rcases List.mem_cons.mp member with rfl | later
            · rw [known]
              rfl
            · obtain ⟨cost, there, _⟩ := Product.noDearer_of_some known (before offer later)
              rw [there]
              rfl
          have nothing : (first :: rest).filter (·.cost.isNone) = [] := by
            refine List.filter_eq_nil_iff.mpr fun offer member unknown => ?_
            have here := priced offer member
            rw [Option.isSome_iff_ne_none] at here
            exact here (Option.isNone_iff_eq_none.mp unknown)
          rw [nothing, List.filter_eq_self.mpr priced]
          rfl

/-- The answer leads with the least price, as far as there is one, exactly if
either no offer has a price or all of them have one. -/
theorem leadsWithLeast_iff (same : sorted.Perm offers)
    (order : sorted.Pairwise fun first second => first.noDearer second = true)
    (finite : ∀ offer ∈ offers, ∀ cost, offer.cost = some cost → cost.isFinite = true) :
    ((∃ offer ∈ offers, offer.cost.isSome = true) →
        LeadsWithLeast ((sorted.take 10).map Product.offerRow) offers) ↔
      (∀ offer ∈ offers, offer.cost = none) ∨ ∀ offer ∈ offers, offer.cost.isSome = true := by
  cases sorted with
  | nil =>
      obtain rfl := same.nil_eq
      constructor
      · intro _
        exact Or.inl fun _ impossible => (nomatch impossible)
      · rintro _ ⟨_, impossible, _⟩
        cases impossible
  | cons first rest =>
      have before := (List.pairwise_cons.mp order).1
      have firstOffered : first ∈ offers := same.mem_iff.mp List.mem_cons_self
      have carried := Product.price?_offerRow (finite first firstOffered)
      constructor
      · intro leads
        by_cases known : ∃ offer ∈ offers, offer.cost.isSome = true
        · obtain ⟨row, here, price, carries, _⟩ := leads known
          cases here
          have firstPrice : first.cost = some price := carried.symm.trans carries
          refine Or.inr fun offer member => ?_
          rcases List.mem_cons.mp (same.mem_iff.mpr member) with rfl | later
          · rw [firstPrice]
            rfl
          · obtain ⟨cost, there, _⟩ := Product.noDearer_of_some firstPrice (before offer later)
            rw [there]
            rfl
        · refine Or.inl fun offer member => ?_
          exact Option.not_isSome_iff_eq_none.mp fun priced => known ⟨offer, member, priced⟩
      · rintro (unknown | priced) ⟨offer, member, here⟩
        · rw [unknown offer member] at here
          cases here
        · obtain ⟨price, known⟩ := Option.isSome_iff_exists.mp (priced first firstOffered)
          refine ⟨first.offerRow, rfl, price, carried.trans known, ⟨first, firstOffered, known⟩, ?_⟩
          intro other otherOffered cost otherKnown
          rcases List.mem_cons.mp (same.mem_iff.mpr otherOffered) with rfl | later
          · cases known.symm.trans otherKnown
            exact Binary64.le_self (finite _ otherOffered _ otherKnown)
          · obtain ⟨found, there, least⟩ := Product.noDearer_of_some known (before other later)
            cases there.symm.trans otherKnown
            exact least

theorem price?_eq_none_of_mem (same : sorted.Perm offers)
    (order : sorted.Pairwise fun first second => first.noDearer second = true)
    (many : 10 ≤ (offers.filter (·.cost.isNone)).length) :
    ∀ row ∈ (sorted.take 10).map Product.offerRow, Row.price? row = none := by
  intro row member
  obtain ⟨offer, inFront, rfl⟩ := List.mem_map.mp member
  rw [← (same.filter _).length_eq] at many
  rw [eq_unpriced_append order, List.take_append_of_le_length many] at inFront
  have unknown : offer.cost = none :=
    Option.isNone_iff_eq_none.mp (List.mem_filter.mp (List.mem_of_mem_take inFront)).2
  have finite : ∀ cost, offer.cost = some cost → cost.isFinite = true := by
    rw [unknown]
    exact fun _ impossible => (nomatch impossible)
  rw [Product.price?_offerRow finite, unknown]

end Order

/-! ## The answer -/

/-- The offers that an outcome is about, by the product and the region in the
English wording of the question. -/
def Outcome.offers (outcome : Outcome) (catalog : Catalog) : List Product :=
  (Entities.ofText outcome.normalized).offers catalog

/-- Where no suggestion of an oracle takes its place, the plan of a question
for the cheapest offer is carried out: the first ten of the offers in the order
of their costs are given.  If some offer has a price, the first row is that of
a cheapest one exactly if all offers have prices, and with ten offers of unknown
price no row carries any. -/
theorem Desk.cheapest_leads_iff {desk : Desk Connection} (onCatalogs : desk.store = Connection.store)
    {session : Session Connection} (reachable : session.state.Reachable) {question : Text}
    {forced : Option Language} (unadvised : desk.suggestion? session question forced = none)
    {outcome : Outcome} (answered : (desk.ask session question forced).1 = outcome)
    (cheapest : outcome.intent = .cheapest) :
    outcome.success = true ∧
      outcome.data =
        (((outcome.offers session.state.catalog).mergeSort Product.noDearer).take 10).map Product.offerRow ∧
      (((∃ offer ∈ outcome.offers session.state.catalog, offer.cost.isSome = true) →
          LeadsWithLeast outcome.data (outcome.offers session.state.catalog)) ↔
        (∀ offer ∈ outcome.offers session.state.catalog, offer.cost = none) ∨
          ∀ offer ∈ outcome.offers session.state.catalog, offer.cost.isSome = true) ∧
      (10 ≤ ((outcome.offers session.state.catalog).filter (·.cost.isNone)).length →
        ∀ row ∈ outcome.data, Row.price? row = none) := by
  subst answered
  have kept := reachable.kept
  rw [ask_intent] at cheapest
  have query : (desk.approach session question forced).query =
      .planned (Synthesis.cheapest (Entities.ofText (desk.wording session question))) := by
    have plan : (desk.synthesis session question).plan =
        Synthesis.cheapest (Entities.ofText (desk.wording session question)) := by
      change Synthesis.planFor (desk.synthesis session question).intent _ _ = _
      rw [cheapest]
      rfl
    rw [approach, unadvised, ← plan]
    rfl
  have rows : desk.answer session question forced =
      .ok (((((Entities.ofText (desk.wording session question)).offers session.state.catalog).mergeSort
        Product.noDearer).take 10).map Product.offerRow) := by
    rw [answer, query, onCatalogs]
    change Except.mapError _ ((Synthesis.cheapest _).rows session.state.catalog) = _
    rw [kept.rows_cheapest (Entities.searchable_ofText _)]
    rfl
  have order := (kept.pairwise_noDearer (Entities.ofText (desk.wording session question)).wants).imp
    fun ordered => ordered.1
  have finite : ∀ offer ∈ (Entities.ofText (desk.wording session question)).offers session.state.catalog,
      ∀ cost, offer.cost = some cost → cost.isFinite = true :=
    fun offer member => kept.costs offer (List.mem_filter.mp member).1
  rw [Outcome.offers, ask_wording, ask_outcome, rows]
  exact ⟨rfl, rfl, leadsWithLeast_iff (List.mergeSort_perm _ _) order finite,
    price?_eq_none_of_mem (List.mergeSort_perm _ _) order⟩

/-- Of the three offers of the search only one has a supplier. -/
def strawOutcome : Outcome :=
  (offersDesk.ask offersSession "cheapest wheat straw" none).1

theorem Desk.cheapest_leads_iff_straw :
    offersDesk.store = Connection.store ∧ offersSession.state.Reachable ∧
      offersDesk.suggestion? offersSession "cheapest wheat straw" none = none ∧
      strawOutcome.intent = .cheapest ∧
      LeadsWithLeast strawOutcome.data (strawOutcome.offers offersSession.state.catalog) := by
  have read : Fixture.ofText? offersText = some offers := by decide +kernel
  have reachable : offersSession.state.Reachable := .added read .opened
  have onCatalogs : offersDesk.store = Connection.store := rfl
  have answered : (offersDesk.ask offersSession "cheapest wheat straw" none).1 = strawOutcome := rfl
  have cheapest : strawOutcome.intent = .cheapest := by decide +kernel
  have priced : (∃ offer ∈ strawOutcome.offers offersSession.state.catalog, offer.cost.isSome = true) ∧
      ∀ offer ∈ strawOutcome.offers offersSession.state.catalog, offer.cost.isSome = true := by decide +kernel
  obtain ⟨_, _, leads, _⟩ := Desk.cheapest_leads_iff onCatalogs reachable rfl answered cheapest
  exact ⟨onCatalogs, reachable, rfl, cheapest, leads.mpr (Or.inr priced.2) priced.1⟩

/-! Three suppliers of one product, of whom the first names no price.  The
answer begins with this supplier, and the cheapest offer comes second. -/

def barleyText : Text :=
  "\x7b\"products\":[\x7b\"product_name\":\"Barley\",\"supplier\":\"A\"\x7d," ++
    "\x7b\"product_name\":\"Barley\",\"supplier\":\"B\",\"cost_per_kg\":2.5\x7d," ++
    "\x7b\"product_name\":\"Barley\",\"supplier\":\"C\",\"cost_per_kg\":1.5\x7d]\x7d"

def barley : Fixture where
  products := [
    { name := "Barley", supplier := some "A" },
    { name := "Barley", cost := some (.ofDecimal false 25 (-1)), supplier := some "B" },
    { name := "Barley", cost := some (.ofDecimal false 15 (-1)), supplier := some "C" }]

def barleySession : Session Connection where
  state := (Connection.add {} barley).2

def barleyOutcome : Outcome :=
  (offersDesk.ask barleySession "cheapest barley" none).1

theorem Desk.cheapest_behind_unpriced :
    offersDesk.store = Connection.store ∧ offersDesk.oracle.isNone = true ∧ barleySession.state.Reachable ∧
      barleyOutcome.intent = .cheapest ∧
      (∃ offer ∈ barleyOutcome.offers barleySession.state.catalog, offer.cost.isSome = true) ∧
      ¬LeadsWithLeast barleyOutcome.data (barleyOutcome.offers barleySession.state.catalog) := by
  have read : Fixture.ofText? barleyText = some barley := by decide +kernel
  have known : barleyOutcome.intent = .cheapest ∧ barleyOutcome.data.head?.bind Row.price? = none ∧
      ∃ offer ∈ barleyOutcome.offers barleySession.state.catalog, offer.cost.isSome = true := by
    decide +kernel
  obtain ⟨cheapest, unpriced, offered⟩ := known
  refine ⟨rfl, rfl, .added read .opened, cheapest, offered, ?_⟩
  rintro ⟨row, first, price, carries, _⟩
  rw [Option.mem_def.mp first, Option.bind_some, Option.mem_def.mp carries] at unpriced
  cases unpriced

end FeedDesk
