import FeedDesk.Proofs.Catalog.Evaluation
import FeedDesk.Proofs.Desk.Exchange
import FeedDesk.Proofs.Store.SmallEngine

namespace FeedDesk

open Sql

/-!
# Plans by their statements

A plan is written as a statement with values bound to it, and it means rows over
a catalog.  That an engine answers the statement with just these rows is an
assumption about the engine, and it has its name here.  It is made of one plan
at one state, so it can be made of an engine that knows a part of the language
only.  Under it a desk that puts statements to an engine answers as a desk does
that evaluates plans over the tables: what is known of the latter holds of the
former.
-/

namespace Engine

variable {State : Type} {engine : Engine State} {catalog : State → Catalog} {plan : CatalogPlan}

/-- The statement of the plan is answered with the rows of the plan, and it
leaves the engine as it was. -/
def Evaluates (engine : Engine State) (catalog : State → Catalog) (state : State) (plan : CatalogPlan) : Prop :=
  engine.execute state plan.written.statement = ((plan.rows (catalog state)).mapError QueryError.chain, state)

theorem Evaluates.rows_store {state : State} (evaluates : engine.Evaluates catalog state plan) :
    engine.store.rows state (.planned plan) =
      ((Connection.store.rows { catalog := catalog state } (.planned plan)).1, state) := by
  have executed : engine.execute state (Query.planned plan).statement = _ := evaluates
  unfold store
  dsimp only
  rw [executed]
  change (Except.mapError _ ((plan.rows (catalog state)).mapError _), state) =
    ((plan.rows (catalog state)).mapError _, state)
  cases plan.rows (catalog state) <;> rfl

end Engine

/-- The session at a desk over the tables of its state. -/
def Session.overTables {State : Type} (session : Session State) (catalog : State → Catalog) : Session Connection where
  state := { catalog := catalog session.state }
  translated := session.translated
  prompts := session.prompts

namespace Desk

variable {State : Type} {engine : Engine State} {catalog : State → Catalog} {desk : Desk State}
  {session : Session State}

/-- The desk with the same services over catalogs. -/
def overTables (desk : Desk State) : Desk Connection where
  store := Connection.store
  identifier := desk.identifier
  translator := desk.translator
  oracle := desk.oracle

theorem fetch_of_evaluates (onEngine : desk.store = engine.store) {plan : CatalogPlan}
    (evaluates : engine.Evaluates catalog session.state plan) :
    desk.fetch session plan = ((desk.overTables.fetch (session.overTables catalog) plan).1, session) := by
  rw [fetch, rows, onEngine, evaluates.rows_store]
  rfl

/-- An answer that the desk finds by itself is the one that it would find over
the tables. -/
theorem ask_of_evaluates (onEngine : desk.store = engine.store) {question : Text} {forced : Option Language}
    (unadvised : desk.suggestion? session question forced = none)
    (evaluates : engine.Evaluates catalog session.state (desk.synthesis session question).plan) :
    (desk.ask session question forced).1 =
        (desk.overTables.ask (session.overTables catalog) question forced).1 ∧
      (desk.ask session question forced).2.state = session.state := by
  have planned : desk.approach session question forced = .ofSynthesis (desk.synthesis session question) := by
    rw [approach, unadvised]
    rfl
  have answered : desk.store.rows session.state (desk.approach session question forced).query =
      ((Connection.store.rows { catalog := catalog session.state }
        (desk.approach session question forced).query).1, session.state) := by
    rw [onEngine, planned]
    exact evaluates.rows_store
  rw [ask_outcome, ask_outcome, ask_state, answer, answered]
  exact ⟨rfl, rfl⟩

end Desk

/-! ## A plan that the engine of connections evaluates -/

namespace Connection

/-- The priced products of a supplier. -/
def pricedOffers (supplier : Text) : CatalogPlan where
  source := .catalog
  projection := [.plain (.product .name), .plain (.product .cost)]
  filters := [.equals (.product .supplier) supplier, .notNull (.product .cost)]

/-- What is read from the statement of the plan. -/
def offersSelection : Selection where
  distinct := false
  items := [⟨.column "product_name" 7, none⟩, ⟨.column "cost_per_kg" 21, none⟩]
  table := some "feed_products_sample"
  conditions := [.equal (.column "supplier" 65) (.placeholder 1), .known (.column "cost_per_kg" 85)]

/-- The text of the statement, which does not depend on the supplier. -/
def offersSql : Text :=
  (pricedOffers []).written.statement.sql

theorem statement_pricedOffers (supplier : Text) :
    (pricedOffers supplier).written.statement = ⟨offersSql, [.text supplier]⟩ :=
  rfl

theorem read_offersSql : Command.ofText offersSql = .ok (.select offersSelection) := by
  have read : (Command.ofText offersSql).toOption = some (.select offersSelection) := by decide +kernel
  cases found : Command.ofText offersSql with
  | error error =>
      rw [found] at read
      cases read
  | ok command =>
      rw [found] at read
      cases read
      rfl

def isPriced (supplier : Text) (offer : Product) : Bool :=
  offer.supplier == some supplier && offer.cost.isSome

def pricedRow (offer : Product) : Row :=
  [("product_name", .string offer.name), ("cost_per_kg", (Cell.ofReal? offer.cost).json)]

/-- The conditions are those of the plan. -/
theorem all_holds_offersSelection (supplier : Text) (offer : Product) :
    (offersSelection.conditions.all fun condition => condition.holds [.text supplier] (productRow offer)) =
      isPriced supplier offer := by
  obtain ⟨id, name, code, tradeName, category, cost, currency, seller⟩ := offer
  cases seller with
  | none => rfl
  | some seller =>
      have same : (Datum.cell (.text seller) == .cell (.text supplier)) = (some seller == some supplier) := by
        rw [Bool.eq_iff_iff, beq_iff_eq, beq_iff_eq, Datum.cell.injEq, Cell.text.injEq, Option.some.injEq]
      cases cost with
      | none => exact congrArg (· && false) same
      | some cost => exact congrArg (· && true) same

theorem rows_offersSelection (catalog : Catalog) (supplier : Text) :
    offersSelection.rows ⟨offersSql, [.text supplier]⟩ catalog =
      .ok ((catalog.products.filter (isPriced supplier)).map pricedRow) := by
  have table : offersSelection.table? = .ok (some .products) := rfl
  have known : offersSelection.strangeColumn? (some .products) = none := by decide +kernel
  have places : offersSelection.placeCount = 1 := rfl
  rw [Selection.rows, table]
  dsimp only
  rw [known]
  dsimp only
  have whole : ¬offersSelection.distinct = true := Bool.false_ne_true
  have conditions : (fun row => offersSelection.conditions.all (Condition.holds [.text supplier] row)) ∘ productRow =
      isPriced supplier := funext (all_holds_offersSelection supplier)
  rw [places, if_neg (fun different => different rfl), if_neg whole, Table.rows, List.filter_map, conditions,
    List.map_map, List.map_map]
  rfl

theorem all_accepts_pricedOffers (supplier : Text) (offer : Product) :
    ((pricedOffers supplier).filters.all fun filter => filter.accepts { product := offer }) =
      isPriced supplier offer := by
  obtain ⟨id, name, code, tradeName, category, cost, currency, seller⟩ := offer
  cases seller with
  | none => rfl
  | some seller =>
      have same : (Cell.text seller == .text supplier) = (some seller == some supplier) := by
        rw [Bool.eq_iff_iff, beq_iff_eq, beq_iff_eq, Cell.text.injEq, Option.some.injEq]
      cases cost with
      | none => exact congrArg (· && false) same
      | some cost => exact congrArg (· && true) same

theorem rows_pricedOffers (catalog : Catalog) (supplier : Text) :
    (pricedOffers supplier).rows catalog =
      .ok ((catalog.products.filter (isPriced supplier)).map pricedRow) := by
  have decided : ∀ filter ∈ (pricedOffers supplier).filters, filter.Decided := by
    intro filter member
    rcases List.mem_pair.mp member with rfl | rfl
    · exact Filter.decided_equals _ _
    · exact fun _ => rfl
  have unordered : ∀ groups, Sorting.sort
      (fun left right => (pricedOffers supplier).orderGroups left right != .gt) groups = groups := fun groups =>
    Sorting.sort_eq_self (List.pairwise_of_forall fun _ _ => rfl)
  rw [Plan.rows, Plan.kept_eq_ok decided]
  dsimp only
  have uncut : ∀ rows, (pricedOffers supplier).cut rows = rows := fun _ => rfl
  have source : (pricedOffers supplier).records catalog =
      catalog.products.map fun product => ({ product } : Record) := rfl
  have conditions : (fun record : Record => (pricedOffers supplier).filters.all (·.accepts record)) ∘
      (fun product => ({ product } : Record)) = isPriced supplier := funext (all_accepts_pricedOffers supplier)
  rw [uncut, Plan.allRows, Plan.groups_of_grouping_eq_nil rfl, unordered, List.map_map, source, List.filter_map,
    conditions, List.map_map]
  rfl

theorem evaluates_pricedOffers (connection : Connection) (supplier : Text) :
    engine.Evaluates Connection.catalog connection (pricedOffers supplier) := by
  rw [Engine.Evaluates, statement_pricedOffers, Engine.execute, prepare_of_ok read_offersSql]
  change ((offersSelection.rows ⟨offersSql, [.text supplier]⟩ connection.catalog).mapError _, connection) = _
  rw [rows_offersSelection, rows_pricedOffers]

end Connection
end FeedDesk
