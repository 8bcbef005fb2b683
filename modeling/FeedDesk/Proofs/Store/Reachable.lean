import FeedDesk.Proofs.Number.Numbers
import FeedDesk.Store.Connection

namespace FeedDesk

open Json.Written

/-!
# Catalogs that a connection can come to

A catalog begins empty and grows by fixtures that were read from text.
Statements may open and close transactions, but they leave the catalog alone;
which transaction they leave is left open, so nothing here depends on how
statements are read.  What every such catalog keeps is stated once: ids count
the products in the order in which they are kept, and every cost is a number.
-/

/-! ## What a record gives to its product -/

/-- An optional field has a value only where the value was read. -/
theorem Json.Written.Slot.exists_of_optional {α : Type} {slot : Slot} {read : Json.Written → Option α}
    {value : α} (found : slot.optional read = some (some value)) : ∃ written, read written = some value := by
  cases slot with
  | absent => cases found
  | beyond => cases found
  | given written =>
      cases written with
      | null => cases found
      | _ =>
          obtain ⟨_, here, same⟩ := Option.map_eq_some_iff.mp found
          cases same
          exact ⟨_, here⟩

theorem ProductRecord.isFinite_of_ofWritten {written : Json.Written} {record : ProductRecord} {cost : Binary64}
    (read : ofWritten written = some record) (known : record.cost = some cost) : cost.isFinite = true := by
  obtain ⟨slots, _, read⟩ := Option.bind_eq_some_iff.mp read
  split at read
  · obtain ⟨_, _, read⟩ := Option.bind_eq_some_iff.mp read
    obtain ⟨_, _, read⟩ := Option.bind_eq_some_iff.mp read
    obtain ⟨_, _, read⟩ := Option.bind_eq_some_iff.mp read
    obtain ⟨_, _, read⟩ := Option.bind_eq_some_iff.mp read
    obtain ⟨found, costRead, read⟩ := Option.bind_eq_some_iff.mp read
    have sameCost : found = record.cost := by
      iterate 9 obtain ⟨_, _, read⟩ := Option.bind_eq_some_iff.mp read
      cases read
      rfl
    rw [sameCost, known] at costRead
    obtain ⟨_, number⟩ := Slot.exists_of_optional costRead
    exact isFinite_of_asReal number
  · cases read

theorem exists_of_mem_mapM {α β : Type} {read : α → Option β} {items : List α} {values : List β} {value : β}
    (found : items.mapM read = some values) (member : value ∈ values) : ∃ item, read item = some value := by
  induction items generalizing values with
  | nil =>
      cases found
      cases member
  | cons item items inductionHypothesis =>
      rw [List.mapM_cons] at found
      obtain ⟨first, here, found⟩ := Option.bind_eq_some_iff.mp found
      obtain ⟨others, deeper, same⟩ := Option.bind_eq_some_iff.mp found
      cases same
      rcases List.mem_cons.mp member with rfl | later
      · exact ⟨item, here⟩
      · exact inductionHypothesis deeper later

/-- The costs of a fixture that was read are finite. -/
theorem Fixture.isFinite_of_ofText? {text : Text} {fixture : Fixture} (read : ofText? text = some fixture)
    {record : ProductRecord} (member : record ∈ fixture.products) {cost : Binary64}
    (known : record.cost = some cost) : cost.isFinite = true := by
  obtain ⟨value, _, read⟩ := Option.bind_eq_some_iff.mp read
  obtain ⟨slots, _, read⟩ := Option.bind_eq_some_iff.mp read
  split at read
  · rename_i products restrictions _
    obtain ⟨records, productsRead, read⟩ := Option.bind_eq_some_iff.mp read
    obtain ⟨_, _, same⟩ := Option.bind_eq_some_iff.mp read
    cases same
    cases products with
    | absent =>
        cases productsRead
        cases member
    | beyond =>
        cases productsRead
        cases member
    | given written =>
        cases written with
        | array items =>
            obtain ⟨_, recordRead⟩ := exists_of_mem_mapM productsRead member
            exact ProductRecord.isFinite_of_ofWritten recordRead known
        | null => cases productsRead
        | boolean flag => cases productsRead
        | numeral number => cases productsRead
        | string pieces => cases productsRead
        | object members => cases productsRead
  · cases read

/-! ## What every catalog keeps -/

namespace Catalog

structure Kept (catalog : Catalog) : Prop where
  /-- Ids count the products. -/
  ids : catalog.products.map Product.id = List.range' 1 catalog.products.length
  /-- Costs are finite. -/
  costs : ∀ product ∈ catalog.products, ∀ cost, product.cost = some cost → cost.isFinite = true

namespace Kept

variable {catalog : Catalog}

theorem empty : Kept {} := ⟨rfl, fun _ member => nomatch member⟩

theorem idOrder (kept : catalog.Kept) :
    catalog.products.Pairwise fun first second => first.id < second.id := by
  have ordered := List.pairwise_lt_range' (s := 1) (n := catalog.products.length)
  rw [← kept.ids] at ordered
  exact List.pairwise_map.mp ordered

theorem addProduct (kept : catalog.Kept) {record : ProductRecord}
    (finite : ∀ cost, record.cost = some cost → cost.isFinite = true) : (catalog.addProduct record).Kept where
  ids := by
    change (catalog.products ++ [_]).map Product.id = List.range' 1 (catalog.products ++ [_]).length
    rw [List.map_append, kept.ids, List.length_append, List.length_singleton, List.range'_concat]
    rw [Nat.one_mul, Nat.add_comm]
    rfl
  costs := by
    intro product member cost known
    rcases List.mem_append.mp member with old | new
    · exact kept.costs product old cost known
    · rw [List.mem_singleton.mp new] at known
      obtain ⟨given, here, rfl⟩ := Option.map_eq_some_iff.mp known
      exact Binary64.isFinite_withOneZero (finite given here)

theorem addProducts (kept : catalog.Kept) {records : List ProductRecord}
    (finite : ∀ record ∈ records, ∀ cost, record.cost = some cost → cost.isFinite = true) :
    (records.foldl Catalog.addProduct catalog).Kept := by
  induction records generalizing catalog with
  | nil => exact kept
  | cons record records inductionHypothesis =>
      exact inductionHypothesis (kept.addProduct (finite record List.mem_cons_self))
        fun later member => finite later (List.mem_cons_of_mem record member)

theorem addRestriction (kept : catalog.Kept) {record : RestrictionRecord} {added : Catalog}
    (found : catalog.addRestriction record = some added) : added.Kept := by
  obtain ⟨_, _, rfl⟩ := Option.map_eq_some_iff.mp found
  exact ⟨kept.ids, kept.costs⟩

theorem addRestrictions (kept : catalog.Kept) (summary : ImportSummary) (records : List RestrictionRecord) :
    (catalog.addRestrictions summary records).1.Kept := by
  induction records generalizing catalog summary with
  | nil => exact kept
  | cons record records inductionHypothesis =>
      rw [Catalog.addRestrictions]
      split
      · exact inductionHypothesis (kept.addRestriction ‹_›) _
      · exact inductionHypothesis kept _

theorem add (kept : catalog.Kept) {fixture : Fixture}
    (finite : ∀ record ∈ fixture.products, ∀ cost, record.cost = some cost → cost.isFinite = true) :
    (catalog.add fixture).1.Kept :=
  (kept.addProducts finite).addRestrictions _ _

end Kept
end Catalog

namespace Connection

/-- The connections of a program.  The first one has an empty catalog.  A statement
may leave any transaction, and closing a connection leaves none, but only
fixtures that were read change the catalog. -/
inductive Reachable : Connection → Prop
  | opened : Reachable {}
  | left {connection : Connection} (transaction : Sql.Transaction) : Reachable connection →
      Reachable { connection with transaction }
  | added {connection : Connection} {text : Text} {fixture : Fixture} : Fixture.ofText? text = some fixture →
      Reachable connection → Reachable (connection.add fixture).2

theorem exists_runControl_eq (connection : Connection) (control : Sql.Control) (parameters : List Parameter) :
    ∃ transaction, (connection.runControl control parameters).2 = { connection with transaction } := by
  cases parameters with
  | nil =>
      rw [runControl]
      split
      · exact ⟨connection.transaction, rfl⟩
      · exact ⟨_, rfl⟩
  | cons parameter parameters => exact ⟨connection.transaction, rfl⟩

/-- A statement may change the transaction, and nothing else. -/
theorem exists_run_eq {connection : Connection} {sql : Text} {prepared : Prepared Connection}
    (ready : engine.prepare connection sql = .ok prepared) (parameters : List Parameter) :
    ∃ transaction, (prepared.run parameters).2 = { connection with transaction } := by
  unfold engine at ready
  dsimp only at ready
  split at ready
  · cases ready
  · rename_i command _
    cases ready
    cases command with
    | select selection => exact ⟨connection.transaction, rfl⟩
    | control control => exact connection.exists_runControl_eq control parameters
    | change => exact ⟨connection.transaction, rfl⟩

theorem exists_rows_eq (connection : Connection) (query : Query) :
    ∃ transaction, (store.rows connection query).2 = { connection with transaction } := by
  cases query with
  | planned plan => exact ⟨connection.transaction, rfl⟩
  | written statement =>
      change ∃ transaction, (engine.execute connection statement).2 = { connection with transaction }
      by_cases passes : engine.Passes connection statement.sql
      · obtain ⟨prepared, ready, readOnly⟩ := passes
        rw [Engine.execute_of_passes ready readOnly]
        exact exists_run_eq ready statement.parameters
      · rw [Engine.execute_of_not_passes passes]
        exact ⟨connection.transaction, rfl⟩

theorem Reachable.queried {connection : Connection} (reachable : connection.Reachable) (query : Query) :
    (store.rows connection query).2.Reachable := by
  obtain ⟨transaction, leaves⟩ := connection.exists_rows_eq query
  rw [leaves]
  exact .left transaction reachable

theorem Reachable.kept {connection : Connection} (reachable : connection.Reachable) :
    connection.catalog.Kept := by
  induction reachable with
  | opened => exact Catalog.Kept.empty
  | left _ _ inductionHypothesis => exact inductionHypothesis
  | added read _ inductionHypothesis =>
      rw [Connection.add]
      split
      · exact inductionHypothesis
      · exact inductionHypothesis.add fun _ member _ known => Fixture.isFinite_of_ofText? read member known

end Connection
end FeedDesk
