import FeedDesk.Proofs.Catalog.Import

namespace FeedDesk

/-!
# The history of a catalog

A catalog has a history: texts of fixtures are loaded into it, statements of
any kind are put to it in between, and now and then its connection is closed
and another one opened.  Each event either adds what a fixture says and gives
the summary of it, or it leaves the catalog as it is and gives no summary.  The
sizes of a catalog can therefore be told from the summaries of its history.

The program loads a fixture over a connection of its own, and there it is always
taken.  A statement may leave a transaction open, and as long as it is open its
own connection takes no fixture; what becomes of a fixture that is loaded there
is told apart.
-/

/-- What may happen to a connection. -/
inductive Event
  /-- A statement is run, whichever it may be, and leaves a transaction. -/
  | statement (left : Sql.Transaction)
  /-- The text of a fixture is loaded. -/
  | load (text : Text)
  | reopen

namespace Connection

/-- The connection after the text of a fixture has been loaded, and the summary
if anything was added. -/
def load (connection : Connection) (text : Text) : Option ImportSummary × Connection :=
  match Fixture.ofText? text with
  | none => (none, connection)
  | some fixture =>
    let (answer, next) := connection.add fixture
    (answer.toOption, next)

/-- A connection of its own to the catalog, as the program opens it for a fixture. -/
def reopened (connection : Connection) : Connection :=
  { catalog := connection.catalog }

def undergo (connection : Connection) : Event → Option ImportSummary × Connection
  | .statement left => (none, { connection with transaction := left })
  | .load text => connection.load text
  | .reopen => (none, connection.reopened)

/-- The summaries that events give one after another, and the connection after them. -/
def history (connection : Connection) : List Event → List ImportSummary × Connection
  | [] => ([], connection)
  | event :: events =>
    let (summary, next) := connection.undergo event
    let (summaries, last) := next.history events
    (summary.toList ++ summaries, last)

variable {connection : Connection} {text : Text} {fixture : Fixture}

/-! ## Loading -/

theorem load_of_none (unread : Fixture.ofText? text = none) (connection : Connection) :
    connection.load text = (none, connection) := by
  rw [load, unread]

theorem load_of_some (read : Fixture.ofText? text = some fixture) (connection : Connection) :
    connection.load text =
      if connection.transaction.isOpen then (none, connection)
      else (some (connection.catalog.add fixture).2,
        { connection with catalog := (connection.catalog.add fixture).1 }) := by
  rw [load, read]
  dsimp only
  rw [add]
  split <;> rfl

theorem Reachable.reopened (reachable : connection.Reachable) : connection.reopened.Reachable :=
  .left {} reachable

theorem Reachable.intact (reachable : connection.Reachable) : connection.catalog.Intact := by
  induction reachable with
  | opened => exact Catalog.Intact.empty
  | left _ _ inductionHypothesis => exact inductionHypothesis
  | added read before inductionHypothesis =>
      rw [Connection.add]
      split
      · exact inductionHypothesis
      · exact (before.kept.grown_add inductionHypothesis
          fun _ member _ known => Fixture.isFinite_of_ofText? read member known).2

/-- A fixture that can be read makes the catalog grow by what it says. -/
theorem Reachable.grown (reachable : connection.Reachable) (read : Fixture.ofText? text = some fixture) :
    connection.catalog.Grown (connection.catalog.add fixture).1 fixture (connection.catalog.add fixture).2 :=
  (reachable.kept.grown_add reachable.intact
    fun _ member _ known => Fixture.isFinite_of_ofText? read member known).1

/-- Over a connection that is in use a fixture adds the same, but only while no
transaction is open; else it changes nothing. -/
theorem Reachable.load_in_use (reachable : connection.Reachable) (read : Fixture.ofText? text = some fixture) :
    ∃ summary after, connection.catalog.Grown after fixture summary ∧
      connection.load text =
        if connection.transaction.isOpen then (none, connection)
        else (some summary, { connection with catalog := after }) :=
  ⟨_, _, reachable.grown read, load_of_some read connection⟩

/-! ## Events -/

theorem Reachable.undergo (reachable : connection.Reachable) (event : Event) :
    (connection.undergo event).2.Reachable := by
  cases event with
  | statement left => exact .left left reachable
  | reopen => exact reachable.reopened
  | load text =>
      rw [Connection.undergo, load]
      cases read : Fixture.ofText? text with
      | none => exact reachable
      | some fixture => exact .added read reachable

/-- An event adds as many rows as its summary tells, and none without a summary. -/
theorem Reachable.length_undergo (reachable : connection.Reachable) (event : Event) :
    (connection.undergo event).2.catalog.products.length = connection.catalog.products.length +
        ((connection.undergo event).1.toList.map ImportSummary.products).sum ∧
      (connection.undergo event).2.catalog.restrictions.length = connection.catalog.restrictions.length +
        ((connection.undergo event).1.toList.map ImportSummary.restrictions).sum := by
  cases event with
  | statement left => exact ⟨rfl, rfl⟩
  | reopen => exact ⟨rfl, rfl⟩
  | load text =>
      rw [Connection.undergo]
      cases read : Fixture.ofText? text with
      | none =>
          rw [load_of_none read]
          exact ⟨rfl, rfl⟩
      | some fixture =>
          rw [load_of_some read]
          split
          · exact ⟨rfl, rfl⟩
          · have grown := reachable.grown read
            exact ⟨grown.length_products, grown.length_restrictions⟩

theorem Reachable.history (reachable : connection.Reachable) (events : List Event) :
    (connection.history events).2.Reachable := by
  induction events generalizing connection with
  | nil => exact reachable
  | cons event events inductionHypothesis => exact inductionHypothesis (reachable.undergo event)

/-- Along a history the summaries add up to the rows that have been added. -/
theorem Reachable.length_history (reachable : connection.Reachable) (events : List Event) :
    (connection.history events).2.catalog.products.length = connection.catalog.products.length +
        ((connection.history events).1.map ImportSummary.products).sum ∧
      (connection.history events).2.catalog.restrictions.length = connection.catalog.restrictions.length +
        ((connection.history events).1.map ImportSummary.restrictions).sum := by
  induction events generalizing connection with
  | nil => exact ⟨rfl, rfl⟩
  | cons event events inductionHypothesis =>
      obtain ⟨products, restrictions⟩ := reachable.length_undergo event
      obtain ⟨laterProducts, laterRestrictions⟩ := inductionHypothesis (reachable.undergo event)
      rw [Connection.history]
      dsimp only
      rw [List.map_append, List.map_append, List.sum_append, List.sum_append, laterProducts, laterRestrictions,
        products, restrictions, Nat.add_assoc, Nat.add_assoc]
      exact ⟨rfl, rfl⟩

/-- A text that is no fixture changes nothing.  Any other text is loaded over a
connection of its own, and it adds just what the fixture says.  So whatever has
happened since the catalog was empty, every rule refers to a product, and the
statistics count what the summaries add up to. -/
theorem Reachable.load_exact (reachable : connection.Reachable) (text : Text) :
    (Fixture.ofText? text = none → connection.load text = (none, connection)) ∧
      (∀ fixture, Fixture.ofText? text = some fixture →
        ∃ summary after, connection.catalog.Grown after fixture summary ∧
          connection.reopened.load text = (some summary, { catalog := after })) ∧
      ∀ events : List Event,
        (∀ rule ∈ (Connection.history {} events).2.catalog.restrictions,
          ∃ product ∈ (Connection.history {} events).2.catalog.products, product.id = rule.productId) ∧
        ∃ statistics, store.statistics (Connection.history {} events).2 = .ok statistics ∧
          statistics.total = ((Connection.history {} events).1.map ImportSummary.products).sum ∧
          statistics.totalRestrictions =
            ((Connection.history {} events).1.map ImportSummary.restrictions).sum := by
  refine ⟨fun unread => load_of_none unread connection, fun fixture read => ?_, fun events => ?_⟩
  · exact ⟨_, _, reachable.grown read, load_of_some read connection.reopened⟩
  · obtain ⟨products, restrictions⟩ := Reachable.opened.length_history events
    refine ⟨(Reachable.opened.history events).intact.ties, _, rfl, ?_, ?_⟩
    · exact congrArg Int.ofNat (products.trans (Nat.zero_add _))
    · exact congrArg Int.ofNat (restrictions.trans (Nat.zero_add _))

/-! A fixture with a code that two of its products share and one that none has,
loaded a second time while a transaction is open on another connection. -/

def hayText : Text :=
  "\x7b\"products\":[\x7b\"product_name\":\"Salt\"\x7d,\x7b\"product_name\":\"Hay\",\"product_code\":\"H\"\x7d," ++
    "\x7b\"product_name\":\"Old hay\",\"product_code\":\"H\"\x7d]," ++
    "\"restrictions\":[\x7b\"product_code\":\"H\"\x7d,\x7b\"product_code\":\"S\"\x7d]\x7d"

def hay : Fixture where
  products := [{ name := "Salt" }, { name := "Hay", code := some "H" }, { name := "Old hay", code := some "H" }]
  restrictions := [{ code := "H" }, { code := "S" }]

/-- The catalog of the fixture, with a transaction open on it. -/
def hayConnection : Connection where
  catalog := (Connection.add {} hay).2.catalog
  transaction := { isBegun := true }

theorem Reachable.load_exact_hay :
    hayConnection.Reachable ∧ Fixture.ofText? hayText = some hay ∧ Fixture.ofText? "\x7b" = none ∧
      hayConnection.load "\x7b" = (none, hayConnection) ∧
      ∃ after, hayConnection.catalog.Grown after hay ⟨3, 1, 1⟩ ∧
        hayConnection.reopened.load hayText = (some ⟨3, 1, 1⟩, { catalog := after }) ∧
        after.restrictions.map Restriction.productId = [2, 2] := by
  have read : Fixture.ofText? hayText = some hay := by decide +kernel
  have unread : Fixture.ofText? "\x7b" = none := by decide +kernel
  have reachable : hayConnection.Reachable := .left { isBegun := true } (.added read .opened)
  obtain ⟨changesNothing, -, -⟩ := reachable.load_exact "\x7b"
  obtain ⟨-, adds, -⟩ := reachable.load_exact hayText
  obtain ⟨summary, after, grown, own⟩ := adds hay read
  have loaded : hayConnection.reopened.load hayText =
      (some ⟨3, 1, 1⟩, { catalog := (hayConnection.catalog.add hay).1 }) := by decide +kernel
  cases own.symm.trans loaded
  exact ⟨reachable, read, unread, changesNothing unread, _, grown, own, by decide +kernel⟩

end Connection
end FeedDesk
