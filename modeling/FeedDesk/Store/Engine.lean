import FeedDesk.Catalog.Evaluation
import FeedDesk.Catalog.Import
import FeedDesk.Catalog.Statistics
import FeedDesk.Store.Basic

namespace FeedDesk

/-!
A desk that keeps its catalog in a database speaks to the engine of the database in statements.
Nothing is assumed of an engine: it prepares a text as a statement, tells of a prepared statement
whether it only reads, inserts records and counts rows. The rest is the desk's own part. A
statement that comes as text is run only if it is flagged as one that only reads, and a fixture is
added in a transaction of its own.
-/

/-- A statement that is ready to be run. -/
structure Prepared (State : Type) where
  /-- The engine flags the statement as one that only reads. -/
  readOnly : Bool
  run : List Parameter → Except ErrorChain (List Row) × State

/-- A record that is to become a row. -/
inductive Insertion
  | product (record : ProductRecord)
  /-- A rule becomes a row only if there is a product with its code. -/
  | rule (record : RestrictionRecord)

structure Engine (State : Type) where
  prepare : State → Text → Except ErrorChain (Prepared State)
  /-- Inserts a record and tells how many rows it became. -/
  insert : State → Insertion → Except ErrorChain Nat × State
  statistics : State → Except ErrorChain Statistics

def Fixture.insertions (fixture : Fixture) : List Insertion :=
  fixture.products.map .product ++ fixture.restrictions.map .rule

/-- The summary with one more record that became a number of rows. -/
def ImportSummary.counting (summary : ImportSummary) (rows : Nat) : Insertion → ImportSummary
  | .product _ => { summary with products := summary.products + 1 }
  | .rule _ =>
    if rows = 0 then { summary with skipped := summary.skipped + 1 }
    else { summary with restrictions := summary.restrictions + 1 }

namespace Engine

variable {State : Type}

/-- Runs a statement, if it only reads. -/
def execute (engine : Engine State) (state : State) (statement : Statement) :
    Except ErrorChain (List Row) × State :=
  match engine.prepare state statement.sql with
  | .error error => (.error error, state)
  | .ok prepared =>
    if prepared.readOnly then prepared.run statement.parameters
    else (.error QueryError.notReadOnly.chain, state)

/-- The text is prepared, and it is flagged as one that only reads. -/
def Passes (engine : Engine State) (state : State) (sql : Text) : Prop :=
  ∃ prepared, engine.prepare state sql = .ok prepared ∧ prepared.readOnly = true

theorem execute_of_passes {engine : Engine State} {state : State} {statement : Statement}
    {prepared : Prepared State} (ready : engine.prepare state statement.sql = .ok prepared)
    (readOnly : prepared.readOnly = true) :
    engine.execute state statement = prepared.run statement.parameters := by
  rw [execute, ready]
  exact if_pos readOnly

theorem execute_of_not_passes {engine : Engine State} {state : State} {statement : Statement}
    (stopped : ¬engine.Passes state statement.sql) :
    (engine.execute state statement).2 = state := by
  rw [execute]
  cases ready : engine.prepare state statement.sql with
  | error error => rfl
  | ok prepared =>
    dsimp only
    split
    · rename_i readOnly
      exact absurd ⟨prepared, ready, readOnly⟩ stopped
    · rfl

/-- Runs a statement of the desk's own, of whatever kind. -/
def carryOut (engine : Engine State) (state : State) (sql : Text) :
    Except ErrorChain (List Row) × State :=
  match engine.prepare state sql with
  | .error error => (.error error, state)
  | .ok prepared => prepared.run []

def insertAll (engine : Engine State) (state : State) (summary : ImportSummary) :
    List Insertion → Except ErrorChain ImportSummary × State
  | [] => (.ok summary, state)
  | insertion :: insertions =>
    match engine.insert state insertion with
    | (.error error, state) => (.error error, state)
    | (.ok rows, state) => engine.insertAll state (summary.counting rows insertion) insertions

/-- Adds a fixture, or nothing of it. -/
def add (engine : Engine State) (state : State) (fixture : Fixture) :
    Except ErrorChain ImportSummary × State :=
  match engine.carryOut state "BEGIN DEFERRED" with
  | (.error error, state) => (.error error, state)
  | (.ok _, state) =>
    match engine.insertAll state {} fixture.insertions with
    | (.error error, state) => (.error error, (engine.carryOut state "ROLLBACK").2)
    | (.ok summary, state) =>
      match engine.carryOut state "COMMIT" with
      | (.error error, state) => (.error error, (engine.carryOut state "ROLLBACK").2)
      | (.ok _, state) => (.ok summary, state)

/-- The engine as a store, which takes plans by their statements alone. -/
def store (engine : Engine State) : Store State where
  rows state query :=
    let (rows, state) := engine.execute state query.statement
    (rows.mapError .refused, state)
  statistics state := (engine.statistics state).mapError .refused

end Engine
end FeedDesk
