import FeedDesk.Sql.Evaluation
import FeedDesk.Sql.Transaction
import FeedDesk.Store.Engine

namespace FeedDesk

/-!
A connection to a catalog: the catalog together with the transaction that may be open on it. A plan
is answered by what it means over the catalog. A statement that comes as text is put to a small
engine, which reads selections from one table and the statements about transactions. This engine
lets a desk be run without a database and is one among others; what is said of all statements is
said of all engines. An import is a transaction of its own, so it is refused while another one is
open.
-/

structure Connection where
  catalog : Catalog := {}
  transaction : Sql.Transaction := {}
  deriving DecidableEq

namespace Connection

/-- A statement about the transaction, which takes no values. -/
def runControl (connection : Connection) (control : Sql.Control) :
    List Parameter → Except QueryError (List Row) × Connection
  | [] =>
    match connection.transaction.after control with
    | .error error => (.error error, connection)
    | .ok transaction => (.ok [], { connection with transaction })
  | parameters => (.error (.wrongParameterCount parameters.length 0), connection)

/-- The statement of a command. Changes of tables are known only to be refused. -/
def prepared (connection : Connection) (sql : Text) : Sql.Command → Prepared Connection
  | .select selection =>
    { readOnly := true
      run := fun parameters =>
        ((selection.rows ⟨sql, parameters⟩ connection.catalog).mapError QueryError.chain, connection) }
  | .control control =>
    { readOnly := true
      run := fun parameters =>
        let (rows, connection) := connection.runControl control parameters
        (rows.mapError QueryError.chain, connection) }
  | .change =>
    { readOnly := false
      run := fun _ => (.error QueryError.malformed.chain, connection) }

def insert (connection : Connection) : Insertion → Except ErrorChain Nat × Connection
  | .product record => (.ok 1, { connection with catalog := connection.catalog.addProduct record })
  | .rule record =>
    match connection.catalog.addRestriction record with
    | some catalog => (.ok 1, { connection with catalog })
    | none => (.ok 0, connection)

def engine : Engine Connection where
  prepare connection sql := match Sql.Command.ofText sql with
    | .error error => .error error.chain
    | .ok command => .ok (connection.prepared sql command)
  insert
  statistics connection := .ok (.ofCatalog connection.catalog)

/-- Adds a fixture to the catalog. -/
def add (connection : Connection) (fixture : Fixture) :
    Except QueryError ImportSummary × Connection :=
  if connection.transaction.isOpen then (.error .transactionOpen, connection)
  else
    let (catalog, summary) := connection.catalog.add fixture
    (.ok summary, { connection with catalog })

/-- Catalogs as a store. -/
def store : Store Connection where
  rows connection
    | .planned plan =>
      ((plan.rows connection.catalog).mapError fun error => .refused error.chain, connection)
    | .written statement => engine.store.rows connection (.written statement)
  statistics connection := .ok (.ofCatalog connection.catalog)

end Connection
end FeedDesk
