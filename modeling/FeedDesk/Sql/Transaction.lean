import FeedDesk.Sql.Command

namespace FeedDesk
namespace Sql

/-!
The transaction of a connection, as it is documented of database engines. It is open from its
beginning, or from the first savepoint, until it is committed or rolled back or that savepoint is
released. Savepoints of one name hide each other; names are compared without regard to case.
Nothing that a connection reads depends on its transaction, because the statements that could
change the tables are refused.
-/

structure Transaction where
  /-- Begun by a statement of its own and not by a savepoint. -/
  isBegun : Bool := false
  /-- Open savepoints, the innermost first. -/
  savepoints : List Text := []
  deriving DecidableEq

namespace Transaction

def isOpen (transaction : Transaction) : Bool :=
  transaction.isBegun || !transaction.savepoints.isEmpty

/-- The open savepoints from the innermost one of a name outward. -/
def outward (transaction : Transaction) (name : Text) : List Text :=
  transaction.savepoints.dropWhile fun other => other.asciiLower != name.asciiLower

/-- The transaction after a statement about it. -/
def after (transaction : Transaction) : Control → Except QueryError Transaction
  | .begin =>
    if transaction.isOpen then .error .transactionOpen else .ok { isBegun := true }
  | .commit => if transaction.isOpen then .ok {} else .error (.noTransaction "commit")
  | .rollback => if transaction.isOpen then .ok {} else .error (.noTransaction "rollback")
  | .savepoint name => .ok { transaction with savepoints := name :: transaction.savepoints }
  | .release name =>
    match transaction.outward name with
    | [] => .error (.unknownSavepoint name)
    | _ :: outer => .ok { transaction with savepoints := outer }
  | .rollbackTo name =>
    match transaction.outward name with
    | [] => .error (.unknownSavepoint name)
    | kept => .ok { transaction with savepoints := kept }

end Transaction
end Sql
end FeedDesk
