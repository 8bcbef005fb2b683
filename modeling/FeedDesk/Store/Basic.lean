import FeedDesk.Catalog.Statistics
import FeedDesk.Plan.Output
import FeedDesk.Plan.Statement
import FeedDesk.Service
import FeedDesk.Text.Escaped

namespace FeedDesk

/-!
A store answers queries with rows and counts what it holds. It may refuse a query with an error,
and the task that carries the query may break down. Nothing else is assumed of a store: it has a
state, which every query may change.
-/

/-- What is put to a store: a plan of the desk, or a statement that came as text. -/
inductive Query
  | planned (plan : CatalogPlan)
  | written (statement : Statement)

namespace Query

def statement : Query → Statement
  | planned plan => plan.written.statement
  | written statement => statement

end Query

inductive StoreFailure
  | refused (error : ErrorChain)
  /-- The task broke down and left a last message. -/
  | crashed (message : Text)
  deriving DecidableEq

namespace StoreFailure

/-- The failure as an error; the task of a breakdown goes by the name `N`. -/
def error : StoreFailure → ErrorChain
  | refused error => error
  | crashed message =>
    ⟨"store task failed", ["task N panicked with message " ++ Text.escaped message]⟩

end StoreFailure

structure Store (State : Type) where
  rows : State → Query → Except StoreFailure (List Row) × State
  statistics : State → Except StoreFailure Statistics

namespace Store

/-- A store that answers the statements alone, in the way of a service. Its state is the list of
the statements it was given. -/
def ofService (service : Service Statement (Except StoreFailure (List Row)))
    (statistics : Except StoreFailure Statistics) : Store (List Statement) where
  rows past query :=
    (service.answer past query.statement, past ++ [query.statement])
  statistics _ := statistics

end Store
end FeedDesk
