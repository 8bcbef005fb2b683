import FeedDesk.Language.Detection
import FeedDesk.Oracle.Consultation
import FeedDesk.Question.Normalization
import FeedDesk.Store.Basic

namespace FeedDesk

/-!
The desk and its sessions. A desk is a store with the services that may stand beside it; all of
them but the store may be missing. A session is what has happened at a desk: the state that the
store has come to, and what the translator and the oracle have been asked.
-/

structure Desk (State : Type) where
  store : Store State
  /-- A check whether the store can be reached; it may break down. -/
  probe : Option (State → Option Bool) := none
  identifier : Option Language.Identifier := none
  translator : Option Translator := none
  oracle : Option Oracle := none

structure Session (State : Type) where
  state : State
  translated : List TranslatorRequest := []
  prompts : List Prompt := []

/-- Which parts of a desk are there. -/
structure Health where
  database : Bool
  oracle : Bool
  translator : Bool
  deriving DecidableEq

namespace Desk

/-- A store without a check counts as reachable, and one whose check breaks down does not. -/
def health {State : Type} (desk : Desk State) (session : Session State) : Health where
  database := match desk.probe with
    | some probe => (probe session.state).getD false
    | none => true
  oracle := desk.oracle.isSome
  translator := desk.translator.isSome

def statistics {State : Type} (desk : Desk State) (session : Session State) :
    Except StoreFailure Statistics :=
  desk.store.statistics session.state

/-- Puts a query to the store. -/
def rows {State : Type} (desk : Desk State) (session : Session State) (query : Query) :
    Except StoreFailure (List Row) × Session State :=
  let (rows, state) := desk.store.rows session.state query
  (rows, { session with state })

/-- The rows of a plan. -/
def fetch {State : Type} (desk : Desk State) (session : Session State) (plan : CatalogPlan) :
    Except StoreFailure (List Row) × Session State :=
  desk.rows session (.planned plan)

end Desk
end FeedDesk
