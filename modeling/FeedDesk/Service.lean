import FeedDesk.Text.Basic

namespace FeedDesk

/-!
Services outside the desk answer one request after another. Nothing is assumed of them but that an
answer is determined by the request and the requests that came before it; a service that answers
from a prepared list is one of them. A failed answer carries its causes, the outermost first.
-/

/-- An error with the errors that led to it, the outermost first. -/
structure ErrorChain where
  outermost : Text
  causes : List Text := []
  deriving DecidableEq

namespace ErrorChain

/-- The whole chain on one line. -/
def message (error : ErrorChain) : Text :=
  Text.joined ": " (error.outermost :: error.causes)

/-- Puts an error in front of the chain. -/
def within (outer : Text) (error : ErrorChain) : ErrorChain :=
  ⟨outer, error.outermost :: error.causes⟩

end ErrorChain

structure Service (Request Reply : Type) where
  answer : (past : List Request) → Request → Reply

namespace Service

/-- Answers from a list in the order of the requests; the last answer repeats. -/
def ofList {Request Reply : Type} (first : Reply) (others : List Reply) :
    Service Request Reply where
  answer past _ := ((first :: others)[past.length]?).getD ((first :: others).getLast (by simp))

end Service
end FeedDesk
