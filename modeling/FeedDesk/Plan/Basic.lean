import FeedDesk.Number.Binary64
import FeedDesk.Text.Basic

namespace FeedDesk

/-!
A plan says what is asked of the catalog: which columns of which rows, how they are grouped,
ordered and cut off. It is general in what names a column and what names an output, so that one
plan can be written as a statement, where both are texts, and evaluated, where both are columns
of the catalog.
-/

/-- The rows a plan reads: products, or products joined to their feeding rules. -/
inductive Source
  | catalog
  | catalogWithRules
  deriving DecidableEq

/-- A condition on one column; the conditions of a plan must all hold. -/
inductive Filter (column : Type)
  /-- The column contains the value, without regard to case. -/
  | contains (column : column) (value : Text)
  | equals (column : column) (value : Text)
  /-- The column carries the marker somewhere. -/
  | marked (column : column) (marker : Text)
  /-- The column is set. -/
  | flag (column : column)
  | notNull (column : column)
  | atLeast (column : column) (value : Binary64)
  | atMost (column : column) (value : Binary64)
  deriving DecidableEq

def Filter.map {column other : Type} (rename : column → other) : Filter column → Filter other
  | contains column value => contains (rename column) value
  | equals column value => equals (rename column) value
  | marked column marker => marked (rename column) marker
  | flag column => flag (rename column)
  | notNull column => notNull (rename column)
  | atLeast column value => atLeast (rename column) value
  | atMost column value => atMost (rename column) value

inductive Direction
  | ascending
  | descending
  deriving DecidableEq

structure Plan (column output : Type) where
  source : Source
  projection : List output
  filters : List (Filter column) := []
  grouping : List output := []
  ordering : List (output × Direction) := []
  limit : Option Nat := none
  deriving DecidableEq

namespace Plan

variable {column output : Type}

def filter (plan : Plan column output) (condition : Filter column) : Plan column output :=
  { plan with filters := plan.filters ++ [condition] }

/-- Adds a condition on a value that may be unknown; an unknown value constrains nothing. -/
def filterIf {α : Type} (plan : Plan column output) (value : Option α)
    (condition : α → Filter column) : Plan column output :=
  match value with
  | some value => plan.filter (condition value)
  | none => plan

def groupBy (plan : Plan column output) (outputs : List output) : Plan column output :=
  { plan with grouping := outputs }

def orderBy (plan : Plan column output) (key : output) (direction : Direction) :
    Plan column output :=
  { plan with ordering := plan.ordering ++ [(key, direction)] }

def cutAt (plan : Plan column output) (limit : Nat) : Plan column output :=
  { plan with limit := some limit }

end Plan
end FeedDesk
