import FeedDesk.Number.Decimal
import FeedDesk.Plan.Basic
import FeedDesk.Text.Lower

namespace FeedDesk

/-!
The statement of a plan: its SQL text with numbered placeholders and the values bound to them, one
for each condition that carries a value. No value of a condition enters the text. A value to be
contained is bound as a pattern of its lower case, in which the wildcards and the escape
character stand for themselves.
-/

/-- A bound value. -/
inductive Parameter
  | text (value : Text)
  | real (value : Binary64)
  deriving DecidableEq

structure Statement where
  sql : Text
  parameters : List Parameter := []
  deriving DecidableEq

/-- A plan whose columns and outputs are given by their SQL. -/
abbrev WrittenPlan := Plan Text Text

def productTable : Text := "feed_products_sample"
def ruleTable : Text := "feed_product_restrictions"

namespace Pattern

def isSpecial (char : Char) : Bool :=
  char == '%' || char == '_' || char == '\\'

/-- Puts the escape character before wildcards and before itself. -/
def escape (value : Text) : Text :=
  value.flatMap fun char => if isSpecial char then ['\\', char] else [char]

/-- The pattern of the texts that hold the value in lower case. -/
def containing (value : Text) : Text :=
  '%' :: (escape value.lower ++ ['%'])

/-- The pattern of the texts that hold a marker, which has no wildcards. -/
def marking (marker : Text) : Text :=
  '%' :: (marker ++ ['%'])

end Pattern

def Source.sql : Source → Text
  | catalog => productTable
  | catalogWithRules => productTable ++ " p\nJOIN " ++ ruleTable ++ " r ON p.id = r.product_id"

def Direction.sql : Direction → Text
  | ascending => "ASC"
  | descending => "DESC"

namespace Filter

/-- The value that a condition binds. -/
def parameter? {column : Type} : Filter column → Option Parameter
  | contains _ value => some (.text (Pattern.containing value))
  | equals _ value => some (.text value)
  | marked _ marker => some (.text (Pattern.marking marker))
  | flag _ => none
  | notNull _ => none
  | atLeast _ value => some (.real value)
  | atMost _ value => some (.real value)

/-- The text of a condition whose value, if it has one, is bound at the given place. -/
def condition (place : Nat) : Filter Text → Text
  | contains column _ => "LOWER(" ++ column ++ ") LIKE ?" ++ Text.ofNat place ++ " ESCAPE '\\'"
  | equals column _ => column ++ " = ?" ++ Text.ofNat place
  | marked column _ => column ++ " LIKE ?" ++ Text.ofNat place
  | flag column => column ++ " = 1"
  | notNull column => column ++ " IS NOT NULL"
  | atLeast column _ => column ++ " >= ?" ++ Text.ofNat place
  | atMost column _ => column ++ " <= ?" ++ Text.ofNat place

/-- The texts of conditions in order; a place is used up by each condition that binds a value. -/
def conditions : (place : Nat) → List (Filter Text) → List Text
  | _, [] => []
  | place, filter :: filters =>
    filter.condition place ::
      conditions (if filter.parameter?.isSome then place + 1 else place) filters

end Filter

namespace Plan

/-- A clause that is left out when it has nothing to list. -/
def clause (keyword separator : Text) : List Text → Text
  | [] => []
  | parts => keyword ++ Text.joined separator parts

def limitClause : Option Nat → Text
  | none => []
  | some limit => "\nLIMIT " ++ Text.ofNat limit

def sql (plan : WrittenPlan) : Text :=
  "SELECT " ++ Text.joined ", " plan.projection ++ "\nFROM " ++ plan.source.sql ++
    clause "\nWHERE " "\n  AND " (Filter.conditions 1 plan.filters) ++
    clause "\nGROUP BY " ", " plan.grouping ++
    clause "\nORDER BY " ", "
      (plan.ordering.map fun (key, direction) => key ++ " " ++ direction.sql) ++
    limitClause plan.limit

/-- The values bound by the conditions, in order. -/
def parameters {column output : Type} (plan : Plan column output) : List Parameter :=
  plan.filters.filterMap Filter.parameter?

def statement (plan : WrittenPlan) : Statement :=
  ⟨plan.sql, plan.parameters⟩

end Plan

namespace Parameter

/-- The value as it is shown: a text in single quotes, with a quote inside written twice. -/
def shown : Parameter → Text
  | text value =>
    '\'' :: (value.flatMap fun char => if char = '\'' then ['\'', '\''] else [char]) ++ ['\'']
  | real value => value.plainText

end Parameter

namespace Statement

/-- Values with their places, counted from the given one. -/
def shownParameters : (place : Nat) → List Parameter → List Text
  | _, [] => []
  | place, parameter :: parameters =>
    ('?' :: (Text.ofNat place ++ " = " ++ parameter.shown)) ::
      shownParameters (place + 1) parameters

/-- The statement as it is shown to people: its text, and below it the bound values. -/
def shown (statement : Statement) : Text :=
  statement.sql ++ Plan.clause "\n-- params: " ", " (shownParameters 1 statement.parameters)

end Statement
end FeedDesk
