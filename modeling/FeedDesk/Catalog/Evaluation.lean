import FeedDesk.Catalog.Basic
import FeedDesk.Catalog.Like
import FeedDesk.Catalog.Month
import FeedDesk.Json.Basic
import FeedDesk.Number.Mean
import FeedDesk.Plan.Output
import FeedDesk.Service
import FeedDesk.Sorting

namespace FeedDesk

/-!
The meaning of a plan over a catalog. Records are read in id order and kept when every condition
holds; kept records with equal keys form a group, and groups come in ascending order of their
keys; each group gives one row; rows are sorted stably and cut off. A plan without grouping gives
a row for each record. Unknown values satisfy no condition, come first in ascending order, and
make a key of their own.
-/

/-- A value of a column. -/
inductive Cell
  | null
  | integer (value : Int)
  | real (value : Binary64)
  | text (value : Text)
  deriving DecidableEq

namespace Cell

def ofText? : Option Text → Cell
  | some value => text value
  | none => null

def ofReal? : Option Binary64 → Cell
  | some value => real value
  | none => null

def ofInteger? : Option Int → Cell
  | some value => integer value
  | none => null

def ofBool (value : Bool) : Cell :=
  integer (if value then 1 else 0)

def isNull (cell : Cell) : Bool := cell == null

/-- The value of a number times `2 ^ 1074`. -/
def scaled : Cell → Int
  | integer value => value * (1 <<< 1074 : Nat)
  | real value => value.scaled
  | _ => 0

/-- Unknown values, then numbers by their value, then texts by their code points. -/
def order : Cell → Cell → Ordering
  | null, null => .eq
  | null, _ => .lt
  | _, null => .gt
  | text left, text right => left.order right
  | text _, _ => .gt
  | _, text _ => .lt
  | integer left, integer right => compare left right
  | real left, real right => compare left.position right.position
  | left, right => compare left.scaled right.scaled

/-- Keys compare by their first cells that differ. -/
def orderKeys : List Cell → List Cell → Ordering
  | left :: lefts, right :: rights => (left.order right).then (orderKeys lefts rights)
  | _, _ => .eq

/-- The value in a result row; a double outside the numbers becomes `null`. -/
def json : Cell → Json
  | null => .null
  | integer value => .integer value
  | real value => if value.isFinite then .real value else .null
  | text value => .string value

end Cell

namespace Product

def cell (product : Product) : ProductColumn → Cell
  | .name => .text product.name
  | .code => .ofText? product.code
  | .category => .ofText? product.category
  | .cost => .ofReal? product.cost
  | .currency => .ofText? product.currency
  | .supplier => .ofText? product.supplier
  | .region => .ofText? product.region
  | .email => .ofText? product.email
  | .phone => .ofText? product.phone
  | .active => .ofBool product.isActive

/-- The month of the product's date. -/
def month (product : Product) : Cell :=
  .ofText? (product.createdAt.bind Month.ofMoment?)

end Product

namespace Restriction

def cell (rule : Restriction) : RuleColumn → Cell
  | .species => .ofText? rule.species
  | .sex => .ofText? rule.sex
  | .leastAge => .ofInteger? rule.leastAge
  | .greatestAge => .ofInteger? rule.greatestAge
  | .feedCap => .ofReal? rule.feedCap
  | .concentrateCap => .ofReal? rule.concentrateCap
  | .focus => .ofText? rule.focus
  | .lactation => .ofText? rule.lactation
  | .active => .ofBool rule.isActive

end Restriction

namespace Record

def cell (record : Record) : Column → Cell
  | .product column => record.product.cell column
  | .rule column => match record.rule with
    | some rule => rule.cell column
    | none => .null

end Record

/-- Why a query cannot be run. -/
inductive QueryError
  | patternTooLong
  | unknownColumn (name sql : Text) (offset : Nat)
  | unknownTable (name : Text)
  /-- The text is not a statement. -/
  | malformed
  | notReadOnly
  | wrongParameterCount (given needed : Nat)
  /-- A transaction is to be begun while one is open. -/
  | transactionOpen
  /-- A transaction is to be ended, in the way that is named, while none is open. -/
  | noTransaction (action : Text)
  | unknownSavepoint (name : Text)
  deriving DecidableEq

namespace QueryError

/-- The general error of the store that stands behind most of its errors. -/
def generalCause : Text := "Error code 1: SQL error or missing database"

def chain : QueryError → ErrorChain
  | patternTooLong => ⟨"LIKE or GLOB pattern too complex", [generalCause]⟩
  | unknownColumn name sql offset =>
    ⟨"no such column: " ++ name ++ " in " ++ sql ++ " at offset " ++ Text.ofNat offset,
      [generalCause]⟩
  | unknownTable name => ⟨"no such table: " ++ name, [generalCause]⟩
  | malformed => ⟨"syntax error", [generalCause]⟩
  | notReadOnly => ⟨"only read-only statements can be executed", []⟩
  | wrongParameterCount given needed =>
    ⟨"Wrong number of parameters passed to query. Got " ++ Text.ofNat given ++ ", needed " ++
      Text.ofNat needed, []⟩
  | transactionOpen => ⟨"cannot start a transaction within a transaction", [generalCause]⟩
  | noTransaction action =>
    ⟨"cannot " ++ action ++ " - no transaction is active", [generalCause]⟩
  | unknownSavepoint name => ⟨"no such savepoint: " ++ name, [generalCause]⟩

end QueryError

namespace Filter

/-- The value of the column matches a pattern, if it is known. -/
def like (escape : Option Char) (pattern : Text) (value : Cell) : Except QueryError Bool :=
  if Like.patternLimit < pattern.byteLength then .error .patternTooLong
  else match value with
    | .text value => .ok (Like.holds escape pattern value)
    | _ => .ok false

def holds (record : Record) : Filter Column → Except QueryError Bool
  | contains column value =>
    let lowered := match record.cell column with
      | .text text => Cell.text text.asciiLower
      | cell => cell
    like (some '\\') (Pattern.containing value) lowered
  | equals column value => .ok (record.cell column == .text value)
  | marked column marker => like none (Pattern.marking marker) (record.cell column)
  | flag column => .ok (record.cell column == .integer 1)
  | notNull column => .ok (!(record.cell column).isNull)
  | atLeast column value => .ok (match record.cell column with
    | .real cost => value.le cost
    | _ => false)
  | atMost column value => .ok (match record.cell column with
    | .real cost => cost.le value
    | _ => false)

/-- All conditions hold; those behind the first one that fails are not looked at. -/
def allHold (record : Record) : List (Filter Column) → Except QueryError Bool
  | [] => .ok true
  | filter :: filters =>
    match filter.holds record with
    | .error error => .error error
    | .ok false => .ok false
    | .ok true => allHold record filters

/-- The condition says that a column is set. -/
def isFlag {column : Type} : Filter column → Bool
  | flag _ => true
  | _ => false

/-- The condition says that a column equals a text. -/
def isEquality {column : Type} : Filter column → Bool
  | equals _ _ => true
  | _ => false

end Filter

namespace Output

def costs (group : List Record) : List Binary64 :=
  group.filterMap fun record => record.product.cost

/-- The record of a group that speaks for it in the columns outside the key: the first one, but
where the lowest cost is asked for, the first one that has it, or the last if no cost is known. -/
def representative? (lowest : Bool) (group : List Record) : Option Record :=
  if lowest then
    match Binary64.least? (costs group) with
    | some smallest => group.find? fun record =>
      record.product.cost.any fun cost => cost.position == smallest.position
    | none => group.getLast?
  else group.head?

/-- The value of an output for a group. -/
def cell (lowest : Bool) (group : List Record) : Output → Cell
  | plain column => match representative? lowest group with
    | some record => record.cell column
    | none => .null
  | month => match representative? lowest group with
    | some record => record.product.month
    | none => .null
  | average => .ofReal? ((Binary64.mean? (costs group)).map Binary64.roundHundredths)
  | least => .ofReal? ((Binary64.least? (costs group)).map Binary64.roundHundredths)
  | greatest => .ofReal? ((Binary64.greatest? (costs group)).map Binary64.roundHundredths)
  | lowestCost => .ofReal? (Binary64.least? (costs group))
  | count _ => .integer group.length

end Output

/-- Neighbours that are alike are put together. -/
def runs {α : Type} (alike : α → α → Bool) : List α → List (List α)
  | [] => []
  | item :: items =>
    match runs alike items with
    | (next :: run) :: others =>
      if alike item next then (item :: next :: run) :: others else [item] :: (next :: run) :: others
    | others => [item] :: others

/-- The items of a list for which a test that may fail holds. -/
def keepIf {α ε : Type} (test : α → Except ε Bool) : List α → Except ε (List α)
  | [] => .ok []
  | item :: items =>
    match test item with
    | .error error => .error error
    | .ok kept =>
      match keepIf test items with
      | .error error => .error error
      | .ok items => .ok (if kept then item :: items else items)

namespace Plan

/-- The records of the source of a plan. -/
def records (plan : CatalogPlan) (catalog : Catalog) : List Record :=
  match plan.source with
  | .catalog => catalog.productRecords
  | .catalogWithRules => catalog.ruleRecords

/-- The condition by which the records to be tested are found: the one that asks for a flag, or
else the first one that asks for an exact text. -/
def access? (plan : CatalogPlan) : Option (Filter Column) :=
  match plan.filters.find? Filter.isFlag with
  | some filter => some filter
  | none => plan.filters.find? Filter.isEquality

/-- The records that are tested at all; a pattern that is too long is noticed only on these. -/
def tested (plan : CatalogPlan) (catalog : Catalog) : Except QueryError (List Record) :=
  match plan.access? with
  | some filter => keepIf (fun record => filter.holds record) (plan.records catalog)
  | none => .ok (plan.records catalog)

/-- The records that satisfy every condition, in id order. -/
def kept (plan : CatalogPlan) (catalog : Catalog) : Except QueryError (List Record) :=
  match plan.tested catalog with
  | .error error => .error error
  | .ok records => keepIf (fun record => Filter.allHold record plan.filters) records

/-- The key of a record: its values of the outputs that group. -/
def key (plan : CatalogPlan) (record : Record) : List Cell :=
  plan.grouping.map (Output.cell false [record])

/-- The groups of records in ascending order of their keys; without grouping, single records in
the order given. -/
def groups (plan : CatalogPlan) (records : List Record) : List (List Record) :=
  if plan.grouping.isEmpty then records.map fun record => [record]
  else
    let sorted := Sorting.sort
      (fun left right => Cell.orderKeys (plan.key left) (plan.key right) != .gt) records
    runs (fun left right => Cell.orderKeys (plan.key left) (plan.key right) == .eq) sorted

def asksLowest (plan : CatalogPlan) : Bool :=
  plan.projection.contains .lowestCost

/-- Order of two groups by the ordering of the plan. -/
def orderGroups (plan : CatalogPlan) (left right : List Record) : Ordering :=
  plan.ordering.foldr (fun (key, direction) rest =>
    let order := (key.cell plan.asksLowest left).order (key.cell plan.asksLowest right)
    (match direction with
      | .ascending => order
      | .descending => order.swap).then rest) .eq

def row (plan : CatalogPlan) (group : List Record) : Row :=
  plan.projection.map fun output => (output.label, (output.cell plan.asksLowest group).json)

/-- The rows of kept records before they are cut off. -/
def allRows (plan : CatalogPlan) (records : List Record) : List Row :=
  (Sorting.sort (fun left right => plan.orderGroups left right != .gt) (plan.groups records)).map
    plan.row

def cut (plan : CatalogPlan) (rows : List Row) : List Row :=
  match plan.limit with
  | some limit => rows.take limit
  | none => rows

/-- The rows that a plan gives over a catalog. -/
def rows (plan : CatalogPlan) (catalog : Catalog) : Except QueryError (List Row) :=
  match plan.kept catalog with
  | .error error => .error error
  | .ok records => .ok (plan.cut (plan.allRows records))

end Plan
end FeedDesk
