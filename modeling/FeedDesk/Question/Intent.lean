import FeedDesk.Text.Basic

namespace FeedDesk

/-!
The purpose of a question. Rules stand in order of priority, and the first one with a trigger in
the lower-cased question claims it; a question that no rule claims is a search. The category of
products named in a question is found in the same way and independently of the purpose.
-/

inductive Intent
  | cheapest
  | average
  | historicalTrend
  | supplierLookup
  | listing
  | restrictionLookup
  | genericSearch
  deriving DecidableEq

namespace Intent

def name : Intent → Text
  | cheapest => "cheapest"
  | average => "average"
  | historicalTrend => "historical_trend"
  | supplierLookup => "supplier_lookup"
  | listing => "listing"
  | restrictionLookup => "restriction_lookup"
  | genericSearch => "generic_search"

/-- The heading of a report, in English. -/
def heading : Intent → Text
  | cheapest => "Cheapest suppliers"
  | average => "Average prices"
  | historicalTrend => "Best time to buy"
  | supplierLookup => "Suppliers"
  | listing => "Products"
  | restrictionLookup => "Restrictions"
  | genericSearch => "Results"

/-- The rules in order of priority, each with its triggers. -/
def rules : List (Intent × List Text) := [
  (cheapest, ["cheapest", "lowest price", "best price", "أرخص", "الأرخص"]),
  (average, ["average", "mean", "متوسط"]),
  (historicalTrend,
    ["best time", "when to buy", "historical", "price trend", "أفضل وقت", "تاريخي"]),
  (supplierLookup, ["who sell", "who is selling", "supplier", "من يبيع", "المورد"]),
  (listing, ["list", "show", "what products", "available", "أظهر", "قائمة"]),
  (restrictionLookup, ["restriction", "limit", "قيود", "حدود"])]

/-- The purpose of a question given in lower case. -/
def classify (lowered : Text) : Intent :=
  match rules.find? fun (_, triggers) =>
      triggers.any fun trigger => Text.contains trigger lowered with
  | some (intent, _) => intent
  | none => genericSearch

end Intent

/-- Categories of products in the catalog. -/
inductive Category
  | fodder
  | concentrate
  | additive
  deriving DecidableEq

namespace Category

def name : Category → Text
  | fodder => "Fodder"
  | concentrate => "Concentrate"
  | additive => "Additive"

def rules : List (Category × List Text) := [
  (fodder, ["fodder", "علف خشن"]),
  (concentrate, ["concentrate", "علف مركز"]),
  (additive, ["additive", "مضاف"])]

/-- The category named in a question given in lower case. -/
def infer? (lowered : Text) : Option Category :=
  (rules.find? fun (_, triggers) => triggers.any fun trigger => Text.contains trigger lowered).map
    (·.1)

end Category
end FeedDesk
