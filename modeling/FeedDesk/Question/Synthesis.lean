import FeedDesk.Plan.Lookup
import FeedDesk.Question.Entities
import FeedDesk.Question.Intent

namespace FeedDesk

/-!
From a question to a plan. The purpose decides the shape of the plan, the product and the region
constrain it, and a sentence says in English what is being looked for.
-/

namespace Synthesis

open Lookup

/-- Constrains a plan to the product and the region that are known. -/
def about (entities : Entities) (plan : CatalogPlan) : CatalogPlan :=
  plan
    |>.filterIf entities.product nameContains
    |>.filterIf entities.region regionIs

def cheapest (entities : Entities) : CatalogPlan :=
  let plan : CatalogPlan := {
    source := .catalog
    projection := [field .name, field .supplier, field .region, field .cost, field .currency,
      field .email, field .phone] }
  about entities plan
    |>.filter isActive
    |>.filter hasSupplier
    |>.orderBy (field .cost) .ascending
    |>.cutAt 10

def average (entities : Entities) : CatalogPlan :=
  let plan : CatalogPlan := {
    source := .catalog
    projection := [field .region, field .currency, .average, .least, .greatest,
      .count .suppliers] }
  about entities plan
    |>.filter isActive
    |>.groupBy [field .region, field .currency]
    |>.orderBy .average .ascending

/-- Historical rows are taken by their marker, whether they are active or not. -/
def historicalTrend (entities : Entities) : CatalogPlan :=
  let plan : CatalogPlan := {
    source := .catalog
    projection := [.month, .average, field .currency, field .region] }
  plan
    |>.filterIf entities.product nameContains
    |>.filter isHistorical
    |>.filterIf entities.region regionIs
    |>.groupBy [.month, field .region, field .currency]
    |>.orderBy .average .ascending
    |>.cutAt 10

/-- One row for each supplier and region, with that supplier's lowest price. -/
def supplierLookup (entities : Entities) : CatalogPlan :=
  let plan : CatalogPlan := {
    source := .catalog
    projection := [field .supplier, field .region, field .email, field .phone, field .name,
      .lowestCost, field .currency] }
  about entities plan
    |>.filter isActive
    |>.filter hasSupplier
    |>.groupBy [field .supplier, field .region]
    |>.orderBy (field .region) .ascending
    |>.orderBy .lowestCost .ascending
    |>.cutAt 15

def listing (category : Option Category) (entities : Entities) : CatalogPlan :=
  let plan : CatalogPlan := {
    source := .catalog
    projection := [field .name, field .category, .average, field .currency] }
  plan
    |>.filterIf category (fun category => .equals (.product .category) category.name)
    |>.filterIf entities.region regionIs
    |>.filter isActive
    |>.groupBy [field .name, field .category, field .currency]
    |>.orderBy (field .category) .ascending
    |>.orderBy (field .name) .ascending
    |>.cutAt 30

def restrictionLookup (entities : Entities) : CatalogPlan :=
  let plan : CatalogPlan := {
    source := .catalogWithRules
    projection := [field .name, field .category] ++
      [RuleColumn.species, .sex, .leastAge, .greatestAge, .feedCap, .concentrateCap, .focus,
        .lactation].map fun column => .plain (.rule column) }
  plan
    |>.filterIf entities.product nameContains
    |>.filter (.flag (.rule .active))
    |>.orderBy (field .name) .ascending
    |>.orderBy (.plain (.rule .species)) .ascending
    |>.cutAt 20

def genericSearch (entities : Entities) : CatalogPlan :=
  let plan : CatalogPlan := {
    source := .catalog
    projection := [field .name, field .category, field .supplier, field .region, field .cost,
      field .currency] }
  about entities plan
    |>.filter isActive
    |>.orderBy (field .name) .ascending
    |>.orderBy (field .cost) .ascending
    |>.cutAt 15

def planFor (intent : Intent) (category : Option Category) (entities : Entities) : CatalogPlan :=
  match intent with
  | .cheapest => cheapest entities
  | .average => average entities
  | .historicalTrend => historicalTrend entities
  | .supplierLookup => supplierLookup entities
  | .listing => listing category entities
  | .restrictionLookup => restrictionLookup entities
  | .genericSearch => genericSearch entities

def explanationFor (intent : Intent) (category : Option Category) (entities : Entities) : Text :=
  match intent with
  | .cheapest => "Finding cheapest suppliers for " ++ entities.subject
  | .average => "Calculating average prices for " ++ entities.subject
  | .historicalTrend => "Finding best time to buy " ++ entities.subject
  | .supplierLookup => "Finding suppliers for " ++ entities.subject
  | .listing =>
    let listed := match category with
      | some category => category.name
      | none => "all"
    "Listing " ++ listed ++ " products"
  | .restrictionLookup => "Finding feeding restrictions for " ++ entities.subject
  | .genericSearch => "General product search"

end Synthesis

/-- The purpose of a question, the plan that serves it, and a sentence about it. -/
structure Synthesis where
  intent : Intent
  plan : CatalogPlan
  explanation : Text

namespace Synthesis

def ofQuestion (question : Text) (entities : Entities) : Synthesis :=
  let lowered := question.lower
  let intent := Intent.classify lowered
  let category := Category.infer? lowered
  { intent
    plan := planFor intent category entities
    explanation := explanationFor intent category entities }

end Synthesis
end FeedDesk
