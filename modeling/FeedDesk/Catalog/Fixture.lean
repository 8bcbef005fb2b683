import FeedDesk.Catalog.Basic
import FeedDesk.Json.Record

namespace FeedDesk

/-!
A fixture is a file of products and feeding rules to be added to a catalog. Only a product's name
and a rule's product code are required. Products and rules are active, and rules eligible, unless
the file says otherwise.
-/

structure ProductRecord where
  name : Text
  code : Option Text := none
  tradeName : Option Text := none
  category : Option Text := none
  cost : Option Binary64 := none
  currency : Option Text := none
  supplier : Option Text := none
  region : Option Text := none
  email : Option Text := none
  phone : Option Text := none
  address : Option Text := none
  isStandard : Bool := false
  createdAt : Option Int := none
  isActive : Bool := true
  deriving DecidableEq

/-- A rule names its product by the product's code. -/
structure RestrictionRecord where
  code : Text
  species : Option Text := none
  sex : Option Text := none
  leastAge : Option Int := none
  greatestAge : Option Int := none
  breedingCycle : Option Text := none
  lactation : Option Text := none
  focus : Option Text := none
  isEligible : Bool := true
  feedCap : Option Binary64 := none
  concentrateCap : Option Binary64 := none
  isActive : Bool := true
  deriving DecidableEq

structure Fixture where
  products : List ProductRecord := []
  restrictions : List RestrictionRecord := []
  deriving DecidableEq

open Json.Written

namespace ProductRecord

def fields : List (List Text) := [["product_name"], ["product_code"], ["name"], ["type"],
  ["cost_per_kg"], ["cost_currency"], ["supplier"], ["supplier_country"], ["supplier_email"],
  ["supplier_phone"], ["supplier_address"], ["is_standard_product"], ["created_at"],
  ["is_active"]]

def ofWritten (value : Json.Written) : Option ProductRecord := do
  match ← slots? fields value with
  | [name, code, tradeName, category, cost, currency, supplier, region, email, phone, address,
      isStandard, createdAt, isActive] =>
    return {
      name := ← name.required asText
      code := ← code.optional asText
      tradeName := ← tradeName.optional asText
      category := ← category.optional asText
      cost := ← cost.optional asReal
      currency := ← currency.optional asText
      supplier := ← supplier.optional asText
      region := ← region.optional asText
      email := ← email.optional asText
      phone := ← phone.optional asText
      address := ← address.optional asText
      isStandard := ← isStandard.defaulted false asBoolean
      createdAt := ← createdAt.optional asInteger
      isActive := ← isActive.defaulted true asBoolean }
  | _ => none

end ProductRecord

namespace RestrictionRecord

def fields : List (List Text) := [["product_code"], ["species"], ["sex"], ["min_age_months"],
  ["max_age_months"], ["breeding_cycle"], ["lactation_cycle"], ["production_focus"],
  ["is_eligible"], ["max_perc_feed"], ["max_perc_conc"], ["is_active"]]

def ofWritten (value : Json.Written) : Option RestrictionRecord := do
  match ← slots? fields value with
  | [code, species, sex, leastAge, greatestAge, breedingCycle, lactation, focus, isEligible,
      feedCap, concentrateCap, isActive] =>
    return {
      code := ← code.required asText
      species := ← species.optional asText
      sex := ← sex.optional asText
      leastAge := ← leastAge.optional asInteger
      greatestAge := ← greatestAge.optional asInteger
      breedingCycle := ← breedingCycle.optional asText
      lactation := ← lactation.optional asText
      focus := ← focus.optional asText
      isEligible := ← isEligible.defaulted true asBoolean
      feedCap := ← feedCap.optional asReal
      concentrateCap := ← concentrateCap.optional asReal
      isActive := ← isActive.defaulted true asBoolean }
  | _ => none

end RestrictionRecord

namespace Fixture

def fields : List (List Text) := [["products"], ["restrictions"]]

def ofWritten (value : Json.Written) : Option Fixture := do
  match ← slots? fields value with
  | [products, restrictions] =>
    return {
      products := ← products.defaulted [] (listOf ProductRecord.ofWritten)
      restrictions := ← restrictions.defaulted [] (listOf RestrictionRecord.ofWritten) }
  | _ => none

/-- Reads the text of a fixture file. -/
def ofText? (text : Text) : Option Fixture :=
  (Json.Written.ofText? text).bind ofWritten

end Fixture
end FeedDesk
