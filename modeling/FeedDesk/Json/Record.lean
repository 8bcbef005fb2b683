import FeedDesk.Json.Written

namespace FeedDesk
namespace Json
namespace Written

/-!
Records with known fields. A record is written as an object, whose unknown members are passed
over and in which no field may be given twice, or as an array of its fields in order. A field may
be required, may be left out for a default, or may be optional: then `null` and a missing member
both mean that it is unknown, but an array may not end before it.
-/

/-- What is found for one field. -/
inductive Slot
  | given (value : Written)
  /-- The object has no such member. -/
  | absent
  /-- The array ends before the field. -/
  | beyond

namespace Slot

def required (read : Written → Option α) : Slot → Option α
  | given value => read value
  | absent => none
  | beyond => none

def defaulted (default : α) (read : Written → Option α) : Slot → Option α
  | given value => read value
  | absent => some default
  | beyond => some default

def optional (read : Written → Option α) : Slot → Option (Option α)
  | given null => some none
  | given value => (read value).map some
  | absent => some none
  | beyond => none

end Slot

/-- Puts a value into the slot of the field that has the name; a second value is refused. -/
def place (name : Text) (value : Written) : List (List Text) → List Slot → Option (List Slot)
  | names :: fields, slot :: slots =>
    if name ∈ names then
      match slot with
      | .given _ => none
      | _ => some (.given value :: slots)
    else (place name value fields slots).map (slot :: ·)
  | _, slots => some slots

def placeMembers (fields : List (List Text)) :
    List (List Piece × Written) → List Slot → Option (List Slot)
  | [], slots => some slots
  | (pieces, value) :: members, slots => do
    let name ← chars? pieces
    let slots ← place name value fields slots
    placeMembers fields members slots

/-- The slots of a record whose fields have the given names, each with its other spellings. -/
def slots? (fields : List (List Text)) : Written → Option (List Slot)
  | array items =>
    if items.length ≤ fields.length then
      some (items.map .given ++ List.replicate (fields.length - items.length) .beyond)
    else none
  | object members => placeMembers fields members (fields.map fun _ => .absent)
  | _ => none

def asText : Written → Option Text
  | string pieces => chars? pieces
  | _ => none

def asBoolean : Written → Option Bool
  | boolean value => some value
  | _ => none

/-- A number of any kind as a double. -/
def asReal : Written → Option Binary64
  | numeral value => value.number?.bind Json.real?
  | _ => none

/-- An integer within signed 64 bits. -/
def asInteger : Written → Option Int
  | numeral value =>
    match value.number? with
    | some (.integer number) => if number < signedLimit then some number else none
    | _ => none
  | _ => none

def listOf (read : Written → Option α) : Written → Option (List α)
  | array items => items.mapM read
  | _ => none

end Written
end Json
end FeedDesk
