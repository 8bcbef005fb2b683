import FeedDesk.Number.Decimal

namespace FeedDesk

/-!
Values of a configuration: texts, numbers, truth values, lists, and tables of named values. Tables
are laid over each other: where both have a table under a name these are laid over each other in
turn, and otherwise the upper value stands.
-/

inductive Toml
  | string (value : Text)
  | integer (value : Int)
  | real (value : Binary64)
  | boolean (value : Bool)
  /-- A date, a time of day or both. -/
  | moment (written : Text)
  | array (items : List Toml)
  | table (members : List (Text × Toml))
  deriving Inhabited

namespace Toml

/-- Replaces the first entry of a name, or adds one at the end. -/
def putMember {α : Type} (name : Text) (value : α) : List (Text × α) → List (Text × α)
  | [] => [(name, value)]
  | (other, old) :: members =>
    if other = name then (name, value) :: members else (other, old) :: putMember name value members

def members : Toml → List (Text × Toml)
  | table members => members
  | _ => []

def member? (name : Text) (value : Toml) : Option Toml :=
  value.members.lookup name

/-- Sets a member; a value that is no table gives way to one. -/
def put (value : Toml) (name : Text) (member : Toml) : Toml :=
  table (putMember name member value.members)

mutual

/-- The lower value, if there is one, under the upper one. -/
def laidOver (lower : Option Toml) : (upper : Toml) → Toml
  | table members => membersOver (lower.getD (table [])) members
  | value => value

/-- A value with the members of a table laid over it. -/
def membersOver (lower : Toml) : List (Text × Toml) → Toml
  | [] => lower
  | (name, upper) :: members =>
    membersOver (lower.put name (laidOver (lower.member? name) upper)) members

end

/-- The value at the end of a path of names, as tables within tables. -/
def nested (value : Toml) : List Text → Toml
  | [] => value
  | name :: path => table [(name, nested value path)]

end Toml
end FeedDesk
