import FeedDesk.Number.Decimal

namespace FeedDesk

/-!
JSON values as the desk holds them. Whole numbers within 64 bits are integers and all other
numbers are doubles; an object keeps its members in the order they were written. The compact
text and the indented text of a value are given here, reading is in the modules beside this one.
-/

inductive Json
  | null
  | boolean (value : Bool)
  | integer (value : Int)
  | real (value : Binary64)
  | string (value : Text)
  | array (items : List Json)
  | object (members : List (Text × Json))
  deriving Inhabited

/-- Rows of a result: column names with values, in select order. -/
abbrev Row := List (Text × Json)

namespace Json

/-- Four hexadecimal digits in lower case. -/
def hexText (code : Nat) : Text :=
  [code / 4096 % 16, code / 256 % 16, code / 16 % 16, code % 16].map Nat.digitChar

/-- How a character stands inside a quoted text. -/
def escapeChar (char : Char) : Text :=
  match char with
  | '"' => ['\\', '"']
  | '\\' => ['\\', '\\']
  | '\n' => ['\\', 'n']
  | '\r' => ['\\', 'r']
  | '\t' => ['\\', 't']
  | '\x08' => ['\\', 'b']
  | '\x0c' => ['\\', 'f']
  | char => if char.toNat < 0x20 then '\\' :: 'u' :: hexText char.toNat else [char]

def quoted (text : Text) : Text :=
  '"' :: (text.flatMap escapeChar ++ ['"'])

/-- A value outside the numbers has no JSON writing and stands as `null`. -/
def realText (value : Binary64) : Text :=
  if value.isFinite then value.jsonText else "null"

mutual

/-- The text without any blank. -/
def compact : Json → Text
  | null => "null"
  | boolean value => if value then "true" else "false"
  | integer value => Text.ofInt value
  | real value => realText value
  | string value => quoted value
  | array items => '[' :: (compactItems items ++ [']'])
  | object members => '\x7b' :: (compactMembers members ++ ['\x7d'])

def compactItems : List Json → Text
  | [] => []
  | [item] => compact item
  | item :: next :: items => compact item ++ ',' :: compactItems (next :: items)

def compactMembers : List (Text × Json) → Text
  | [] => []
  | [(name, value)] => quoted name ++ ':' :: compact value
  | (name, value) :: next :: members =>
    quoted name ++ ':' :: compact value ++ ',' :: compactMembers (next :: members)

end

def newline (depth : Nat) : Text :=
  '\n' :: List.replicate (2 * depth) ' '

mutual

/-- The text with one item or member a line, two blanks for each level. -/
def indented (depth : Nat) : Json → Text
  | null => "null"
  | boolean value => if value then "true" else "false"
  | integer value => Text.ofInt value
  | real value => realText value
  | string value => quoted value
  | array [] => "[]"
  | array (item :: items) =>
    '[' :: (indentedItems (depth + 1) (item :: items) ++ newline depth ++ [']'])
  | object [] => ['\x7b', '\x7d']
  | object (member :: members) =>
    '\x7b' :: (indentedMembers (depth + 1) (member :: members) ++ newline depth ++ ['\x7d'])

def indentedItems (depth : Nat) : List Json → Text
  | [] => []
  | [item] => newline depth ++ indented depth item
  | item :: next :: items =>
    newline depth ++ indented depth item ++ ',' :: indentedItems depth (next :: items)

def indentedMembers (depth : Nat) : List (Text × Json) → Text
  | [] => []
  | [(name, value)] => newline depth ++ quoted name ++ ": " ++ indented depth value
  | (name, value) :: next :: members =>
    newline depth ++ quoted name ++ ": " ++ indented depth value ++
      ',' :: indentedMembers depth (next :: members)

end

/-- The value of a member; of several with one name, the last. -/
def member? (name : Text) : Json → Option Json
  | object members => (members.reverse.find? fun entry => entry.1 == name).map (·.2)
  | _ => none

def text? : Json → Option Text
  | string value => some value
  | _ => none

def integer? : Json → Option Int
  | integer value => some value
  | _ => none

/-- The number as a double. -/
def real? : Json → Option Binary64
  | integer value => some (Binary64.ofInt value)
  | real value => some value
  | _ => none

def boolean? : Json → Option Bool
  | boolean value => some value
  | _ => none

def array? : Json → Option (List Json)
  | array items => some items
  | _ => none

def ofText? : Option Text → Json
  | some value => string value
  | none => null

def ofReal? : Option Binary64 → Json
  | some value => real value
  | none => null

def ofNat (value : Nat) : Json := integer value

end Json

namespace Row

/-- The value of a column; of several with one name, the last. -/
def value? (row : Row) (column : Text) : Option Json :=
  (row.reverse.find? fun entry => entry.1 == column).map (·.2)

end Row
end FeedDesk
