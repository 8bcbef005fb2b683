import FeedDesk.Graph.Field

namespace FeedDesk
namespace Graph

/-!
Selections: the names of the root fields that are asked for, each with the names that are wanted of
its value. Fields with arguments are asked for in other ways; here a field has none.
-/

inductive Selection
  | field (name : Text) (inner : List Selection)

inductive SelectionToken
  | name (text : Text)
  | opening
  | closing
  deriving DecidableEq

def isNamePart (char : Char) : Bool :=
  Text.isAsciiAlphanumeric char || char == '_'

/-- The tokens of a text; commas and blanks only separate. -/
def tokens? : (fuel : Nat) → Text → Option (List SelectionToken)
  | _, [] => some []
  | 0, _ => none
  | fuel + 1, '\x7b' :: text => (tokens? fuel text).map (.opening :: ·)
  | fuel + 1, '\x7d' :: text => (tokens? fuel text).map (.closing :: ·)
  | fuel + 1, char :: text =>
    if char == ' ' || char == '\n' || char == '\r' || char == '\t' || char == ',' then
      tokens? fuel text
    else if isNamePart char && !Text.isAsciiDigit char then
      let name := char :: text.takeWhile isNamePart
      (tokens? fuel (text.dropWhile isNamePart)).map (.name name :: ·)
    else none

/-- Selections up to the closing brace, and what follows it. -/
def selections? : (fuel : Nat) → List SelectionToken → Option (List Selection × List SelectionToken)
  | 0, _ => none
  | _, [] => none
  | _, .closing :: tokens => some ([], tokens)
  | _, .opening :: _ => none
  | fuel + 1, .name name :: .opening :: tokens => do
    let (inner, tokens) ← selections? fuel tokens
    let (others, tokens) ← selections? fuel tokens
    return (.field name inner :: others, tokens)
  | fuel + 1, .name name :: tokens => do
    let (others, tokens) ← selections? fuel tokens
    return (.field name [] :: others, tokens)

/-- What stands before the selections: nothing, or the word `query` and perhaps a name. -/
def withoutIntroduction : List SelectionToken → List SelectionToken
  | .name word :: .name name :: tokens =>
    if word = "query" then tokens else .name word :: .name name :: tokens
  | .name word :: tokens => if word = "query" then tokens else .name word :: tokens
  | tokens => tokens

namespace Selection

def ofText? (text : Text) : Option (List Selection) := do
  let tokens ← tokens? text.length text
  match withoutIntroduction tokens with
  | .opening :: tokens =>
    match ← selections? (tokens.length + 1) tokens with
    | (selections, []) => some selections
    | _ => none
  | _ => none

def name : Selection → Text
  | field name _ => name

/-- The root field of a selection. -/
def root? (selection : Selection) : Option Field :=
  let name := selection.name
  if name = "stats" then some .stats
  else if name = "countries" then some .countries
  else if name = "suppliers" then some (.suppliers none)
  else if name = "productTypes" then some .productTypes
  else if name = "searchProducts" then some (.searchProducts {})
  else if name = "health" then some .health
  else if name = "examples" then some .examples
  else none

/-- The part of a value that is selected; without selections it is the whole value. -/
def part : (fuel : Nat) → List Selection → Json → Json
  | 0, _, value => value
  | _, [], value => value
  | fuel + 1, selections, .array items => .array (items.map (part fuel selections))
  | fuel + 1, selections, .object members =>
    .object (selections.filterMap fun
      | field name inner => (members.lookup name).map fun value => (name, part fuel inner value))
  | _, _, value => value

end Selection

/-- The members of the answer to selections. -/
def answers {State : Type} (desk : Desk State) (session : Session State) :
    List Selection → Option (List (Text × Json) × Session State)
  | [] => some ([], session)
  | .field name inner :: selections =>
    match (Selection.field name inner).root? with
    | none => none
    | some field =>
      match resolve desk session field with
      | (.error _, _) => none
      | (.ok value, session) =>
        (answers desk session selections).map fun (members, session) =>
          ((name, Selection.part 8 inner value) :: members, session)

end Graph
end FeedDesk
