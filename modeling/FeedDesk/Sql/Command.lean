import FeedDesk.Catalog.Evaluation
import FeedDesk.Number.Reading
import FeedDesk.Number.Word
import FeedDesk.Sql.Token

namespace FeedDesk
namespace Sql

/-!
The statements that the engine of connections understands as text: selections of literals and
columns from one table under simple conditions, and the statements that begin and end transactions.
Statements that would change tables are recognised by their first word, and everything else is
malformed to it. This is a small part of the language; a full database understands more.
-/

/-- A value of an expression. -/
inductive Datum
  | cell (value : Cell)
  | blob (bytes : List Nat)
  deriving DecidableEq

inductive Expression
  | column (name : Text) (offset : Nat)
  | literal (value : Datum)
  | placeholder (place : Nat)
  /-- The value as a text. -/
  | asText (value : Expression)
  deriving DecidableEq

/-- An expression with the name of its column in the result. -/
structure Item where
  expression : Expression
  label : Option Text
  deriving DecidableEq

inductive Condition
  | equal (left right : Expression)
  | known (value : Expression)
  | unknown (value : Expression)
  deriving DecidableEq

structure Selection where
  distinct : Bool
  items : List Item
  table : Option Text
  conditions : List Condition
  deriving DecidableEq

/-- What begins, ends or marks a transaction. -/
inductive Control
  | begin
  | commit
  | rollback
  | savepoint (name : Text)
  | release (name : Text)
  | rollbackTo (name : Text)
  deriving DecidableEq

inductive Command
  | select (selection : Selection)
  | control (control : Control)
  /-- A statement that would change the tables. -/
  | change
  deriving DecidableEq

/-- A word in any case. -/
def Token.isWord (expected : Text) : Token → Bool
  | .word text => text.asciiLower == expected
  | _ => false

/-- Takes a value from the front of the tokens and leaves the others. -/
abbrev Taking (α : Type) := List Placed → Option (α × List Placed)

def keywords : List Text :=
  ["select", "distinct", "from", "where", "and", "as", "is", "not", "null", "cast"]

def isKeyword (text : Text) : Bool :=
  keywords.contains text.asciiLower

/-- A number as a value: an integer where it fits signed 64 bits, else a double. -/
def numberValue (negative : Bool) (text : Text) : Cell :=
  if text.all Text.isAsciiDigit then
    let value := Text.digitsValue text
    let number : Int := if negative then -(value : Int) else value
    if -(signedLimit : Int) ≤ number ∧ number < signedLimit then .integer number
    else .real (Binary64.ofDecimal negative value 0)
  else
    match Binary64.ofUnsigned? negative text with
    | some value => .real value
    | none => .null

/-- An expression; a cast holds one of less depth. -/
def expression? : (depth : Nat) → Taking Expression
  | _, ⟨_, .quoted text⟩ :: tokens => some (.literal (.cell (.text text)), tokens)
  | _, ⟨_, .blob bytes⟩ :: tokens => some (.literal (.blob bytes), tokens)
  | _, ⟨_, .number text⟩ :: tokens => some (.literal (.cell (numberValue false text)), tokens)
  | _, ⟨_, .symbol '-'⟩ :: ⟨_, .number text⟩ :: tokens =>
    some (.literal (.cell (numberValue true text)), tokens)
  | _, ⟨_, .placeholder place⟩ :: tokens => some (.placeholder place, tokens)
  | depth, ⟨offset, .word text⟩ :: tokens =>
    if text.asciiLower = "null" then some (.literal (.cell .null), tokens)
    else if text.asciiLower = "cast" then
      match depth, tokens with
      | depth + 1, ⟨_, .symbol '('⟩ :: tokens =>
        match expression? depth tokens with
        | some (value, ⟨_, as⟩ :: ⟨_, type⟩ :: ⟨_, .symbol ')'⟩ :: tokens) =>
          if as.isWord "as" && type.isWord "text" then some (.asText value, tokens) else none
        | _ => none
      | _, _ => none
    else if isKeyword text then none
    else some (.column text offset, tokens)
  | _, _ => none

/-- An expression with the name that may be given to it. -/
def item? (tokens : List Placed) : Option (Item × List Placed) := do
  let (expression, rest) ← expression? tokens.length tokens
  match rest with
  | ⟨_, as⟩ :: ⟨_, .word name⟩ :: rest' =>
    if as.isWord "as" then return (⟨expression, some name⟩, rest')
    else return (⟨expression, none⟩, rest)
  | rest => return (⟨expression, none⟩, rest)

/-- Items with commas between them. -/
def items? : (fuel : Nat) → Taking (List Item)
  | 0, _ => none
  | fuel + 1, tokens => do
    let (item, rest) ← item? tokens
    match rest with
    | ⟨_, .symbol ','⟩ :: rest =>
      let (items, rest) ← items? fuel rest
      return (item :: items, rest)
    | rest => return ([item], rest)

def condition? (tokens : List Placed) : Option (Condition × List Placed) := do
  let (left, rest) ← expression? tokens.length tokens
  match rest with
  | ⟨_, .symbol '='⟩ :: rest =>
    let (right, rest) ← expression? rest.length rest
    return (.equal left right, rest)
  | ⟨_, .word first⟩ :: ⟨_, .word second⟩ :: rest =>
    if first.asciiLower = "is" ∧ second.asciiLower = "null" then return (.unknown left, rest)
    else match rest with
      | ⟨_, .word third⟩ :: rest =>
        if first.asciiLower = "is" ∧ second.asciiLower = "not" ∧ third.asciiLower = "null" then
          return (.known left, rest)
        else none
      | _ => none
  | _ => none

/-- Conditions with `AND` between them. -/
def conditions? : (fuel : Nat) → Taking (List Condition)
  | 0, _ => none
  | fuel + 1, tokens => do
    let (condition, rest) ← condition? tokens
    match rest with
    | ⟨offset, token⟩ :: rest =>
      if token.isWord "and" then
        let (conditions, rest) ← conditions? fuel rest
        return (condition :: conditions, rest)
      else return ([condition], ⟨offset, token⟩ :: rest)
    | [] => return ([condition], [])

/-- What stands behind the items of a selection. -/
def tail? : List Placed → Option (Option Text × List Condition × List Placed)
  | ⟨offset, first⟩ :: ⟨_, .word table⟩ :: rest =>
    if first.isWord "from" then
      match rest with
      | ⟨offset, token⟩ :: rest =>
        if token.isWord "where" then
          (conditions? rest.length rest).map fun (conditions, rest) =>
            (some table, conditions, rest)
        else some (some table, [], ⟨offset, token⟩ :: rest)
      | [] => some (some table, [], [])
    else some (none, [], ⟨offset, first⟩ :: ⟨offset, .word table⟩ :: rest)
  | rest => some (none, [], rest)

/-- A selection after its first word. -/
def selection? (tokens : List Placed) : Option (Selection × List Placed) := do
  let (distinct, tokens) := match tokens with
    | ⟨offset, token⟩ :: rest =>
      if token.isWord "distinct" then (true, rest) else (false, ⟨offset, token⟩ :: rest)
    | [] => (false, [])
  let (items, rest) ← items? tokens.length tokens
  let (table, conditions, rest) ← tail? rest
  return (⟨distinct, items, table, conditions⟩, rest)

/-- The words with which statements that change tables begin. -/
def changingWords : List Text :=
  ["delete", "insert", "update", "replace", "create", "drop", "alter", "reindex", "vacuum"]

/-- What follows an expected word, in any case. -/
def pass? (expected : Text) : List Text → Option (List Text)
  | word :: words => if word.asciiLower = expected then some words else none
  | [] => none

/-- Passes over a word that may be left out. -/
def skip (expected : Text) (words : List Text) : List Text :=
  (pass? expected words).getD words

/-- Nothing, or the word `TRANSACTION` and perhaps a name, which means nothing. -/
def isTransactionTail (words : List Text) : Bool :=
  words.isEmpty || (pass? "transaction" words).any fun names => names.length ≤ 1

/-- The one name that is left. -/
def lastName? : List Text → Option Text
  | [name] => some name
  | _ => none

/-- A statement that begins or ends a transaction. Some ways to begin one take a lock that only
changes need, and count as changes. -/
def control? : List Text → Option Command
  | [] => none
  | verb :: words =>
    let verb := Text.asciiLower verb
    if verb = "begin" then
      if isTransactionTail (skip "deferred" words) then some (.control .begin)
      else if isTransactionTail (skip "immediate" (skip "exclusive" words)) then some .change
      else none
    else if verb = "commit" ∨ verb = "end" then
      if isTransactionTail words then some (.control .commit) else none
    else if verb = "rollback" then
      if isTransactionTail words then some (.control .rollback)
      else
        (pass? "to" (skip "transaction" words)).bind fun names =>
          (lastName? names <|> (pass? "savepoint" names).bind lastName?).map fun name =>
            .control (.rollbackTo name)
    else if verb = "savepoint" then (lastName? words).map fun name => .control (.savepoint name)
    else if verb = "release" then
      (lastName? words <|> (pass? "savepoint" words).bind lastName?).map fun name =>
        .control (.release name)
    else none

/-- The words of tokens that are nothing but words. -/
def words? : List Placed → Option (List Text)
  | [] => some []
  | ⟨_, .word text⟩ :: tokens => (words? tokens).map (text :: ·)
  | _ :: _ => none

/-- Tokens without the semicolons that end them. -/
def withoutEnd (tokens : List Placed) : List Placed :=
  (tokens.reverse.dropWhile fun placed => placed.token == .symbol ';').reverse

namespace Command

def ofTokens? (tokens : List Placed) : Option Command :=
  match tokens with
  | ⟨_, .word first⟩ :: rest =>
    if first.asciiLower = "select" then
      match selection? rest with
      | some (selection, []) => some (.select selection)
      | _ => none
    else if changingWords.contains first.asciiLower then some .change
    else (words? tokens).bind control?
  | _ => none

/-- Reads a statement. -/
def ofText (text : Text) : Except QueryError Command :=
  match ((Token.ofText? text).map withoutEnd).bind ofTokens? with
  | some command => .ok command
  | none => .error .malformed

end Command
end Sql
end FeedDesk
