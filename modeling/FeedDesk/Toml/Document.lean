import FeedDesk.Toml.Scalar
import FeedDesk.Toml.Tables

namespace FeedDesk
namespace Toml

/-!
Reading a configuration. It consists of lines, each of which gives a value to a dotted key or
names the table to which the following keys belong. Comments reach to the end of their line. A
list may stretch over several lines, a table between braces may not.
-/

def isKeyChar (char : Char) : Bool :=
  Text.isAsciiAlphanumeric char || char == '_' || char == '-'

/-- One name of a key, and what follows it. -/
def name? (text : Text) : Option (Text × Text) :=
  match text.takeWhile isKeyChar with
  | [] => line? text
  | name => some (name, text.dropWhile isKeyChar)

/-- The names of a dotted key, and what follows it. Blanks may stand around the names. -/
def key? : (fuel : Nat) → Text → Option (List Text × Text)
  | 0, _ => none
  | fuel + 1, text => do
    let (name, rest) ← name? (text.dropWhile isBlank)
    match rest.dropWhile isBlank with
    | '.' :: rest =>
      let (names, rest) ← key? fuel rest
      return (name :: names, rest)
    | rest => return ([name], rest)

/-- A comment at the front of a text is passed over. -/
def skipComment : Text → Text
  | '#' :: rest => rest.dropWhile isPlain
  | text => text

/-- Blanks, comments and line ends are passed over. -/
def skipSpace : (fuel : Nat) → Text → Text
  | 0, text => text
  | fuel + 1, text =>
    let text := skipComment (text.dropWhile isBlank)
    match newline? text with
    | some rest => skipSpace fuel rest
    | none => text

mutual

/-- A value at the front of a text, and what follows it. -/
def value? : (fuel : Nat) → Text → Option (Toml × Text)
  | 0, _ => none
  | fuel + 1, text =>
    match text with
    | '[' :: rest => (items? fuel rest).map fun (items, rest) => (array items, rest)
    | '\x7b' :: rest =>
      match rest.dropWhile isBlank with
      | '\x7d' :: rest => some (table [], rest)
      | rest => (members? fuel [] rest).map fun (nodes, rest) => (table (membersOf nodes), rest)
    | text => (quoted? text).map (fun (value, rest) => (string value, rest)) <|> scalar? text

/-- Items up to the closing bracket; the last one may be followed by a comma. -/
def items? : (fuel : Nat) → Text → Option (List Toml × Text)
  | 0, _ => none
  | fuel + 1, text =>
    match skipSpace text.length text with
    | ']' :: rest => some ([], rest)
    | text => do
      let (item, rest) ← value? fuel text
      match skipSpace rest.length rest with
      | ',' :: rest =>
        let (items, rest) ← items? fuel rest
        return (item :: items, rest)
      | ']' :: rest => return ([item], rest)
      | _ => none

/-- Members up to the closing brace. -/
def members? : (fuel : Nat) → Nodes → Text → Option (Nodes × Text)
  | 0, _, _ => none
  | fuel + 1, nodes, text => do
    let (path, rest) ← key? text.length text
    let rest ← Text.strip? "=" rest
    let (value, rest) ← value? fuel (rest.dropWhile isBlank)
    let nodes ← assign? value path nodes
    match rest.dropWhile isBlank with
    | ',' :: rest => members? fuel nodes rest
    | '\x7d' :: rest => return (nodes, rest)
    | _ => none

end

/-- What is on a line before its comment, and what follows it. An empty line holds nothing. -/
def content? (text : Text) : Option (List Line × Text) :=
  match text with
  | [] => some ([], [])
  | '[' :: '[' :: rest => do
    let (path, rest) ← key? rest.length rest
    let rest ← Text.strip? "]]" rest
    return ([.element path], rest)
  | '[' :: rest => do
    let (path, rest) ← key? rest.length rest
    let rest ← Text.strip? "]" rest
    return ([.header path], rest)
  | char :: rest =>
    if char = '#' ∨ (newline? (char :: rest)).isSome then some ([], char :: rest)
    else do
      let (path, rest) ← key? (char :: rest).length (char :: rest)
      let rest ← Text.strip? "=" rest
      let (value, rest) ← value? (rest.length + 1) (rest.dropWhile isBlank)
      return ([.assignment path value], rest)

def lines? : (fuel : Nat) → Text → Option (List Line)
  | _, [] => some []
  | 0, _ => none
  | fuel + 1, text => do
    let (found, rest) ← content? (text.dropWhile isBlank)
    match skipComment (rest.dropWhile isBlank) with
    | [] => return found
    | rest =>
      let rest ← newline? rest
      let lines ← lines? fuel rest
      return found ++ lines

/-- The text without the mark of byte order that may begin it. -/
def withoutMark : Text → Text
  | '\ufeff' :: text => text
  | text => text

/-- The table that a text describes. -/
def ofText? (text : Text) : Option Toml :=
  let text := withoutMark text
  (lines? text.length text).bind ofLines?

end Toml
end FeedDesk
