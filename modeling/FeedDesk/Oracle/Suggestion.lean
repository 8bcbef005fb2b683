import FeedDesk.Json.Record
import FeedDesk.Text.Blank

namespace FeedDesk

/-!
Suggestions of an oracle. A reply may give the suggestion in a fenced block, surround it with
prose, or be nothing else; the places where it may stand are tried in a fixed order, and the first
one that reads as a suggestion decides. A suggestion without a query is of no use.
-/

/-- A query that an oracle proposes, with a sentence about it and a heading for the report. -/
structure Suggestion where
  sql : Text
  explanation : Text
  responseTemplate : Text
  deriving DecidableEq

inductive SuggestionError
  | notFound
  | blankQuery
  deriving DecidableEq

def SuggestionError.message : SuggestionError → Text
  | notFound => "reply holds no suggestion object"
  | blankQuery => "suggestion has no query"

namespace Suggestion

/-- The fields with their other names. -/
def fields : List (List Text) := [["sql", "query"], ["explanation", "rationale"],
  ["response_template"]]

def ofWritten (value : Json.Written) : Option Suggestion := do
  match ← Json.Written.slots? fields value with
  | [sql, explanation, responseTemplate] =>
    return {
      sql := ← sql.required Json.Written.asText
      explanation := ← explanation.defaulted [] Json.Written.asText
      responseTemplate := ← responseTemplate.defaulted [] Json.Written.asText }
  | _ => none

/-- Reads a text that is a suggestion and nothing else. -/
def ofText? (text : Text) : Option Suggestion :=
  (Json.Written.ofText? text).bind ofWritten

def fence : Text := ['\x60', '\x60', '\x60']

/-- The trimmed block between an opening mark and the next fence. -/
def block? (opening reply : Text) : Option Text := do
  let (_, rest) ← Text.cut? opening reply
  let (block, _) ← Text.cut? fence rest
  return block.trim

/-- The part from the first opening brace to the last closing one. -/
def braced? (reply : Text) : Option Text :=
  let fromBrace := reply.dropWhile (· != '\x7b')
  let toBrace := Text.trimEndBy (· != '\x7d') fromBrace
  if toBrace.isEmpty then none else some toBrace

/-- The places of a reply where the suggestion may stand. -/
def candidates (reply : Text) : List Text :=
  (block? (fence ++ "json") reply).toList ++ (block? fence reply).toList ++ [reply.trim] ++
    (braced? reply).toList

/-- The suggestion that a reply holds. -/
def ofReply (reply : Text) : Except SuggestionError Suggestion :=
  match (candidates reply).findSome? ofText? with
  | none => .error .notFound
  | some suggestion =>
    if suggestion.sql.isBlank then .error .blankQuery else .ok suggestion

/-- The suggestion as one line of JSON. -/
def written (suggestion : Suggestion) : Text :=
  Json.compact (.object [
    ("sql", .string suggestion.sql),
    ("explanation", .string suggestion.explanation),
    ("response_template", .string suggestion.responseTemplate)])

end Suggestion
end FeedDesk
