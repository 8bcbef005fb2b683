import FeedDesk.Json.Record
import FeedDesk.Net.Url
import FeedDesk.Question.Normalization

namespace FeedDesk
namespace Remote

/-!
A translator on the network. Requests are posted as JSON to one address, which ends in
`/translate`: a base address that already ends so is taken as it is, and any other gets the ending
after its closing slashes have been taken away. An answer counts when its status is no error and
its body is an object with the translated text.
-/

/-- What a server answers. -/
structure Response where
  status : Nat
  body : Text

/-- Why an answer of a server is of no use. -/
inductive Failure
  | status (code : Nat) (reason url : Text)
  | body
  deriving DecidableEq

namespace Translator

def ending : Text := "/translate"

/-- The address to which requests are posted. -/
def endpoint (base : Text) : Text :=
  if ending.isSuffixOf base then base else Text.trimEndBy (· == '/') base ++ ending

def requestBody (request : TranslatorRequest) : Json :=
  .object [("q", .string request.text), ("source", .string request.source.code),
    ("target", .string request.target.code), ("format", .string "text")]

/-- The translated text in the body of an answer. -/
def text? (body : Text) : Option Text := do
  let value ← Json.Written.ofText? body
  match ← Json.Written.slots? [["translatedText"]] value with
  | [text] => text.required Json.Written.asText
  | _ => none

/-- Reads an answer from the address. The reason is what the server says of its status. -/
def ofResponse (url reason : Text) (response : Response) : Except Failure Text :=
  if 400 ≤ response.status ∧ response.status < 600 then
    .error (.status response.status reason url)
  else
    match text? response.body with
    | some text => .ok text
    | none => .error .body

end Translator

namespace Failure

def message : Failure → Text
  | status code reason url =>
    let side : Text := if code < 500 then "client" else "server"
    "HTTP status " ++ side ++ " error (" ++ Text.ofNat code ++ ' ' :: reason ++ ") for url (" ++
      url ++ ")"
  | body => "unexpected translator response"

end Failure
end Remote
end FeedDesk
