import FeedDesk.Json.Record
import FeedDesk.Oracle.Consultation

namespace FeedDesk
namespace Remote

/-!
An oracle on the network. A prompt is posted as a chat of two messages to a named model, and the
answer is one more message. The answer counts when its status tells success and its body has all
that such an answer must have.
-/

namespace Chat

open Json.Written

def path : Text := "/api/chat"

def messageJson (role content : Text) : Json :=
  .object [("role", .string role), ("content", .string content), ("tool_calls", .array []),
    ("thinking", .null)]

def requestBody (model : Text) (prompt : Prompt) : Json :=
  .object [("model", .string model),
    ("messages", .array [messageJson "system" prompt.system, messageJson "user" prompt.user]),
    ("stream", .boolean false)]

def isRole (text : Text) : Bool :=
  (["user", "assistant", "system", "tool"] : List String).any fun role => text == role.toList

/-- The name and the arguments of a tool are there. -/
def toolCall? (value : Json.Written) : Option Unit := do
  match ← slots? [["function"]] value with
  | [function] => function.required fun value => do
    match ← slots? [["name"], ["arguments"]] value with
    | [name, arguments] =>
      let _ ← name.required asText
      let _ ← arguments.required taken?
      return ()
    | _ => none
  | _ => none

/-- The content of a message that has all it must have. -/
def content? (value : Json.Written) : Option Text := do
  match ← slots? [["role"], ["content"], ["tool_calls"], ["images"], ["thinking"]] value with
  | [role, content, toolCalls, images, thinking] =>
    let role ← role.required asText
    let content ← content.required asText
    let _ ← toolCalls.defaulted [] (listOf toolCall?)
    let _ ← images.optional (listOf asText)
    let _ ← thinking.optional asText
    if isRole role then return content else none
  | _ => none

/-- The members that are not among the known ones hold values that can be taken. -/
def othersTaken (known : List Text) (members : List (List Json.Piece × Json.Written)) : Bool :=
  members.all fun (name, value) =>
    (chars? name).any fun name => known.contains name || (taken? value).isSome

/-- The content of the message in the body of an answer. -/
def text? (body : Text) : Option Text := do
  match ← Json.Written.ofText? body with
  | .object members =>
    let known : List Text := ["model", "created_at", "message", "done"]
    match ← slots? (known.map fun name => [name]) (.object members) with
    | [model, createdAt, message, done] =>
      let _ ← model.required asText
      let _ ← createdAt.required asText
      let content ← message.required content?
      let _ ← done.required asBoolean
      if othersTaken known members then return content else none
    | _ => none
  | _ => none

/-- Reads an answer from its status and its body. -/
def ofResponse? (status : Nat) (body : Text) : Option Text :=
  if 200 ≤ status ∧ status < 300 then text? body else none

end Chat

end Remote
end FeedDesk
