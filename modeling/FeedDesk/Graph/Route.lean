import FeedDesk.Graph.Selection
import FeedDesk.Json.Written
import FeedDesk.Net.Url

namespace FeedDesk
namespace Graph

/-!
The routes of the graph service. The root page is a playground for people, and `/graphql` answers
selections that are posted as JSON or stand in the query of the address. A body that is no request
is a bad one, an unknown path is not found, and a method that a known path does not take is an
error of the service.
-/

structure Request where
  method : Text
  path : Text
  body : Text

/-- What a request is answered with. -/
inductive Reply
  | playground
  | data (value : Json)
  | badRequest
  | notFound
  | serverError

namespace Reply

def status : Reply → Nat
  | playground => 200
  | data _ => 200
  | badRequest => 400
  | notFound => 404
  | serverError => 500

end Reply

/-- The path without a query and without a closing slash behind a name. -/
def plainPath (path : Text) : Text :=
  let path := path.takeWhile (· != '?')
  if path = "/graphql/" then "/graphql" else path

/-- The answer to selections in text, and the session after it. -/
def selected {State : Type} (desk : Desk State) (session : Session State) (query : Text) :
    Reply × Session State :=
  match (Selection.ofText? query).bind (answers desk session) with
  | some (members, session) => (.data (.object [("data", .object members)]), session)
  | none => (.data (.object [("data", .null)]), session)

/-- The selections in the body of a posted request. -/
def postedQuery? (body : Text) : Option Text :=
  (Json.ofText body).bind fun value => (value.member? "query").bind Json.text?

/-- The selections in the query of an address. -/
def addressQuery? (path : Text) : Option Text :=
  (Text.cut? "?" path).map fun (_, query) => (Url.queryValue? "query" query).getD []

/-- The answer to a request, and the session after it. -/
def route {State : Type} (desk : Desk State) (session : Session State) (request : Request) :
    Reply × Session State :=
  let path := plainPath request.path
  if path = "/" then
    (if request.method = "GET" then .playground else .serverError, session)
  else if path = "/graphql" then
    if request.method = "POST" then
      match postedQuery? request.body with
      | some query => selected desk session query
      | none => (.badRequest, session)
    else if request.method = "GET" then
      match addressQuery? request.path with
      | some query => selected desk session query
      | none => (.serverError, session)
    else (.serverError, session)
  else (.notFound, session)

end Graph
end FeedDesk
