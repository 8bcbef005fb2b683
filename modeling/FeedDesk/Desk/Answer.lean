import FeedDesk.Desk.Basic
import FeedDesk.Question.Synthesis
import FeedDesk.Report.Basic

namespace FeedDesk

/-!
The answer to a question. The question is brought into English wording and synthesised into a
plan; a suggestion of the oracle takes the place of the plan but not of the purpose. The answer
tells what was put to the store, and either reports the rows or says why there are none. The
language of the answer may be forced; the wording follows the language of the question.
-/

/-- What is put to the store for a question, and how the answer is headed and explained. -/
structure Approach where
  query : Query
  heading : Text
  explanation : Text

namespace Approach

def ofSynthesis (synthesis : Synthesis) : Approach where
  query := .planned synthesis.plan
  heading := synthesis.intent.heading
  explanation := synthesis.explanation

/-- A suggestion with a blank template is headed like the plan it replaces. -/
def ofSuggestion (intent : Intent) (suggestion : Suggestion) : Approach where
  query := .written ⟨suggestion.sql, []⟩
  heading :=
    let template := suggestion.responseTemplate.trim
    if template.isEmpty then intent.heading else template
  explanation := suggestion.explanation

def choose (synthesis : Synthesis) : Option Suggestion → Approach
  | some suggestion => ofSuggestion synthesis.intent suggestion
  | none => ofSynthesis synthesis

end Approach

structure Outcome where
  success : Bool
  response : Text
  /-- The statement that was put to the store, with its parameters. -/
  queryText : Text
  data : List Row
  language : Language
  error : Option Text
  intent : Intent
  /-- The question in its English wording. -/
  normalized : Text
  explanation : Text

namespace Outcome

/-- The outcome of an approach, from what the store made of it. -/
def ofRows (language : Language) (normalized : Text) (intent : Intent) (approach : Approach)
    (rows : Except StoreFailure (List Row)) : Outcome :=
  let queryText := approach.query.statement.shown
  let explanation := approach.explanation
  match rows with
  | .ok data =>
    { success := true, response := Report.render data approach.heading language, queryText, data,
      language, error := none, intent, normalized, explanation }
  | .error failure =>
    let message := failure.error.message
    let response := match failure with
      | .refused _ => Report.databaseError language message
      | .crashed _ => Report.processingError language message
    { success := false, response, queryText, data := [], language, error := some message, intent,
      normalized, explanation }

/-- The outcome as the members of an object. -/
def members (outcome : Outcome) : List (Text × Json) := [
  ("success", .boolean outcome.success), ("response", .string outcome.response),
  ("query_text", .string outcome.queryText),
  ("data", .array (outcome.data.map .object)), ("language", .string outcome.language.code),
  ("error", .ofText? outcome.error), ("intent", .string outcome.intent.name),
  ("normalized_query", .string outcome.normalized),
  ("explanation", .string outcome.explanation)]

end Outcome

namespace Desk

/-- Answers a question, in the forced language if there is one. -/
def ask {State : Type} (desk : Desk State) (session : Session State) (question : Text)
    (forced : Option Language) : Outcome × Session State :=
  let detected := Language.detect question desk.identifier
  let language := forced.getD detected
  let (normalized, translated) :=
    Question.normalize desk.translator session.translated question detected
  let synthesis := Synthesis.ofQuestion normalized (Entities.ofText normalized)
  let (suggestion, prompts) := Oracle.consult desk.oracle session.prompts normalized language
  let approach := Approach.choose synthesis suggestion
  let (rows, state) := desk.store.rows session.state approach.query
  (Outcome.ofRows language normalized synthesis.intent approach rows,
    { state, translated, prompts })

end Desk
end FeedDesk
