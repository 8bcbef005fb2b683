import FeedDesk.Proofs.Desk.Exchange
import FeedDesk.Proofs.Text.Cutting

namespace FeedDesk

/-!
# Every outcome is coherent

The members of an outcome come from different steps of an answer, and a failing
step replaces some of them.  What they have to do with each other is stated
against the one exchange with the store: its statement is the query text, and
its answer alone decides between a report of the rows and a sentence about the
failure.  The services beside the store are arbitrary here; they may fail, be
silent or give any text.
-/

/-! ## What is put to the store is never empty -/

theorem Plan.sql_ne_nil (plan : WrittenPlan) : plan.sql ≠ [] := by
  unfold sql
  simp only [List.append_assoc]
  exact List.append_ne_nil_of_left_ne_nil (by decide) _

theorem Statement.shown_ne_nil {statement : Statement} (nonempty : statement.sql ≠ []) :
    statement.shown ≠ [] :=
  List.append_ne_nil_of_left_ne_nil nonempty _

namespace StoreFailure

/-- The words in front of the message of a failure. -/
def opening : StoreFailure → Language → Text
  | refused _, .english => "Database error: "
  | refused _, .arabic => "خطأ في قاعدة البيانات: "
  | crashed _, .english => "Error processing query: "
  | crashed _, .arabic => "حدث خطأ: "

end StoreFailure

/-- The members of the outcome fit together, given what passed between desk and
store and the heading that was chosen. -/
structure Outcome.Coherent (outcome : Outcome) (exchange : Exchange) (heading : Text) : Prop where
  purpose : outcome.intent = Intent.classify outcome.normalized.lower
  asked : outcome.queryText = exchange.statement.shown
  nonempty : outcome.queryText ≠ []
  success_iff : outcome.success = true ↔ outcome.error = none
  answered : ∀ rows, exchange.answer = .ok rows →
    outcome.success = true ∧ outcome.data = rows ∧
      outcome.response = Report.render outcome.data heading outcome.language
  failed : ∀ failure, exchange.answer = .error failure →
    outcome.success = false ∧ outcome.data = [] ∧ outcome.error = some failure.error.message ∧
      outcome.response = failure.opening outcome.language ++ failure.error.message

namespace Desk

variable {State : Type} (desk : Desk State) (session : Session State) (question : Text)
  (forced : Option Language)

/-- The heading of a report: the one that is suggested, without the blanks at
its ends, unless nothing would be left of it; else that of the purpose. -/
def heading : Text :=
  let own := (desk.synthesis session question).intent.heading
  match desk.suggestion? session question forced with
  | some suggestion =>
    if suggestion.responseTemplate.isBlank then own else suggestion.responseTemplate.trim
  | none => own

theorem heading_approach :
    (desk.approach session question forced).heading = desk.heading session question forced := by
  unfold approach heading
  cases desk.suggestion? session question forced with
  | none => rfl
  | some suggestion =>
      dsimp only [Approach.choose, Approach.ofSuggestion]
      rw [Text.isEmpty_trim]

theorem sql_approach_ne_nil :
    (desk.approach session question forced).query.statement.sql ≠ [] := by
  unfold approach
  cases suggested : desk.suggestion? session question forced with
  | none => exact Plan.sql_ne_nil _
  | some suggestion =>
      obtain ⟨reply, _, usable⟩ := Option.bind_eq_some_iff.mp suggested
      obtain ⟨text, _, read⟩ := OracleReply.exists_text_of_usable usable
      have solid := Suggestion.isBlank_of_ofReply read
      intro nothing
      change suggestion.sql = [] at nothing
      rw [nothing] at solid
      cases solid

/-- However the services behave, one statement is put to the store, and the
outcome tells of this statement and of what the store made of it: in the
language that is forced or detected, and either with the report of the rows
under the chosen heading or with the sentence about the failure. -/
theorem ask_coherent :
    (desk.ask session question forced).1.language =
        forced.getD (Language.detect question desk.identifier) ∧
      ∃ exchange, desk.exchanges session question forced = [exchange] ∧
        (desk.ask session question forced).1.Coherent exchange (desk.heading session question forced) := by
  have nonempty := Statement.shown_ne_nil (desk.sql_approach_ne_nil session question forced)
  rw [ask_outcome, exchanges_eq, ← heading_approach]
  unfold Outcome.ofRows
  cases desk.answer session question forced with
  | ok rows =>
      refine ⟨rfl, _, rfl, ?_⟩
      exact {
        purpose := rfl
        asked := rfl
        nonempty := nonempty
        success_iff := ⟨fun _ => rfl, fun _ => rfl⟩
        answered := by
          intro found same
          cases same
          exact ⟨rfl, rfl, rfl⟩
        failed := by
          intro failure impossible
          cases impossible }
  | error failure =>
      refine ⟨rfl, _, rfl, ?_⟩
      exact {
        purpose := rfl
        asked := rfl
        nonempty := nonempty
        success_iff := ⟨fun impossible => (nomatch impossible), fun impossible => (nomatch impossible)⟩
        answered := by
          intro rows impossible
          cases impossible
        failed := by
          intro given same
          cases same
          refine ⟨rfl, rfl, rfl, ?_⟩
          dsimp only
          cases failure <;> cases desk.language question forced <;> rfl }

end Desk
end FeedDesk
