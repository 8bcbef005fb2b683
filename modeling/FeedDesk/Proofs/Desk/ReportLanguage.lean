import FeedDesk.Proofs.Desk.Advice
import Mathlib.Data.List.Forall2

namespace FeedDesk

/-!
# The language of a report

A question is asked in one language and may have to be answered in another.
Without an oracle, the language of the answer is used for the report alone: the
wording, the plan and the statement follow from the language of the question,
and a failure is the same in either language.

Two runs with the same questions therefore leave the same session behind, and
this equality is what is carried from one question to the next.
-/

/-- Two outcomes tell of the same finding.  The language and the report are
left open. -/
structure Outcome.SameFinding (outcome other : Outcome) : Prop where
  success : outcome.success = other.success
  queryText : outcome.queryText = other.queryText
  data : outcome.data = other.data
  error : outcome.error = other.error
  intent : outcome.intent = other.intent
  normalized : outcome.normalized = other.normalized
  explanation : outcome.explanation = other.explanation

/-- Rows and failures are found alike, in whatever language they are reported. -/
theorem Outcome.sameFinding_ofRows (language other : Language) (normalized : Text) (intent : Intent)
    (approach : Approach) (rows : Except StoreFailure (List Row)) :
    SameFinding (ofRows language normalized intent approach rows)
      (ofRows other normalized intent approach rows) := by
  cases rows with
  | ok data => exact ⟨rfl, rfl, rfl, rfl, rfl, rfl, rfl⟩
  | error failure => exact ⟨rfl, rfl, rfl, rfl, rfl, rfl, rfl⟩

/-- A question and two languages, each of which may be forced. -/
structure AskedTwice where
  question : Text
  forced : Option Language
  other : Option Language

namespace AskedTwice

def first (asked : AskedTwice) : Text × Option Language :=
  (asked.question, asked.forced)

def second (asked : AskedTwice) : Text × Option Language :=
  (asked.question, asked.other)

end AskedTwice

namespace Desk

variable {State : Type} (desk : Desk State) (session : Session State)

section Question

variable (question : Text) (forced other : Option Language)

/-- A desk that hears nobody chooses its approach from the wording alone. -/
theorem approach_hearing_none :
    (desk.hearing none).approach session question forced =
      .ofSynthesis ((desk.hearing none).synthesis session question) :=
  rfl

/-- The same is put to the store, and the store answers the same. -/
theorem exchanges_hearing_none :
    (desk.hearing none).exchanges session question forced =
      (desk.hearing none).exchanges session question other := by
  rw [exchanges_eq, exchanges_eq, answer, answer, approach_hearing_none, approach_hearing_none]

theorem sameFinding_hearing_none :
    ((desk.hearing none).ask session question forced).1.SameFinding
      ((desk.hearing none).ask session question other).1 := by
  rw [ask_outcome, ask_outcome, answer, answer, approach_hearing_none, approach_hearing_none]
  exact Outcome.sameFinding_ofRows _ _ _ _ _ _

/-- Nothing of the language is left in the session. -/
theorem session_hearing_none :
    ((desk.hearing none).ask session question forced).2 =
      ((desk.hearing none).ask session question other).2 :=
  rfl

end Question

/-- Along a run the findings are the same, question by question. -/
theorem askAll_hearing_none (questions : List AskedTwice) :
    List.Forall₂ Outcome.SameFinding
        ((desk.hearing none).askAll session (questions.map AskedTwice.first)).1
        ((desk.hearing none).askAll session (questions.map AskedTwice.second)).1 ∧
      ((desk.hearing none).askAll session (questions.map AskedTwice.first)).2 =
        ((desk.hearing none).askAll session (questions.map AskedTwice.second)).2 := by
  induction questions generalizing session with
  | nil => exact ⟨.nil, rfl⟩
  | cons asked questions inductionHypothesis =>
      obtain ⟨question, forced, other⟩ := asked
      have finding := desk.sameFinding_hearing_none session question forced other
      have left := desk.session_hearing_none session question forced other
      obtain ⟨later, last⟩ := inductionHypothesis ((desk.hearing none).ask session question other).2
      rw [List.map_cons, List.map_cons, AskedTwice.first, AskedTwice.second, askAll_cons, askAll_cons, left]
      exact ⟨.cons finding later, last⟩

/-- Where no oracle is heard, the language of a report has no influence on what
is found.  For whatever languages are forced, the store is given the same
statement, the outcomes differ in language and report alone, and the same
session is left behind; so it is for a question, and along a run of questions. -/
theorem report_language_unnoticed :
    (∀ question forced other,
      (desk.hearing none).exchanges session question forced =
          (desk.hearing none).exchanges session question other ∧
        ((desk.hearing none).ask session question forced).1.SameFinding
          ((desk.hearing none).ask session question other).1 ∧
        ((desk.hearing none).ask session question forced).2 =
          ((desk.hearing none).ask session question other).2) ∧
      ∀ questions : List AskedTwice,
        List.Forall₂ Outcome.SameFinding
            ((desk.hearing none).askAll session (questions.map AskedTwice.first)).1
            ((desk.hearing none).askAll session (questions.map AskedTwice.second)).1 ∧
          ((desk.hearing none).askAll session (questions.map AskedTwice.first)).2 =
            ((desk.hearing none).askAll session (questions.map AskedTwice.second)).2 := by
  refine ⟨fun question forced other => ⟨?_, ?_, ?_⟩, desk.askAll_hearing_none session⟩
  · exact desk.exchanges_hearing_none session question forced other
  · exact desk.sameFinding_hearing_none session question forced other
  · exact desk.session_hearing_none session question forced other

end Desk
end FeedDesk
