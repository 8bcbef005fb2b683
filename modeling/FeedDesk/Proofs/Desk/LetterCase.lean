import FeedDesk.Proofs.Catalog.Search
import FeedDesk.Proofs.Desk.Unaided
import FeedDesk.Proofs.Lexicon.LetterCase
import Mathlib.Data.List.Forall2

namespace FeedDesk

open FeedDesk.Language Text

/-!
# The case of a question

Every rule of the desk that reads Latin letters reads them in lower case, and
every rule that reads the question as it stands looks for Arabic.  Each of them
is shown not to notice that basic capitals are lowered: the identifier for
Arabic in Latin letters, the search for products and regions, the purpose of the
question.  The wording differs as the questions did, and after it nothing of the
difference is left but in the wording itself.

An identifier of another kind may tell the cases apart, so the identifiers are
named.
-/

/-- Two outcomes give the same answer; the wordings differ at most in the case
of basic letters. -/
structure Outcome.SameAnswer (outcome other : Outcome) : Prop where
  success : outcome.success = other.success
  response : outcome.response = other.response
  queryText : outcome.queryText = other.queryText
  data : outcome.data = other.data
  language : outcome.language = other.language
  error : outcome.error = other.error
  intent : outcome.intent = other.intent
  explanation : outcome.explanation = other.explanation
  normalized : SameButForCase outcome.normalized other.normalized

theorem Outcome.sameAnswer_ofRows (language : Language) {normalized other : Text}
    (same : SameButForCase normalized other) (intent : Intent) (approach : Approach)
    (rows : Except StoreFailure (List Row)) :
    SameAnswer (ofRows language normalized intent approach rows)
      (ofRows language other intent approach rows) := by
  cases rows with
  | ok data => exact ⟨rfl, rfl, rfl, rfl, rfl, rfl, rfl, rfl, same⟩
  | error failure => exact ⟨rfl, rfl, rfl, rfl, rfl, rfl, rfl, rfl, same⟩

/-- Two questions that differ at most in the case of basic letters, asked with
the same forced language. -/
def AskedAlike (asked other : Text × Option Language) : Prop :=
  SameButForCase asked.1 other.1 ∧ asked.2 = other.2

instance (asked other : Text × Option Language) : Decidable (AskedAlike asked other) :=
  inferInstanceAs (Decidable (_ ∧ _))

/-! ## The rules of the desk -/

theorem Language.Arabizi.identify_asciiLower (text : Text) : identify text.asciiLower = identify text := by
  unfold identify tokens
  rw [lower_asciiLower]

/-- An identifier that reads Arabic in Latin letters, or no identifier at all. -/
def Language.LatinOrNone (identifier : Option Identifier) : Prop :=
  identifier = none ∨ identifier = some .arabizi

theorem Language.detect_asciiLower {identifier : Option Identifier} (known : LatinOrNone identifier)
    (text : Text) : detect text.asciiLower identifier = detect text identifier := by
  unfold detect
  rw [any_asciiLower caseBlind_isArabicChar]
  rcases known with rfl | rfl
  · rfl
  · simp only [Identifier.arabizi, Arabizi.identify_asciiLower]

theorem Question.reworded_sameButForCase {left right : Text} (same : SameButForCase left right)
    (language : Language) : SameButForCase (reworded left language) (reworded right language) := by
  cases language with
  | english => exact same
  | arabic => exact Lexicon.apply_sameButForCase same

theorem Entities.ofText_asciiLower (text : Text) : ofText text.asciiLower = ofText text := by
  unfold ofText product? region?
  rw [lower_asciiLower, Vocabulary.mentioned?_asciiLower Lexicon.products_bilingual,
    Vocabulary.mentioned?_asciiLower Lexicon.regions_bilingual]

theorem Synthesis.ofQuestion_asciiLower (text : Text) :
    ofQuestion text.asciiLower (Entities.ofText text.asciiLower) = ofQuestion text (Entities.ofText text) := by
  unfold ofQuestion
  rw [lower_asciiLower, Entities.ofText_asciiLower]

/-! ## The answers -/

namespace Desk

variable {State : Type} (desk : Desk State) (session : Session State)

/-- From wordings that differ in case the same is found. -/
theorem found_sameAnswer (language : Language) {wording other : Text} (same : SameButForCase wording other) :
    (desk.found session language wording).1.SameAnswer (desk.found session language other).1 ∧
      (desk.found session language wording).2 = (desk.found session language other).2 := by
  have synthesis : Synthesis.ofQuestion wording (Entities.ofText wording) =
      Synthesis.ofQuestion other (Entities.ofText other) :=
    same.congr (fun text => Synthesis.ofQuestion text (Entities.ofText text)) Synthesis.ofQuestion_asciiLower
  unfold found
  rw [synthesis]
  exact ⟨Outcome.sameAnswer_ofRows language same _ _ _, rfl⟩

variable {identifier : Option Identifier} (known : LatinOrNone identifier)

include known

theorem ask_sameAnswer {question other : Text} (same : SameButForCase question other)
    (forced : Option Language) :
    ((desk.unaided identifier).ask session question forced).1.SameAnswer
        ((desk.unaided identifier).ask session other forced).1 ∧
      ((desk.unaided identifier).ask session question forced).2 =
        ((desk.unaided identifier).ask session other forced).2 := by
  have detected : detect question identifier = detect other identifier :=
    same.congr (fun text => detect text identifier) (detect_asciiLower known)
  rw [ask_unaided, ask_unaided, detected]
  exact desk.found_sameAnswer session _ (Question.reworded_sameButForCase same _)

/-- Letter case never changes an answer.  At a desk without a translator and an
oracle, and with no identifier or the one for Arabic in Latin letters, questions
that differ in the case of basic letters have outcomes that are equal but for
the case of their wordings, and leave the same session behind.  So it is for a
question, and along a run of questions. -/
theorem letter_case_unnoticed :
    (∀ {question other : Text}, SameButForCase question other → ∀ forced,
      ((desk.unaided identifier).ask session question forced).1.SameAnswer
          ((desk.unaided identifier).ask session other forced).1 ∧
        ((desk.unaided identifier).ask session question forced).2 =
          ((desk.unaided identifier).ask session other forced).2) ∧
      ∀ {questions others : List (Text × Option Language)}, List.Forall₂ AskedAlike questions others →
        List.Forall₂ Outcome.SameAnswer ((desk.unaided identifier).askAll session questions).1
            ((desk.unaided identifier).askAll session others).1 ∧
          ((desk.unaided identifier).askAll session questions).2 =
            ((desk.unaided identifier).askAll session others).2 := by
  refine ⟨desk.ask_sameAnswer session known, fun {questions others} alike => ?_⟩
  induction alike generalizing session with
  | nil => exact ⟨.nil, rfl⟩
  | @cons asked other questions others here _ inductionHypothesis =>
      obtain ⟨question, forced⟩ := asked
      obtain ⟨otherQuestion, otherForced⟩ := other
      obtain ⟨same, rfl⟩ : SameButForCase question otherQuestion ∧ forced = otherForced := here
      obtain ⟨answer, next⟩ := desk.ask_sameAnswer session known same forced
      obtain ⟨answers, last⟩ := inductionHypothesis ((desk.unaided identifier).ask session question forced).2
      rw [askAll_cons, askAll_cons, ← next]
      exact ⟨.cons answer answers, last⟩

omit known

/-- The second of two questions speaks Arabic in Latin letters, and in capitals. -/
theorem letter_case_unnoticed_arabizi :
    LatinOrNone (some .arabizi) ∧
      List.Forall₂ AskedAlike
        [("Cheapest STRAW?", none), ("arkhas wheat straw 3ala dubai", some .english)]
        [("cheapest straw?", none), ("ARKHAS WHEAT STRAW 3ALA DUBAI", some .english)] ∧
      detect "ARKHAS WHEAT STRAW 3ALA DUBAI" (some .arabizi) = .arabic ∧
      List.Forall₂ Outcome.SameAnswer
        ((offersDesk.unaided (some .arabizi)).askAll offersSession
          [("Cheapest STRAW?", none), ("arkhas wheat straw 3ala dubai", some .english)]).1
        ((offersDesk.unaided (some .arabizi)).askAll offersSession
          [("cheapest straw?", none), ("ARKHAS WHEAT STRAW 3ALA DUBAI", some .english)]).1 := by
  have known : LatinOrNone (some .arabizi) := Or.inr rfl
  have alike : List.Forall₂ AskedAlike
      [("Cheapest STRAW?", none), ("arkhas wheat straw 3ala dubai", some .english)]
      [("cheapest straw?", none), ("ARKHAS WHEAT STRAW 3ALA DUBAI", some .english)] :=
    .cons (by decide) (.cons (by decide) .nil)
  refine ⟨known, alike, by decide +kernel, ?_⟩
  exact ((letter_case_unnoticed offersDesk offersSession known).2 alike).1

end Desk
end FeedDesk
