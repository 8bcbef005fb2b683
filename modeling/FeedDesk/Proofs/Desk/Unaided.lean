import FeedDesk.Proofs.Desk.Advice
import FeedDesk.Proofs.Lexicon.Completeness
import FeedDesk.Store.Connection

namespace FeedDesk

open FeedDesk.Language

/-!
# Asking again in the wording that was found

A desk without a translator and without an oracle is left to its own rules.
What it answers then depends on two things only: the language of the answer and
the English wording of the question.

Both are told in the outcome, so a question can be asked again in its wording
and in the language of its answer.  The wording may well be detected as the
other language, because its script is gone or because an identifier has an
opinion about it.  That makes no difference: whichever language is detected, the
wording of the wording is the wording itself.  An English wording has no
character for the lexicon to begin at, and an Arabic one has been through the
lexicon already.
-/

namespace Lexicon

/-- The lexicon has nothing to say about a text without Arabic script. -/
theorem apply_of_no_script {text : Text} (latin : text.any isArabicChar = false) : apply text = text := by
  have noLetter : ∀ char ∈ text, isArabicLetter char = false := by
    intro char member
    refine Bool.eq_false_iff.mpr fun letter => ?_
    exact List.any_eq_false.mp latin char member (isArabicChar_of_isArabicLetter letter)
  have pass : ∀ vocabulary : Vocabulary, vocabulary.Bilingual → ∀ matching,
      vocabulary.replaceForms matching text = text := by
    intro vocabulary tables matching
    refine Vocabulary.scan_eq_self tables fun front char rest split => ?_
    exact tables.found?_eq_none (noLetter char (by rw [split]; exact List.mem_append_cons_self))
  rw [apply, pass products products_bilingual, pass regions regions_bilingual,
    pass phrases phrases_bilingual]

end Lexicon

namespace Question

theorem no_script_of_detect_english {text : Text} {identifier : Option Identifier}
    (english : detect text identifier = .english) : text.any isArabicChar = false := by
  refine Bool.eq_false_iff.mpr fun arabic => ?_
  unfold detect at english
  rw [if_pos arabic] at english
  cases english

/-- The wording of a question is its own wording, in whatever language it is
read. -/
theorem reworded_reworded (text : Text) (identifier : Option Identifier) (language : Language) :
    reworded (reworded text (detect text identifier)) language = reworded text (detect text identifier) := by
  cases language with
  | english => rfl
  | arabic =>
      change Lexicon.apply (reworded text (detect text identifier)) = _
      cases detected : detect text identifier with
      | english => exact Lexicon.apply_of_no_script (no_script_of_detect_english detected)
      | arabic => exact (Lexicon.apply_settled text).apply_eq

end Question

/-- The question that asks for an outcome once more: its wording, with the
language of its answer. -/
def Outcome.reasked (outcome : Outcome) : Text × Option Language :=
  (outcome.normalized, some outcome.language)

theorem Outcome.reasked_ofRows (language : Language) (normalized : Text) (intent : Intent)
    (approach : Approach) (rows : Except StoreFailure (List Row)) :
    (ofRows language normalized intent approach rows).reasked = (normalized, some language) := by
  cases rows <;> rfl

namespace Desk

variable {State : Type}

/-- The desk with the given identifier, and without a translator or an oracle. -/
def unaided (desk : Desk State) (identifier : Option Identifier) : Desk State :=
  { desk with identifier, translator := none, oracle := none }

/-- What a desk finds by its own rules, once wording and language are known. -/
def found (desk : Desk State) (session : Session State) (language : Language) (wording : Text) :
    Outcome × Session State :=
  let synthesis := Synthesis.ofQuestion wording (Entities.ofText wording)
  let (rows, state) := desk.store.rows session.state (.planned synthesis.plan)
  (Outcome.ofRows language wording synthesis.intent (.ofSynthesis synthesis) rows, { session with state })

variable (desk : Desk State) (session : Session State) (identifier other : Option Identifier)

section Question

variable (question : Text) (forced : Option Language)

theorem ask_unaided :
    (desk.unaided identifier).ask session question forced =
      desk.found session (forced.getD (detect question identifier))
        (Question.reworded question (detect question identifier)) :=
  rfl

theorem reasked_found (language : Language) (wording : Text) :
    (desk.found session language wording).1.reasked = (wording, some language) :=
  Outcome.reasked_ofRows _ _ _ _ _

/-- The outcome tells how its question can be asked again. -/
theorem reasked_ask_unaided :
    ((desk.unaided identifier).ask session question forced).1.reasked =
      (Question.reworded question (detect question identifier),
        some (forced.getD (detect question identifier))) := by
  rw [ask_unaided, reasked_found]

/-- In the same session the question asked again has the same outcome, and it
leaves the same session behind. -/
theorem ask_reasked {outcome : Outcome} {next : Session State}
    (given : (desk.unaided identifier).ask session question forced = (outcome, next)) :
    (desk.unaided other).ask session outcome.normalized (some outcome.language) = (outcome, next) := by
  have told := reasked_ask_unaided desk session identifier question forced
  rw [given] at told
  obtain ⟨wording, language⟩ := Prod.mk.inj told
  rw [wording, language, ask_unaided, Question.reworded_reworded, Option.getD_some, ← ask_unaided, given]

end Question

/-- A run of questions, each asked again in its turn, is the same run. -/
theorem askAll_reasked (questions : List (Text × Option Language)) :
    (desk.unaided other).askAll session
        (((desk.unaided identifier).askAll session questions).1.map Outcome.reasked) =
      (desk.unaided identifier).askAll session questions := by
  induction questions generalizing session with
  | nil => rfl
  | cons asked questions inductionHypothesis =>
      obtain ⟨question, forced⟩ := asked
      cases given : (desk.unaided identifier).ask session question forced with
      | mk outcome next =>
          have again := ask_reasked desk session identifier other question forced given
          rw [askAll_cons, given, List.map_cons, Outcome.reasked, askAll_cons, again, inductionHypothesis]

/-- The desk over catalogs that has an identifier and nothing else. -/
def onCatalogs (identifier : Option Identifier) : Desk Connection where
  store := Connection.store
  identifier := identifier

/-- A question is answered from a catalog without leaving a trace. -/
theorem session_onCatalogs (session : Session Connection) (question : Text) (forced : Option Language) :
    ((onCatalogs identifier).ask session question forced).2 = session :=
  rfl

/-- Without a translator and an oracle, asking again in the wording that was
found gives the same answer.  Let the first answer be given in some session, in
a forced language or not.  Its wording, asked in the language of the answer, has
the same outcome in all its parts and leaves the same session behind, also at a
desk with another identifier.  So it is along a run of questions; and over a
catalog it may as well be asked after the first answer as in its place. -/
theorem wording_asked_again :
    (∀ question forced,
      let given := (desk.unaided identifier).ask session question forced
      (desk.unaided other).ask session given.1.normalized (some given.1.language) = given) ∧
    (∀ questions,
      let given := (desk.unaided identifier).askAll session questions
      (desk.unaided other).askAll session (given.1.map Outcome.reasked) = given) ∧
    ∀ (catalogs : Session Connection) (question : Text) (forced : Option Language),
      let given := (onCatalogs identifier).ask catalogs question forced
      (onCatalogs other).ask given.2 given.1.normalized (some given.1.language) = given := by
  refine ⟨fun question forced => ?_, fun questions => ?_, fun catalogs question forced => ?_⟩
  · exact ask_reasked desk session identifier other question forced rfl
  · exact askAll_reasked desk session identifier other questions
  · intro given
    have before : given.2 = catalogs := session_onCatalogs identifier catalogs question forced
    rw [before]
    exact ask_reasked (onCatalogs identifier) catalogs identifier other question forced rfl

end Desk
end FeedDesk
