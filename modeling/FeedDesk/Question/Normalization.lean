import FeedDesk.Language.Basic
import FeedDesk.Lexicon.Replacement
import FeedDesk.Service
import FeedDesk.Text.Blank

namespace FeedDesk

/-!
A question is brought into the English wording that the rules for purposes understand. English
questions stay as they are. Arabic ones go through the lexicon, and if Arabic letters remain and
there is a translator, it is shown the result; its answer counts unless it fails or is blank.
-/

/-- What a translator is asked. -/
structure TranslatorRequest where
  text : Text
  source : Language
  target : Language
  deriving DecidableEq

abbrev Translator := Service TranslatorRequest (Except ErrorChain Text)

namespace Question

/-- The request that a question leads to, once the lexicon has been applied. -/
def translatorRequest? (text : Text) (language : Language) : Option TranslatorRequest :=
  let replaced := Lexicon.apply text
  if language = .arabic ∧ Language.hasArabicLetter replaced then
    some ⟨replaced, .arabic, .english⟩
  else none

/-- The translator's answer if it is of use, else the text it was shown. -/
def settle (request : TranslatorRequest) : Except ErrorChain Text → Text
  | .ok translated => if translated.isBlank then request.text else translated
  | .error _ => request.text

/-- The English wording without a translator. -/
def reworded (text : Text) (language : Language) : Text :=
  match language with
  | .english => text
  | .arabic => Lexicon.apply text

/-- The English wording, and the requests put to the translator so far. -/
def normalize (translator : Option Translator) (past : List TranslatorRequest) (text : Text)
    (language : Language) : Text × List TranslatorRequest :=
  match translator, translatorRequest? text language with
  | some translator, some request =>
    (settle request (translator.answer past request), past ++ [request])
  | _, _ => (reworded text language, past)

end Question
end FeedDesk
