import FeedDesk.Sorting
import FeedDesk.Text.Basic

namespace FeedDesk

/-!
A vocabulary pairs English terms with their Arabic forms. It is built from a table of terms, and
only a consistent table is accepted: every term has a form, no English term is listed twice, and
no form belongs to two terms. The first form of a term is its preferred one. For matching, the
forms of the whole table stand in one list, longer forms first and forms of equal length in table
order.
-/

/-- An English term with its Arabic forms, the preferred one first. -/
structure Term where
  english : Text
  arabic : List Text
  deriving DecidableEq

inductive VocabularyError
  | formless (english : Text)
  | repeatedTerm (english : Text)
  | sharedForm (form first second : Text)
  deriving DecidableEq

/-- The sentence for an error in the vocabulary of the given name. -/
def VocabularyError.message (name : Text) : VocabularyError → Text
  | formless english => name ++ ": `" ++ english ++ "` has no Arabic form"
  | repeatedTerm english => name ++ ": duplicate English term `" ++ english ++ "`"
  | sharedForm form first second =>
    name ++ ": `" ++ form ++ "` maps to both `" ++ first ++ "` and `" ++ second ++ "`"

structure Vocabulary where
  /-- English terms with their preferred forms, in table order. -/
  preferred : List (Text × Text)
  /-- Arabic forms with their English terms, in the order of matching. -/
  longestFirst : List (Text × Text)
  deriving DecidableEq

namespace Vocabulary

/-- A form may be tried before another when it is not shorter. -/
def triedBefore (left right : Text × Text) : Bool :=
  right.1.length ≤ left.1.length

def addForms (english : Text) :
    List Text → List (Text × Text) → Except VocabularyError (List (Text × Text))
  | [], pairs => .ok pairs
  | form :: forms, pairs =>
    match pairs.lookup form with
    | some other => .error (.sharedForm form other english)
    | none => addForms english forms (pairs ++ [(form, english)])

def addTerms : List Term → (preferred pairs : List (Text × Text)) →
    Except VocabularyError (List (Text × Text) × List (Text × Text))
  | [], preferred, pairs => .ok (preferred, pairs)
  | term :: terms, preferred, pairs =>
    match term.arabic with
    | [] => .error (.formless term.english)
    | form :: _ =>
      if (preferred.lookup term.english).isSome then .error (.repeatedTerm term.english)
      else
        match addForms term.english term.arabic pairs with
        | .error error => .error error
        | .ok pairs => addTerms terms (preferred ++ [(term.english, form)]) pairs

/-- The vocabulary of a consistent table. -/
def ofTerms (terms : List Term) : Except VocabularyError Vocabulary :=
  (addTerms terms [] []).map fun (preferred, pairs) =>
    ⟨preferred, Sorting.sort triedBefore pairs⟩

/-- The vocabulary of a table that is known to be consistent. -/
def ofConsistent (terms : List Term) (consistent : (ofTerms terms).isOk = true) : Vocabulary :=
  match ofTerms terms, consistent with
  | .ok vocabulary, _ => vocabulary

/-- The preferred Arabic form of an English term. -/
def toArabic? (vocabulary : Vocabulary) (english : Text) : Option Text :=
  vocabulary.preferred.lookup english

/-- The English term of the first form, in the order of matching, that the text contains. -/
def mentioned? (vocabulary : Vocabulary) (text : Text) : Option Text :=
  (vocabulary.longestFirst.find? fun (form, _) => Text.contains form text).map (·.2)

end Vocabulary
end FeedDesk
