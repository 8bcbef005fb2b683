import FeedDesk.Language.Script
import FeedDesk.Lexicon.Terms

namespace FeedDesk

/-!
Replacing Arabic terms by English ones. A vocabulary is applied in one pass from left to right:
where a form begins, the longest one is replaced by its English term, and reading goes on behind
it; any other character is copied. When only whole words count, a form is passed over if an
Arabic letter touches it: the character written last on its left, or the one that follows it.
-/

/-- Where a form may be replaced. -/
inductive Matching
  | anywhere
  | wholeWords
  deriving DecidableEq

namespace Vocabulary

open FeedDesk.Language

/-- The term to write in place of the form that begins here, and the text behind the form. -/
def here? (vocabulary : Vocabulary) (matching : Matching) (before : Option Char) (text : Text) :
    Option (Text × Text) :=
  if matching = .wholeWords ∧ before.any isArabicLetter then none
  else vocabulary.longestFirst.findSome? fun (form, english) =>
    match Text.strip? form text with
    | none => none
    | some rest =>
      if matching = .wholeWords ∧ rest.head?.any isArabicLetter then none
      else some (english, rest)

/-- One step of the pass: what is written, the character that then stands on the left, and the
text that remains. -/
def step (vocabulary : Vocabulary) (matching : Matching) (before : Option Char) (char : Char)
    (text : Text) : Text × Option Char × Text :=
  match vocabulary.here? matching before (char :: text) with
  | some (english, rest) => (english, english.getLast?, rest)
  | none => ([char], some char, text)

/-- The pass over the text that remains, when it ends within the given number of steps. -/
def pass? (vocabulary : Vocabulary) (matching : Matching) :
    (steps : Nat) → (before : Option Char) → Text → Option Text
  | _, _, [] => some []
  | 0, _, _ :: _ => none
  | steps + 1, before, char :: text =>
    let (written, before, rest) := vocabulary.step matching before char text
    (vocabulary.pass? matching steps before rest).map (written ++ ·)

/-- The text with its Arabic terms in English. A pass takes at most one step a character as long
as no form is empty. -/
def replaceForms (vocabulary : Vocabulary) (matching : Matching) (text : Text) : Text :=
  (vocabulary.pass? matching text.length none text).getD text

end Vocabulary

namespace Lexicon

/-- All three vocabularies in turn: products and regions wherever they stand, also attached to
other letters, then phrases as whole words. -/
def apply (text : Text) : Text :=
  phrases.replaceForms .wholeWords
    (regions.replaceForms .anywhere (products.replaceForms .anywhere text))

end Lexicon
end FeedDesk
