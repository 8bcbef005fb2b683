import FeedDesk.Proofs.Lexicon.Rewriting
import Mathlib.Algebra.Order.BigOperators.Group.List
import Mathlib.Algebra.Order.Group.Nat

namespace FeedDesk

open FeedDesk.Language

/-!
# How a pass goes on

A step of the pass copies a character or replaces a form.  A copied character is
gone from the text that remains, and so is a replaced form, unless it is empty.
A table is accepted whether or not it lists an empty form, so that the pass goes
on and ends is a property of the table, not of the loop.

The empty form is tried last, because it is the shortest.  To meet it one needs a
text at which nothing else fits, whatever the table lists.  A blank with enough
Arabic letters behind it is such a text when only whole words count: every other
form that begins there is too short to reach the end of the letters.  When forms
count anywhere, a single character is such a text, unless it is a form itself,
and then the pass stays at this character for ever.
-/

namespace Vocabulary

variable {vocabulary : Vocabulary} {matching : Matching} {before : Option Char} {text : Text}

/-- The pass over the text comes to a place: the character written last, and the
text that remains. -/
inductive Arrives (vocabulary : Vocabulary) (matching : Matching) (text : Text) : Option Char → Text → Prop
  | start : Arrives vocabulary matching text none text
  | step {before : Option Char} {char : Char} {rest : Text}
      (here : Arrives vocabulary matching text before (char :: rest)) :
      Arrives vocabulary matching text (vocabulary.step matching before char rest).2.1
        (vocabulary.step matching before char rest).2.2

/-- Every step of the pass over the text takes something away from it, and the
pass ends within as many steps as there are characters. -/
structure Progresses (vocabulary : Vocabulary) (matching : Matching) (text : Text) : Prop where
  shortens : ∀ before char rest, vocabulary.Arrives matching text before (char :: rest) →
    (vocabulary.step matching before char rest).2.2.length < (char :: rest).length
  ends : ∃ written, vocabulary.pass? matching text.length none text = some written

theorem Formful.progresses (formful : vocabulary.Formful) (matching : Matching) (text : Text) :
    vocabulary.Progresses matching text where
  shortens before char rest _ := length_step_lt formful matching before char rest
  ends := ⟨_, pass?_eq_scan formful (Nat.le_refl text.length)⟩

/-! ## Places at which only the empty form fits -/

/-- Where the empty form fits, some form is found. -/
theorem exists_found?_of_empty {english : Text} (listed : ([], english) ∈ vocabulary.longestFirst)
    (freeBefore : matching.Allows before) (freeAfter : matching.Allows text.head?) :
    ∃ entry, vocabulary.found? matching before text = some entry := by
  have fit : fits matching text ([], english) = true := fits_iff.mpr ⟨text, rfl, freeAfter⟩
  cases found : vocabulary.found? matching before text with
  | some entry => exact ⟨entry, rfl⟩
  | none =>
      rw [not_fits_of_found?_eq_none found freeBefore listed] at fit
      cases fit

/-- A step that replaces the empty form takes nothing away. -/
theorem rest_step_of_found?_empty {char : Char} {entry : Text × Text}
    (found : vocabulary.found? matching before (char :: text) = some entry) (empty : entry.1 = []) :
    (vocabulary.step matching before char text).2.2 = char :: text := by
  rw [step_of_found? found, empty]
  rfl

/-- A blank with some Arabic letters behind it. -/
def behindBlank (letters : Nat) : Text :=
  ' ' :: List.replicate letters 'ا'

theorem isArabicLetter_alif : isArabicLetter 'ا' = true := by decide +kernel

/-- No form but the empty one stands at the blank as a whole word, when there are
more letters than the form can cover. -/
theorem eq_nil_of_fits_behindBlank {letters : Nat} {entry : Text × Text} (short : entry.1.length ≤ letters)
    (fit : fits .wholeWords (behindBlank letters) entry = true) : entry.1 = [] := by
  obtain ⟨rest, split, freeAfter⟩ := fits_iff.mp fit
  cases spelled : entry.1 with
  | nil => rfl
  | cons first form =>
      rw [spelled] at split short
      obtain ⟨total, _, letter⟩ := List.replicate_eq_append_iff.mp (List.cons.inj split).2
      rw [List.length_cons] at short
      obtain ⟨others, more⟩ : ∃ others, rest.length = others + 1 := ⟨rest.length - 1, by omega⟩
      -- So a letter follows the form, and it is no whole word.
      rw [letter, more, List.replicate_succ] at freeAfter
      have impossible := freeAfter rfl
      rw [List.head?_cons, Option.any_some, isArabicLetter_alif] at impossible
      cases impossible

theorem exists_length_le (entries : List (Text × Text)) : ∃ bound, ∀ entry ∈ entries, entry.1.length ≤ bound := by
  refine ⟨(entries.map fun entry => entry.1.length).sum, fun entry listed => ?_⟩
  exact List.le_sum_of_mem (List.mem_map_of_mem listed)

theorem not_progresses_of_empty {english : Text} (listed : ([], english) ∈ vocabulary.longestFirst) :
    ∃ text, ¬ vocabulary.Progresses .wholeWords text := by
  obtain ⟨letters, short⟩ := exists_length_le vocabulary.longestFirst
  have freeBefore : Matching.wholeWords.Allows none := Matching.wholeWords_allows_iff.mpr rfl
  have freeAfter : Matching.wholeWords.Allows (behindBlank letters).head? :=
    Matching.wholeWords_allows_iff.mpr (show isArabicLetter ' ' = false by decide)
  obtain ⟨entry, found⟩ := exists_found?_of_empty listed freeBefore freeAfter
  have empty := eq_nil_of_fits_behindBlank (short entry (mem_of_found? found))
    (List.find?_some (find?_of_found? found))
  refine ⟨behindBlank letters, fun progresses => ?_⟩
  have less := progresses.shortens none ' ' _ .start
  rw [rest_step_of_found?_empty found empty] at less
  exact absurd less (Nat.lt_irrefl _)

/-- A pass for forms anywhere never leaves a character that is no form, if the
empty form is listed. -/
theorem pass?_singleton_eq_none {english : Text} (listed : ([], english) ∈ vocabulary.longestFirst) {char : Char}
    (unlisted : [char] ∉ vocabulary.longestFirst.map Prod.fst) (steps : Nat) (before : Option Char) :
    vocabulary.pass? .anywhere steps before [char] = none := by
  induction steps generalizing before with
  | zero => rfl
  | succ steps inductionHypothesis =>
      obtain ⟨entry, found⟩ : ∃ entry, vocabulary.found? .anywhere before [char] = some entry :=
        exists_found?_of_empty listed (Matching.anywhere_allows _) (Matching.anywhere_allows _)
      have empty : entry.1 = [] := by
        obtain ⟨rest, split, _⟩ := exists_rest_of_found? found
        rcases List.singleton_eq_append_iff.mp split with ⟨nothing, _⟩ | ⟨whole, _⟩
        · exact nothing
        · exact absurd (whole ▸ List.mem_map_of_mem (mem_of_found? found)) unlisted
      rw [pass?_succ_cons, rest_step_of_found?_empty found empty, inductionHypothesis, Option.map_none]

theorem exists_empty_of_not {terms : List Term} (notFull : ¬ NoEmptyForm terms) : ∃ term ∈ terms, [] ∈ term.arabic := by
  simpa only [NoEmptyForm, not_forall, not_not, exists_prop] using notFull

/-- For an accepted table every step of every pass takes something away, and
every pass ends within as many steps as there are characters, exactly if no form
of the table is empty.  With an empty form the pass for forms anywhere does not
even end, at any single character that is no form itself. -/
theorem progresses_iff {terms : List Term} {vocabulary : Vocabulary} (accepted : ofTerms terms = .ok vocabulary) :
    ((∀ matching text, vocabulary.Progresses matching text) ↔ NoEmptyForm terms) ∧
      (¬ NoEmptyForm terms → ∀ char, [char] ∉ terms.flatMap Term.arabic →
        ∀ steps, vocabulary.pass? .anywhere steps none [char] = none) := by
  have pairs := perm_pairsOf accepted
  have emptyListed : ¬ NoEmptyForm terms → ∃ english, ([], english) ∈ vocabulary.longestFirst := by
    intro notFull
    obtain ⟨term, inTable, spells⟩ := exists_empty_of_not notFull
    exact ⟨term.english, pairs.mem_iff.mpr (mem_pairsOf.mpr ⟨term, inTable, spells, rfl⟩)⟩
  refine ⟨⟨fun progresses => ?_, fun full => ?_⟩, fun notFull char unlisted steps => ?_⟩
  · by_contra notFull
    obtain ⟨english, listed⟩ := emptyListed notFull
    obtain ⟨text, stops⟩ := not_progresses_of_empty listed
    exact stops (progresses .wholeWords text)
  · exact (formful_of_accepted accepted full).progresses
  · obtain ⟨english, listed⟩ := emptyListed notFull
    refine pass?_singleton_eq_none listed ?_ steps none
    rw [(pairs.map Prod.fst).mem_iff, keys_pairsOf]
    exact unlisted

/-- A table with an empty form, beside the table of products, which has none. -/
def strawTerms : List Term := [⟨"Straw", ["قش", ""]⟩]

theorem strawTerms_consistent : (ofTerms strawTerms).isOk = true := by decide +kernel

theorem progresses_iff_tables :
    ofTerms Lexicon.productTerms = .ok Lexicon.products ∧
      (∀ matching text, Lexicon.products.Progresses matching text) ∧
      ofTerms strawTerms = .ok (ofConsistent strawTerms strawTerms_consistent) ∧
      ¬ ∀ matching text, (ofConsistent strawTerms strawTerms_consistent).Progresses matching text := by
  have full : NoEmptyForm Lexicon.productTerms := by
    have none : ∀ term ∈ Lexicon.productTerms, [] ∉ term.arabic := by decide
    exact none
  have notFull : ¬ NoEmptyForm strawTerms := fun full => full _ List.mem_cons_self (by decide)
  have products := ofTerms_eq_ofConsistent Lexicon.productTerms Lexicon.productTerms_consistent
  have straw := ofTerms_eq_ofConsistent strawTerms strawTerms_consistent
  exact ⟨products, (progresses_iff products).1.mpr full, straw, mt (progresses_iff straw).1.mp notFull⟩

/-- The pass over a question mark replaces the empty form in front of it, again
and again. -/
theorem pass?_never_ends :
    ∃ vocabulary, ofTerms strawTerms = .ok vocabulary ∧
      vocabulary.step .anywhere none '?' [] = (String.toList "Straw", some 'w', ['?']) ∧
      ∀ steps, vocabulary.pass? .anywhere steps none ['?'] = none := by
  refine ⟨_, ofTerms_eq_ofConsistent strawTerms strawTerms_consistent, by decide +kernel, fun steps => ?_⟩
  have listed : (([], "Straw") : Text × Text) ∈ (ofConsistent strawTerms strawTerms_consistent).longestFirst := by
    decide +kernel
  exact pass?_singleton_eq_none listed (by decide +kernel) steps none

end Vocabulary
end FeedDesk
