import FeedDesk.Proofs.Lexicon.Rewriting
import FeedDesk.Proofs.Lexicon.Spelling

namespace FeedDesk

open FeedDesk.Language

/-!
# Translation on both sides of a mark

A mark is a character that no form holds and that is no Arabic letter: digits,
Latin letters, punctuation and line breaks are marks.  No form reaches across a
mark, and as a neighbour it counts as the end of the text does.  So a pass
translates what stands on the left of it and what stands on the right as if each
were a text of its own.

The marks are the same for all three passes, and a pass keeps every mark, so the
passes are translated side by side one after the other.
-/

namespace Vocabulary

/-- No form of the table holds the character, and it joins no word. -/
structure Divides (terms : List Term) (char : Char) : Prop where
  noLetter : isArabicLetter char = false
  inNoForm : ∀ term ∈ terms, ∀ form ∈ term.arabic, char ∉ form

section Divided

variable {terms : List Term} {matching : Matching} {before : Option Char} {mark : Char} {left right : Text}
  {form english : Text} (divides : Divides terms mark)

include divides

theorem Divides.not_mem (listed : (form, english) ∈ pairsOf terms) : mark ∉ form := by
  rcases mem_pairsOf.mp listed with ⟨term, inTable, spells, _⟩
  exact divides.inNoForm term inTable form spells

theorem Divides.allows (matching : Matching) : matching.Allows (some mark) :=
  fun _ => divides.noLetter

/-- What passes before a mark ends before it. -/
theorem exists_passes_of_append {rest : Text}
    (passes : Passes terms matching before (left ++ mark :: right) form english rest) :
    ∃ between, rest = between ++ mark :: right ∧ Passes terms matching before left form english between := by
  have absent := divides.not_mem passes.listed
  have inside : ∀ between, left = form ++ between → rest = between ++ mark :: right →
      Passes terms matching before left form english between := by
    rintro between split rfl
    refine ⟨passes.listed, split, passes.freeBefore, ?_⟩
    cases between with
    | nil => exact fun _ => rfl
    | cons next between => exact passes.freeAfter
  rcases List.append_eq_append_iff.mp passes.begins with ⟨beyond, formEq, markEq⟩ | ⟨between, split, restEq⟩
  · cases beyond with
    | nil => exact ⟨[], markEq.symm, inside [] (by rw [formEq, List.append_nil, List.append_nil]) markEq.symm⟩
    | cons next beyond =>
        rw [(List.cons.inj markEq).1, formEq] at absent
        exact absurd (List.mem_append_right left List.mem_cons_self) absent
  · exact ⟨between, restEq, inside between split restEq⟩

theorem Passes.append {rest : Text} (passes : Passes terms matching before left form english rest) :
    Passes terms matching before (left ++ mark :: right) form english (rest ++ mark :: right) where
  listed := passes.listed
  begins := by rw [passes.begins, List.append_assoc]
  freeBefore := passes.freeBefore
  freeAfter := by
    cases rest with
    | nil => exact divides.allows matching
    | cons next rest => exact passes.freeAfter

theorem Leads.append {rest : Text} (leads : Leads terms matching before left form english rest) :
    Leads terms matching before (left ++ mark :: right) form english (rest ++ mark :: right) where
  toPasses := leads.toPasses.append divides
  longest other term others passes := by
    rcases exists_passes_of_append divides passes with ⟨between, _, inside⟩
    exact leads.longest other term between inside

/-- Nothing passes at a mark. -/
theorem not_passes_mark (full : NoEmptyForm terms) (rest : Text) :
    ¬ Passes terms matching before (mark :: right) form english rest := by
  intro passes
  rcases List.exists_cons_of_ne_nil (ne_nil_of_mem_pairsOf full passes.listed) with ⟨char, others, formEq⟩
  have begins := passes.begins
  rw [formEq, List.cons_append] at begins
  have absent := divides.not_mem passes.listed
  rw [formEq, (List.cons.inj begins).1] at absent
  exact absent List.mem_cons_self

end Divided

variable {terms : List Term} {matching : Matching} {before : Option Char} {text written : Text}

/-- What is made of a text is the same behind every character that does not
stand in the way. -/
theorem Rewrites.of_allows (allowed : matching.Allows before)
    (rewrites : Rewrites terms matching none text written) : Rewrites terms matching before text written := by
  have first : ∀ {form english rest}, Passes terms matching before text form english rest →
      Passes terms matching none text form english rest := by
    intro form english rest passes
    exact ⟨passes.listed, passes.begins, fun _ => rfl, passes.freeAfter⟩
  cases rewrites with
  | done => exact .done before
  | copied none behind => exact .copied (fun form english rest passes => none form english rest (first passes)) behind
  | replaced leads behind =>
      refine .replaced ⟨⟨leads.listed, leads.begins, allowed, leads.freeAfter⟩, ?_⟩ behind
      exact fun other term others passes => leads.longest other term others (first passes)

/-- Both sides of a mark are rewritten by themselves. -/
theorem Rewrites.append {mark : Char} {left right leftWritten rightWritten : Text} (divides : Divides terms mark)
    (full : NoEmptyForm terms) (leftRewrites : Rewrites terms matching before left leftWritten)
    (rightRewrites : Rewrites terms matching none right rightWritten) :
    Rewrites terms matching before (left ++ mark :: right) (leftWritten ++ mark :: rightWritten) := by
  induction leftRewrites with
  | done before =>
      refine .copied (fun form english rest => not_passes_mark divides full rest) ?_
      exact rightRewrites.of_allows (divides.allows matching)
  | @copied _ char text _ none _ inductionHypothesis =>
      refine .copied (fun form english rest passes => ?_) inductionHypothesis
      have whole : Passes terms matching _ (char :: text ++ mark :: right) form english rest := passes
      rcases exists_passes_of_append divides whole with ⟨between, _, inside⟩
      exact none form english between inside
  | replaced leads _ inductionHypothesis =>
      rw [List.append_assoc]
      exact .replaced (leads.append divides) inductionHypothesis

theorem replaceForms_append {vocabulary : Vocabulary} (accepted : ofTerms terms = .ok vocabulary)
    (full : NoEmptyForm terms) {mark : Char} (divides : Divides terms mark) (matching : Matching)
    (left right : Text) :
    vocabulary.replaceForms matching (left ++ mark :: right) =
      vocabulary.replaceForms matching left ++ mark :: vocabulary.replaceForms matching right := by
  have whole := rewrites_replaceForms accepted full matching (left ++ mark :: right)
  have leftPart := rewrites_replaceForms accepted full matching left
  have rightPart := rewrites_replaceForms accepted full matching right
  exact whole.unique full (leftPart.append divides full rightPart)

end Vocabulary

namespace Lexicon

open Vocabulary

/-- All terms of the three tables. -/
def allTerms : List Term :=
  productTerms ++ regionTerms ++ phraseTerms

/-- All characters are marks but Arabic letters and the blank. -/
theorem divides_allTerms_iff {mark : Char} :
    Divides allTerms mark ↔ isArabicLetter mark = false ∧ mark ≠ ' ' := by
  constructor
  · intro divides
    refine ⟨divides.noLetter, ?_⟩
    rintro rfl
    exact divides.inNoForm ⟨"Alfalfa hay", ["تبن البرسيم"]⟩ (by decide) _ List.mem_cons_self (by decide)
  · rintro ⟨noLetter, noBlank⟩
    refine ⟨noLetter, fun term listed form spells member => ?_⟩
    rcases letter_or_blank_of_mem ((spelled_of_mem listed).2 form spells) member with letter | blank
    · rw [noLetter] at letter
      cases letter
    · exact noBlank blank

/-- A pass of a part of the lexicon goes over both sides of a mark by themselves. -/
theorem replaceForms_append_of_subset {terms : List Term} (consistent : (ofTerms terms).isOk = true)
    (inside : terms ⊆ allTerms) {mark : Char} (divides : Divides allTerms mark) (matching : Matching)
    (left right : Text) :
    (ofConsistent terms consistent).replaceForms matching (left ++ mark :: right) =
      (ofConsistent terms consistent).replaceForms matching left ++
        mark :: (ofConsistent terms consistent).replaceForms matching right := by
  have full : NoEmptyForm terms := fun term listed spells =>
    ne_nil_of_isSpelled ((spelled_of_mem (inside listed)).2 [] spells) rfl
  have dividesPart : Divides terms mark :=
    ⟨divides.noLetter, fun term listed => divides.inNoForm term (inside listed)⟩
  exact replaceForms_append (ofTerms_eq_ofConsistent terms consistent) full dividesPart matching left right

theorem apply_append {mark : Char} (divides : Divides allTerms mark) (left right : Text) :
    apply (left ++ mark :: right) = apply left ++ mark :: apply right := by
  have inProducts : productTerms ⊆ allTerms := fun _ listed =>
    List.mem_append_left _ (List.mem_append_left _ listed)
  have inRegions : regionTerms ⊆ allTerms := fun _ listed =>
    List.mem_append_left _ (List.mem_append_right _ listed)
  have inPhrases : phraseTerms ⊆ allTerms := fun _ listed => List.mem_append_right _ listed
  rw [apply, products, replaceForms_append_of_subset _ inProducts divides,
    regions, replaceForms_append_of_subset _ inRegions divides,
    phrases, replaceForms_append_of_subset _ inPhrases divides]
  rfl

/-- Every mark is kept in its place among the others. -/
theorem sublist_apply {marks text : Text} (divide : ∀ mark ∈ marks, Divides allTerms mark)
    (stand : marks.Sublist text) : marks.Sublist (apply text) := by
  induction marks generalizing text with
  | nil => exact List.nil_sublist _
  | cons mark marks inductionHypothesis =>
      rcases List.cons_sublist_iff.mp stand with ⟨front, back, rfl, first, behind⟩
      rcases List.append_of_mem first with ⟨left, between, rfl⟩
      rw [List.forall_mem_cons] at divide
      have later := inductionHypothesis divide.2 (behind.trans (List.sublist_append_right between back))
      rw [List.append_assoc, List.cons_append, apply_append divide.1]
      exact (later.cons_cons mark).trans (List.sublist_append_right _ _)

/-- Normalization is local: what stands on the two sides of a mark is translated
as two texts, and all marks are kept in order. -/
theorem apply_local :
    (∀ mark, Divides allTerms mark → ∀ left right,
      apply (left ++ [mark] ++ right) = apply left ++ [mark] ++ apply right) ∧
    ∀ marks text : Text, (∀ mark ∈ marks, Divides allTerms mark) → marks.Sublist text → marks.Sublist (apply text) := by
  refine ⟨fun mark divides left right => ?_, fun marks text => sublist_apply⟩
  rw [List.append_assoc, List.append_assoc]
  exact apply_append divides left right

/-- A question mark parts two questions, and marks stay in their order. -/
theorem apply_local_question :
    apply ("علف" ++ ['؟'] ++ "في") = "Feed" ++ ['؟'] ++ "in" ∧
      List.Sublist ['؟', '7'] (apply "علف؟في 7 من") := by
  have question : Divides allTerms '؟' := divides_allTerms_iff.mpr ⟨by decide +kernel, by decide⟩
  have digit : Divides allTerms '7' := divides_allTerms_iff.mpr ⟨by decide +kernel, by decide⟩
  have parts : apply "علف" = "Feed" ∧ apply "في" = "in" := by decide +kernel
  constructor
  · rw [apply_local.1 '؟' question, parts.1, parts.2]
  · apply apply_local.2
    · exact List.forall_mem_cons.mpr ⟨question, List.forall_mem_singleton.mpr digit⟩
    · decide

end Lexicon
end FeedDesk
