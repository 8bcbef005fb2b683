import FeedDesk.Proofs.Lexicon.Acceptance
import FeedDesk.Proofs.Lexicon.Scan

namespace FeedDesk

open FeedDesk.Language

/-!
# What a table makes of a text

The pass of a vocabulary tries its entries one after the other and takes the
first that fits.  What it writes can be said without that order, from the table
alone: where a form of the table may be replaced, the longest such form is, and
any other character is copied.  Two forms that fit at the same place and are
equally long are the same text, and an accepted table gives a form only one
term, so there is never a choice.

The relation below says this step by step.  It determines what is written, and
the pass of an accepted table without an empty form keeps to it.
-/

namespace Vocabulary

/-- A form of the table begins the text and may be replaced there; `rest` is
what follows it. -/
structure Passes (terms : List Term) (matching : Matching) (before : Option Char)
    (text form english rest : Text) : Prop where
  listed : (form, english) ∈ pairsOf terms
  begins : text = form ++ rest
  freeBefore : matching.Allows before
  freeAfter : matching.Allows rest.head?

/-- The form passes, and every other one that passes is shorter. -/
structure Leads (terms : List Term) (matching : Matching) (before : Option Char)
    (text form english rest : Text) : Prop extends
    Passes terms matching before text form english rest where
  longest : ∀ other term others, Passes terms matching before text other term others →
    other.length < form.length ∨ other = form ∧ term = english

/-- The pass from left to right: the character written last, the text that
remains and what is written for it. -/
inductive Rewrites (terms : List Term) (matching : Matching) : Option Char → Text → Text → Prop
  | done (before : Option Char) : Rewrites terms matching before [] []
  | copied {before : Option Char} {char : Char} {text written : Text}
      (none : ∀ form english rest, ¬ Passes terms matching before (char :: text) form english rest)
      (behind : Rewrites terms matching (some char) text written) :
      Rewrites terms matching before (char :: text) (char :: written)
  | replaced {before : Option Char} {text form english rest written : Text}
      (leads : Leads terms matching before text form english rest)
      (behind : Rewrites terms matching english.getLast? rest written) :
      Rewrites terms matching before text (english ++ written)

/-- No form of the table is empty. -/
def NoEmptyForm (terms : List Term) : Prop :=
  ∀ term ∈ terms, [] ∉ term.arabic

variable {terms : List Term} {matching : Matching} {before : Option Char} {text : Text}

theorem ne_nil_of_mem_pairsOf (full : NoEmptyForm terms) {form english : Text}
    (listed : (form, english) ∈ pairsOf terms) : form ≠ [] := by
  rintro rfl
  obtain ⟨term, inTable, spells, _⟩ := mem_pairsOf.mp listed
  exact full term inTable spells

/-! ## There is no choice -/

theorem Leads.unique {form english rest other term others : Text}
    (leads : Leads terms matching before text form english rest)
    (also : Leads terms matching before text other term others) :
    form = other ∧ english = term ∧ rest = others := by
  rcases leads.longest other term others also.toPasses with shorter | ⟨rfl, rfl⟩
  · rcases also.longest form english rest leads.toPasses with longer | ⟨rfl, rfl⟩
    · omega
    · exact absurd shorter (Nat.lt_irrefl _)
  · exact ⟨rfl, rfl, List.append_cancel_left (leads.begins.symm.trans also.begins)⟩

theorem Passes.ne_nil (full : NoEmptyForm terms) {form english rest : Text}
    (passes : Passes terms matching before text form english rest) : text ≠ [] := by
  intro empty
  have formEmpty := (List.append_eq_nil_iff.mp (passes.begins.symm.trans empty)).1
  exact ne_nil_of_mem_pairsOf full passes.listed formEmpty

/-- The table determines what is written. -/
theorem Rewrites.unique (full : NoEmptyForm terms) {written other : Text}
    (rewrites : Rewrites terms matching before text written)
    (also : Rewrites terms matching before text other) : written = other := by
  induction rewrites generalizing other with
  | done before =>
      cases also with
      | done => rfl
      | replaced leads _ => exact absurd rfl (leads.ne_nil full)
  | copied none _ inductionHypothesis =>
      cases also with
      | copied _ behind => rw [inductionHypothesis behind]
      | replaced leads _ => exact absurd leads.toPasses (none _ _ _)
  | replaced leads _ inductionHypothesis =>
      cases also with
      | done => exact absurd rfl (leads.ne_nil full)
      | copied none _ => exact absurd leads.toPasses (none _ _ _)
      | replaced alsoLeads behind =>
          obtain ⟨rfl, rfl, rfl⟩ := leads.unique alsoLeads
          rw [inductionHypothesis behind]

/-! ## The pass keeps to it -/

section Accepted

variable {vocabulary : Vocabulary} (accepted : ofTerms terms = .ok vocabulary)

include accepted

theorem formful_of_accepted (full : NoEmptyForm terms) : vocabulary.Formful := by
  rintro ⟨form, english⟩ listed
  exact ne_nil_of_mem_pairsOf full ((perm_pairsOf accepted).mem_iff.mp listed)

/-- What is found leads. -/
theorem leads_of_found? {form english rest : Text}
    (found : vocabulary.found? matching before (form ++ rest) = some (form, english)) :
    Leads terms matching before (form ++ rest) form english rest := by
  have member := mem_of_found? found
  obtain ⟨others, same, freeAfter⟩ := exists_rest_of_found? found
  rw [← List.append_cancel_left same] at freeAfter
  refine ⟨⟨(perm_pairsOf accepted).mem_iff.mp member, rfl, allows_of_found? found, freeAfter⟩, ?_⟩
  intro other term behind passes
  have listed := (perm_pairsOf accepted).mem_iff.mpr passes.listed
  have fit : fits matching (form ++ rest) (other, term) = true :=
    fits_iff.mpr ⟨behind, passes.begins, passes.freeAfter⟩
  have atMost : other.length ≤ form.length :=
    length_le_of_found? (longestFirst_sorted accepted) found listed fit
  rcases Nat.lt_or_eq_of_le atMost with shorter | equal
  · exact Or.inl shorter
  · -- Equally long forms at one place are the same text, and it is listed once.
    have sameForm : form = other := (List.append_inj passes.begins equal.symm).1
    have sameEntry := List.inj_on_of_nodup_map (nodup_keys_longestFirst accepted) listed member sameForm.symm
    exact Or.inr (Prod.mk.inj sameEntry)

/-- Where nothing is found, nothing passes. -/
theorem not_passes_of_found?_eq_none (missing : vocabulary.found? matching before text = none)
    (form english rest : Text) : ¬ Passes terms matching before text form english rest := by
  intro passes
  have fit : fits matching text (form, english) = true :=
    fits_iff.mpr ⟨rest, passes.begins, passes.freeAfter⟩
  rw [not_fits_of_found?_eq_none missing passes.freeBefore
    ((perm_pairsOf accepted).mem_iff.mpr passes.listed)] at fit
  cases fit

theorem rewrites_scan (full : NoEmptyForm terms) (matching : Matching) (before : Option Char) (text : Text) :
    Rewrites terms matching before text (vocabulary.scan matching before text) := by
  have formful := formful_of_accepted accepted full
  -- A form is passed over as a whole, so the induction is on the length of the text.
  induction counted : text.length using Nat.strongRecOn generalizing before text with
  | ind size inductionHypothesis =>
      cases found : vocabulary.found? matching before text with
      | none =>
          cases text with
          | nil => exact .done before
          | cons char text =>
              rw [scan_cons_of_found?_eq_none formful found]
              refine .copied (not_passes_of_found?_eq_none accepted found) ?_
              exact inductionHypothesis text.length (by rw [← counted]; exact Nat.lt_succ_self _) _ _ rfl
      | some entry =>
          obtain ⟨form, english⟩ := entry
          obtain ⟨rest, rfl, _⟩ := exists_rest_of_found? found
          have nonempty := List.length_pos_iff.mpr (formful _ (mem_of_found? found))
          rw [scan_append_of_found? formful found]
          refine .replaced (leads_of_found? accepted found) ?_
          refine inductionHypothesis rest.length ?_ _ _ rfl
          rw [← counted, List.length_append]
          omega

theorem rewrites_replaceForms (full : NoEmptyForm terms) (matching : Matching) (text : Text) :
    Rewrites terms matching none text (vocabulary.replaceForms matching text) :=
  rewrites_scan accepted full matching none text

end Accepted

end Vocabulary
end FeedDesk
