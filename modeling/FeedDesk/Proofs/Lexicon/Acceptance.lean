import FeedDesk.Lexicon.Terms
import FeedDesk.Proofs.Lexicon.Table
import Mathlib.Data.List.Nodup

namespace FeedDesk

/-!
# The tables that are accepted

A table is refused in the middle of the loop, at the first entry that does not
go with what was read before.  Over the whole table this comes to a condition
without an order: every term has a form, and neither an English term nor an
Arabic form is listed twice.  The loop keeps two lists of pairs whose keys are
distinct, and it goes on exactly as long as the next key is new to its list.

With distinct keys a lookup is membership, and so the accepted vocabulary can be
read in both directions: from a term to its preferred form and from there back.
-/

namespace Vocabulary

/-- Every term has a form, and nothing is listed twice. -/
structure Consistent (terms : List Term) : Prop where
  formed : ∀ term ∈ terms, term.arabic ≠ []
  terms_distinct : (terms.map Term.english).Nodup
  forms_distinct : (terms.flatMap Term.arabic).Nodup

/-! ## Acceptance -/

section Loop

variable {english : Text} {forms : List Text} {terms : List Term} {preferred pairs : List (Text × Text)}

theorem nodup_keys_concat {key value : Text} (distinct : (pairs.map Prod.fst).Nodup)
    (new : key ∉ pairs.map Prod.fst) : ((pairs ++ [(key, value)]).map Prod.fst).Nodup := by
  have keys : (pairs ++ [(key, value)]).map Prod.fst = (pairs.map Prod.fst).concat key := by
    rw [List.map_append, List.concat_eq_append]
    rfl
  rw [keys]
  exact distinct.concat new

/-- The forms of a term are added exactly if they are new and distinct. -/
theorem exists_addForms_iff (distinct : (pairs.map Prod.fst).Nodup) :
    (∃ result, addForms english forms pairs = .ok result) ↔ (pairs.map Prod.fst ++ forms).Nodup := by
  induction forms generalizing pairs with
  | nil =>
      rw [List.append_nil]
      exact ⟨fun _ => distinct, fun _ => ⟨pairs, rfl⟩⟩
  | cons form forms inductionHypothesis =>
      have regrouped : (pairs ++ [(form, english)]).map Prod.fst ++ forms =
          pairs.map Prod.fst ++ form :: forms := by
        rw [List.map_append, List.append_assoc]
        rfl
      constructor
      · rintro ⟨result, added⟩
        obtain ⟨new, remains⟩ := addForms_cons_eq_ok_iff.mp added
        rw [← regrouped]
        exact (inductionHypothesis (nodup_keys_concat distinct new)).mp ⟨result, remains⟩
      · intro all
        have new : form ∉ pairs.map Prod.fst := fun listed =>
          (List.nodup_append.mp all).2.2 form listed form List.mem_cons_self rfl
        rw [← regrouped] at all
        obtain ⟨result, remains⟩ := (inductionHypothesis (nodup_keys_concat distinct new)).mpr all
        exact ⟨result, addForms_cons_eq_ok_iff.mpr ⟨new, remains⟩⟩

theorem keys_of_addForms {result : List (Text × Text)} (added : addForms english forms pairs = .ok result) :
    result.map Prod.fst = pairs.map Prod.fst ++ forms := by
  rw [eq_append_of_addForms added, List.map_append, List.map_map]
  exact congrArg _ (List.map_id _)

/-- The terms are added exactly if each of them has a form and what is read is
new and distinct. -/
theorem exists_addTerms_iff (termsDistinct : (preferred.map Prod.fst).Nodup)
    (formsDistinct : (pairs.map Prod.fst).Nodup) :
    (∃ result, addTerms terms preferred pairs = .ok result) ↔
      (∀ term ∈ terms, term.arabic ≠ []) ∧ (preferred.map Prod.fst ++ terms.map Term.english).Nodup ∧
        (pairs.map Prod.fst ++ terms.flatMap Term.arabic).Nodup := by
  induction terms generalizing preferred pairs with
  | nil =>
      rw [List.map_nil, List.flatMap_nil, List.append_nil, List.append_nil]
      exact ⟨fun _ => ⟨List.forall_mem_nil _, termsDistinct, formsDistinct⟩, fun _ => ⟨(preferred, pairs), rfl⟩⟩
  | cons term terms inductionHypothesis =>
      have regrouped : ∀ form, (preferred ++ [(term.english, form)]).map Prod.fst ++ terms.map Term.english =
          preferred.map Prod.fst ++ (term :: terms).map Term.english := by
        intro form
        rw [List.map_append, List.append_assoc]
        rfl
      rw [List.forall_mem_cons, List.flatMap_cons, ← List.append_assoc]
      constructor
      · rintro ⟨result, added⟩
        obtain ⟨form, between, first, new, formsAdded, remains⟩ := addTerms_cons_eq_ok_iff.mp added
        have distinct := (exists_addForms_iff formsDistinct).mp ⟨between, formsAdded⟩
        rw [← keys_of_addForms formsAdded] at distinct
        obtain ⟨formed, termsAll, formsAll⟩ :=
          (inductionHypothesis (nodup_keys_concat termsDistinct new) distinct).mp ⟨result, remains⟩
        rw [regrouped] at termsAll
        rw [keys_of_addForms formsAdded] at formsAll
        refine ⟨⟨?_, formed⟩, termsAll, formsAll⟩
        rintro empty
        rw [empty] at first
        cases first
      · rintro ⟨⟨nonempty, formed⟩, termsAll, formsAll⟩
        obtain ⟨form, others, formsEq⟩ := List.exists_cons_of_ne_nil nonempty
        have new : term.english ∉ preferred.map Prod.fst := fun listed =>
          (List.nodup_append.mp termsAll).2.2 _ listed _ List.mem_cons_self rfl
        obtain ⟨between, formsAdded⟩ : ∃ between, addForms term.english term.arabic pairs = .ok between :=
          (exists_addForms_iff formsDistinct).mpr (List.nodup_append.mp formsAll).1
        rw [← regrouped form] at termsAll
        rw [← keys_of_addForms formsAdded] at formsAll
        obtain ⟨result, remains⟩ := (inductionHypothesis (nodup_keys_concat termsDistinct new)
          (List.nodup_append.mp formsAll).1).mpr ⟨formed, termsAll, formsAll⟩
        refine ⟨result, addTerms_cons_eq_ok_iff.mpr ⟨form, between, ?_, new, formsAdded, remains⟩⟩
        rw [formsEq, List.head?_cons]

end Loop

/-- Exactly the consistent tables are accepted. -/
theorem exists_ofTerms_iff {terms : List Term} :
    (∃ vocabulary, ofTerms terms = .ok vocabulary) ↔ Consistent terms := by
  have added : (∃ result, addTerms terms [] [] = .ok result) ↔ _ :=
    exists_addTerms_iff List.nodup_nil List.nodup_nil
  constructor
  · rintro ⟨vocabulary, accepted⟩
    cases result : addTerms terms [] [] with
    | error error =>
        rw [ofTerms, result] at accepted
        cases accepted
    | ok lists =>
        obtain ⟨formed, termsDistinct, formsDistinct⟩ := added.mp ⟨lists, result⟩
        exact ⟨formed, termsDistinct, formsDistinct⟩
  · intro consistent
    obtain ⟨lists, result⟩ :=
      added.mpr ⟨consistent.formed, consistent.terms_distinct, consistent.forms_distinct⟩
    rw [ofTerms, result]
    exact ⟨_, rfl⟩

/-! ## The accepted vocabulary -/

/-- The vocabulary holds the table: all of its pairs in the order of matching,
and both directions of translation. -/
structure Reflects (terms : List Term) (vocabulary : Vocabulary) : Prop where
  perm : vocabulary.longestFirst.Perm (pairsOf terms)
  sorted : vocabulary.longestFirst.Pairwise fun first later => later.1.length ≤ first.1.length
  /-- Forms of equal length stand in table order. -/
  stable : ∀ length, vocabulary.longestFirst.filter (fun entry => entry.1.length = length) =
    (pairsOf terms).filter fun entry => entry.1.length = length
  /-- A term leads to its preferred form, and this form leads back to the term. -/
  returns : ∀ term ∈ terms, ∃ form, term.arabic.head? = some form ∧
    vocabulary.toArabic? term.english = some form ∧ vocabulary.longestFirst.lookup form = some term.english
  absent : ∀ english, english ∉ terms.map Term.english → vocabulary.toArabic? english = none

theorem keys_pairsOf (terms : List Term) : (pairsOf terms).map Prod.fst = terms.flatMap Term.arabic := by
  rw [pairsOf, List.map_flatMap]
  refine List.flatMap_congr fun term _ => ?_
  rw [List.map_map]
  exact List.map_id _

theorem keys_preferredOf {terms : List Term} (formed : ∀ term ∈ terms, term.arabic ≠ []) :
    (preferredOf terms).map Prod.fst = terms.map Term.english := by
  induction terms with
  | nil => rfl
  | cons term terms inductionHypothesis =>
      rw [List.forall_mem_cons] at formed
      obtain ⟨form, others, formsEq⟩ := List.exists_cons_of_ne_nil formed.1
      rw [preferredOf, List.filterMap_cons, formsEq, List.head?_cons]
      exact congrArg (term.english :: ·) (inductionHypothesis formed.2)

theorem mem_preferredOf {terms : List Term} {term : Term} {form : Text} (listed : term ∈ terms)
    (first : term.arabic.head? = some form) : (term.english, form) ∈ preferredOf terms :=
  List.mem_filterMap.mpr ⟨term, listed, by rw [first, Option.map_some]⟩

/-- Sorting keeps the order of the entries whose forms are equally long. -/
theorem filter_length_sort (pairs : List (Text × Text)) (length : Nat) :
    (Sorting.sort triedBefore pairs).filter (fun entry => entry.1.length = length) =
      pairs.filter fun entry => entry.1.length = length := by
  rw [← Sorting.sort_filter triedBefore_trans triedBefore_total]
  refine Sorting.sort_eq_self (List.pairwise_of_forall_mem_list fun first inFirst second inSecond => ?_)
  have firstLength : first.1.length = length := of_decide_eq_true (List.mem_filter.mp inFirst).2
  have secondLength : second.1.length = length := of_decide_eq_true (List.mem_filter.mp inSecond).2
  rw [triedBefore, firstLength, secondLength]
  exact decide_eq_true (Nat.le_refl length)

section Accepted

variable {terms : List Term} {vocabulary : Vocabulary} (accepted : ofTerms terms = .ok vocabulary)

include accepted

theorem consistent_of_accepted : Consistent terms :=
  exists_ofTerms_iff.mp ⟨vocabulary, accepted⟩

theorem perm_pairsOf : vocabulary.longestFirst.Perm (pairsOf terms) := by
  rw [longestFirst_of_ofTerms accepted]
  exact Sorting.sort_perm _ _

/-- No form is tried twice. -/
theorem nodup_keys_longestFirst : (vocabulary.longestFirst.map Prod.fst).Nodup := by
  rw [((perm_pairsOf accepted).map Prod.fst).nodup_iff, keys_pairsOf]
  exact (consistent_of_accepted accepted).forms_distinct

theorem nodup_keys_preferred : (vocabulary.preferred.map Prod.fst).Nodup := by
  have consistent := consistent_of_accepted accepted
  rw [eq_of_ofTerms accepted, keys_preferredOf consistent.formed]
  exact consistent.terms_distinct

theorem reflects_of_accepted : Reflects terms vocabulary where
  perm := perm_pairsOf accepted
  sorted := longestFirst_sorted accepted
  stable length := by
    rw [longestFirst_of_ofTerms accepted]
    exact filter_length_sort _ length
  returns := by
    intro term listed
    have formed := (consistent_of_accepted accepted).formed term listed
    obtain ⟨form, others, formsEq⟩ := List.exists_cons_of_ne_nil formed
    have first : term.arabic.head? = some form := by rw [formsEq, List.head?_cons]
    refine ⟨form, first, ?_, ?_⟩
    · apply lookup_eq_some_of_mem (nodup_keys_preferred accepted)
      rw [eq_of_ofTerms accepted]
      exact mem_preferredOf listed first
    · apply lookup_eq_some_of_mem (nodup_keys_longestFirst accepted)
      rw [(perm_pairsOf accepted).mem_iff]
      exact mem_pairsOf.mpr ⟨term, listed, List.mem_of_mem_head? first, rfl⟩
  absent := by
    intro english unlisted
    refine lookup_eq_none_iff_not_mem.mpr ?_
    rw [eq_of_ofTerms accepted, keys_preferredOf (consistent_of_accepted accepted).formed]
    exact unlisted

end Accepted

/-- Exactly the consistent tables are accepted, and the vocabulary of an accepted
table reflects it. -/
theorem accepts_and_reflects (terms : List Term) :
    ((∃ vocabulary, ofTerms terms = .ok vocabulary) ↔ Consistent terms) ∧
      ∀ vocabulary, ofTerms terms = .ok vocabulary → Reflects terms vocabulary :=
  ⟨exists_ofTerms_iff, fun _ => reflects_of_accepted⟩

/-- The table of products is accepted, and its vocabulary reflects it. -/
theorem accepts_and_reflects_products :
    Consistent Lexicon.productTerms ∧ ofTerms Lexicon.productTerms = .ok Lexicon.products ∧
      Reflects Lexicon.productTerms Lexicon.products := by
  have accepted := ofTerms_eq_ofConsistent Lexicon.productTerms Lexicon.productTerms_consistent
  obtain ⟨accepts, reflects⟩ := accepts_and_reflects Lexicon.productTerms
  exact ⟨accepts.mp ⟨Lexicon.products, accepted⟩, accepted, reflects Lexicon.products accepted⟩

end Vocabulary
end FeedDesk
