import FeedDesk.Lexicon.Vocabulary
import FeedDesk.Proofs.Sorting

namespace FeedDesk

/-!
# The entries of an accepted table

A vocabulary is built in one nested loop that may stop early, and is then
sorted.  For a table that is accepted the result is described here without
the loop: the list that is matched against a text holds exactly the pairs of
a form and its term, and no entry is followed by one with a longer form.
What is said about passes over texts starts from these two facts.  Which
tables are accepted is a question of its own and is settled elsewhere.
-/

/-! ## Lists of pairs with their keys -/

section Keys

variable {α β : Type} [BEq α] [LawfulBEq α] {pairs : List (α × β)} {key : α} {value : β}

/-- Nothing is found under a key that is not listed. -/
theorem lookup_eq_none_iff_not_mem : pairs.lookup key = none ↔ key ∉ pairs.map Prod.fst := by
  rw [List.lookup_eq_none_iff, List.mem_map]
  constructor
  · rintro others ⟨pair, listed, rfl⟩
    have differs := others pair listed
    rw [bne_self_eq_false] at differs
    cases differs
  · intro unlisted pair listed
    exact bne_iff_ne.mpr fun same => unlisted ⟨pair, listed, same.symm⟩

/-- Where no key is listed twice, what is listed is found. -/
theorem lookup_eq_some_of_mem (distinct : (pairs.map Prod.fst).Nodup) (listed : (key, value) ∈ pairs) :
    pairs.lookup key = some value := by
  obtain ⟨front, back, rfl⟩ := List.append_of_mem listed
  refine List.lookup_eq_some_iff.mpr ⟨front, back, rfl, fun pair earlier => ?_⟩
  rw [List.map_append, List.map_cons] at distinct
  have apart := (List.nodup_append.mp distinct).2.2 pair.1 (List.mem_map_of_mem earlier) key
    List.mem_cons_self
  exact bne_iff_ne.mpr (Ne.symm apart)

end Keys

namespace Vocabulary

/-- Every form of a table with its English term, in table order. -/
def pairsOf (terms : List Term) : List (Text × Text) :=
  terms.flatMap fun term => term.arabic.map fun form => (form, term.english)

theorem mem_pairsOf {terms : List Term} {form english : Text} :
    (form, english) ∈ pairsOf terms ↔
      ∃ term ∈ terms, form ∈ term.arabic ∧ english = term.english := by
  simp only [pairsOf, List.mem_flatMap, List.mem_map, Prod.mk.injEq]
  constructor
  · rintro ⟨term, listed, other, member, rfl, rfl⟩
    exact ⟨term, listed, member, rfl⟩
  · rintro ⟨term, listed, member, rfl⟩
    exact ⟨term, listed, form, member, rfl, rfl⟩

/-- The English terms that have a form, each with its preferred one, in table
order. -/
def preferredOf (terms : List Term) : List (Text × Text) :=
  terms.filterMap fun term => term.arabic.head?.map fun form => (term.english, form)

/-! ## The loop -/

section Loop

variable {english form : Text} {forms : List Text} {term : Term} {terms : List Term}
  {preferred pairs : List (Text × Text)}

/-- A form is added if it is new. -/
theorem addForms_cons_eq_ok_iff {result : List (Text × Text)} :
    addForms english (form :: forms) pairs = .ok result ↔
      form ∉ pairs.map Prod.fst ∧ addForms english forms (pairs ++ [(form, english)]) = .ok result := by
  rw [addForms, ← lookup_eq_none_iff_not_mem]
  cases pairs.lookup form with
  | none => exact (and_iff_right rfl).symm
  | some other =>
      constructor
      · intro impossible
        cases impossible
      · rintro ⟨impossible, _⟩
        cases impossible

/-- A term is added if it has a form, is new itself, and all its forms can be
added. -/
theorem addTerms_cons_eq_ok_iff {result : List (Text × Text) × List (Text × Text)} :
    addTerms (term :: terms) preferred pairs = .ok result ↔
      ∃ form between, term.arabic.head? = some form ∧ term.english ∉ preferred.map Prod.fst ∧
        addForms term.english term.arabic pairs = .ok between ∧
        addTerms terms (preferred ++ [(term.english, form)]) between = .ok result := by
  rw [addTerms, ← lookup_eq_none_iff_not_mem]
  cases formsEq : term.arabic with
  | nil =>
      constructor
      · intro impossible
        cases impossible
      · rintro ⟨_, _, impossible, _⟩
        cases impossible
  | cons form others =>
      cases preferred.lookup term.english with
      | some other =>
          constructor
          · intro impossible
            cases impossible
          · rintro ⟨_, _, _, impossible, _⟩
            cases impossible
      | none =>
          cases addForms term.english (form :: others) pairs with
          | error error =>
              constructor
              · intro impossible
                cases impossible
              · rintro ⟨_, _, _, _, impossible, _⟩
                cases impossible
          | ok between =>
              constructor
              · intro remains
                exact ⟨form, between, rfl, rfl, rfl, remains⟩
              · rintro ⟨_, _, ⟨⟩, _, ⟨⟩, remains⟩
                exact remains

theorem eq_append_of_addForms {result : List (Text × Text)}
    (added : addForms english forms pairs = .ok result) :
    result = pairs ++ forms.map fun form => (form, english) := by
  induction forms generalizing pairs with
  | nil =>
      cases added
      exact (List.append_nil _).symm
  | cons form forms inductionHypothesis =>
      rw [inductionHypothesis (addForms_cons_eq_ok_iff.mp added).2, List.map_cons, List.append_assoc,
        List.singleton_append]

/-- The loop appends the table to what it starts from. -/
theorem eq_append_of_addTerms {result : List (Text × Text) × List (Text × Text)}
    (added : addTerms terms preferred pairs = .ok result) :
    result = (preferred ++ preferredOf terms, pairs ++ pairsOf terms) := by
  induction terms generalizing preferred pairs with
  | nil =>
      cases added
      rw [preferredOf, pairsOf, List.filterMap_nil, List.flatMap_nil, List.append_nil, List.append_nil]
  | cons term terms inductionHypothesis =>
      obtain ⟨form, between, first, _, formsAdded, remains⟩ := addTerms_cons_eq_ok_iff.mp added
      rw [inductionHypothesis remains, eq_append_of_addForms formsAdded, List.append_assoc, List.append_assoc,
        preferredOf, preferredOf, pairsOf, pairsOf, List.filterMap_cons, first, List.flatMap_cons]
      rfl

end Loop

/-- An accepted table is all that its vocabulary holds. -/
theorem eq_of_ofTerms {terms : List Term} {vocabulary : Vocabulary} (accepted : ofTerms terms = .ok vocabulary) :
    vocabulary = ⟨preferredOf terms, Sorting.sort triedBefore (pairsOf terms)⟩ := by
  unfold ofTerms at accepted
  cases added : addTerms terms [] [] with
  | error error =>
      rw [added] at accepted
      cases accepted
  | ok result =>
      rw [added] at accepted
      cases accepted
      rw [eq_append_of_addTerms added]
      rfl

theorem longestFirst_of_ofTerms {terms : List Term} {vocabulary : Vocabulary}
    (accepted : ofTerms terms = .ok vocabulary) :
    vocabulary.longestFirst = Sorting.sort triedBefore (pairsOf terms) := by
  rw [eq_of_ofTerms accepted]

theorem ofTerms_eq_ofConsistent (terms : List Term) (consistent : (ofTerms terms).isOk = true) :
    ofTerms terms = .ok (ofConsistent terms consistent) := by
  unfold ofConsistent
  split
  rename_i vocabulary accepted _
  exact accepted

/-- The entries that are tried are exactly the pairs of the table. -/
theorem mem_longestFirst_ofConsistent {terms : List Term} {consistent : (ofTerms terms).isOk = true}
    {form english : Text} :
    (form, english) ∈ (ofConsistent terms consistent).longestFirst ↔
      ∃ term ∈ terms, form ∈ term.arabic ∧ english = term.english := by
  rw [longestFirst_of_ofTerms (ofTerms_eq_ofConsistent terms consistent), Sorting.mem_sort, mem_pairsOf]

theorem triedBefore_trans (first second third : Text × Text) (before : triedBefore first second = true)
    (after : triedBefore second third = true) : triedBefore first third = true := by
  simp only [triedBefore, decide_eq_true_eq] at *
  omega

theorem triedBefore_total (left right : Text × Text) :
    (triedBefore left right || triedBefore right left) = true := by
  simp only [triedBefore, Bool.or_eq_true, decide_eq_true_eq]
  omega

/-- No entry is tried before one with a longer form. -/
theorem longestFirst_sorted {terms : List Term} {vocabulary : Vocabulary}
    (accepted : ofTerms terms = .ok vocabulary) :
    vocabulary.longestFirst.Pairwise fun first later => later.1.length ≤ first.1.length := by
  rw [longestFirst_of_ofTerms accepted]
  have sorted := Sorting.pairwise_sort triedBefore_trans triedBefore_total (pairsOf terms)
  exact sorted.imp fun before => of_decide_eq_true before

theorem longestFirst_pairwise {terms : List Term} (consistent : (ofTerms terms).isOk = true) :
    (ofConsistent terms consistent).longestFirst.Pairwise
      fun first later => later.1.length ≤ first.1.length :=
  longestFirst_sorted (ofTerms_eq_ofConsistent terms consistent)

/-- What is mentioned is a term of the table. -/
theorem exists_term_of_mentioned? {terms : List Term} {consistent : (ofTerms terms).isOk = true}
    {text english : Text} (found : (ofConsistent terms consistent).mentioned? text = some english) :
    ∃ term ∈ terms, english = term.english := by
  obtain ⟨⟨form, _⟩, here, rfl⟩ := Option.map_eq_some_iff.mp found
  obtain ⟨term, inTable, _, same⟩ := mem_longestFirst_ofConsistent.mp (List.mem_of_find?_eq_some here)
  exact ⟨term, inTable, same⟩

end Vocabulary
end FeedDesk
