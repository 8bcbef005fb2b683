import FeedDesk.Lexicon.Replacement

namespace FeedDesk

open FeedDesk.Language

/-!
# One pass over a text

The pass of a vocabulary counts its steps, because it looks ahead and drops a
whole form at once.  This module removes the count: when no form is empty the
pass always ends, and what it writes obeys two equations, one for a character
that is copied and one for a form that is replaced.  Which of the two applies
is decided by the entry that is found at the present place, so the search for
an entry is described first, with everything that finding one, or finding
none, says about the text.
-/

/-- A neighbour does not stand in the way of a replacement: only when whole
words count, and only an Arabic letter does. -/
def Matching.Allows (matching : Matching) (neighbour : Option Char) : Prop :=
  matching = .wholeWords → neighbour.any isArabicLetter = false

theorem Matching.anywhere_allows (neighbour : Option Char) : Matching.anywhere.Allows neighbour := by
  intro impossible
  cases impossible

theorem Matching.wholeWords_allows_iff {neighbour : Option Char} :
    Matching.wholeWords.Allows neighbour ↔ neighbour.any isArabicLetter = false :=
  ⟨fun allowed => allowed rfl, fun free _ => free⟩

namespace Vocabulary

variable {vocabulary : Vocabulary} {matching : Matching}

/-- The form of the entry begins the text, and what follows it does not stand
in the way. -/
def fits (matching : Matching) (text : Text) (entry : Text × Text) : Bool :=
  match Text.strip? entry.1 text with
  | none => false
  | some rest => !(decide (matching = .wholeWords) && rest.head?.any isArabicLetter)

theorem fits_iff {text : Text} {entry : Text × Text} :
    fits matching text entry = true ↔
      ∃ rest, text = entry.1 ++ rest ∧ matching.Allows rest.head? := by
  unfold fits
  cases stripped : Text.strip? entry.1 text with
  | none =>
      constructor
      · intro impossible
        cases impossible
      · rintro ⟨rest, same, _⟩
        rw [Text.strip?_eq_some_iff.mpr same] at stripped
        cases stripped
  | some rest =>
      have same := Text.strip?_eq_some_iff.mp stripped
      constructor
      · intro fit
        refine ⟨rest, same, ?_⟩
        intro whole
        simpa only [whole, decide_true, Bool.true_and, Bool.not_eq_true'] using fit
      · rintro ⟨other, otherSame, allowed⟩
        have equal : rest = other := List.append_cancel_left (same.symm.trans otherSame)
        cases matching with
        | anywhere => rfl
        | wholeWords =>
            simp only [decide_true, Bool.true_and, Bool.not_eq_true', equal]
            exact allowed rfl

/-- The entry by which the pass replaces at this place, if there is one. -/
def found? (vocabulary : Vocabulary) (matching : Matching) (before : Option Char) (text : Text) :
    Option (Text × Text) :=
  if matching = .wholeWords ∧ before.any isArabicLetter then none
  else vocabulary.longestFirst.find? (fits matching text)

theorem findSome?_eq_find?_map (matching : Matching) (text : Text)
    (entries : List (Text × Text)) :
    (entries.findSome? fun (form, english) =>
      match Text.strip? form text with
      | none => none
      | some rest =>
        if matching = .wholeWords ∧ rest.head?.any isArabicLetter then none
        else some (english, rest)) =
      (entries.find? (fits matching text)).map fun entry =>
        (entry.2, text.drop entry.1.length) := by
  induction entries with
  | nil => rfl
  | cons entry entries inductionHypothesis =>
      rw [List.findSome?_cons, List.find?_cons, fits]
      cases stripped : Text.strip? entry.1 text with
      | none => simpa only [stripped] using inductionHypothesis
      | some rest =>
          have dropped : text.drop entry.1.length = rest := by
            rw [Text.strip?_eq_some_iff.mp stripped, List.drop_left]
          by_cases stopped : matching = .wholeWords ∧ rest.head?.any isArabicLetter = true
          · simpa [stripped, stopped] using inductionHypothesis
          · have passed : (!(decide (matching = .wholeWords) && rest.head?.any isArabicLetter)) = true := by
              simpa [Decidable.imp_iff_not_or] using stopped
            simp only [stripped, if_neg stopped, passed, Option.map_some, dropped]

/-- The pass looks up entries: it writes the term of the entry and goes on
behind its form. -/
theorem here?_eq_found? (before : Option Char) (text : Text) :
    vocabulary.here? matching before text =
      (vocabulary.found? matching before text).map fun entry =>
        (entry.2, text.drop entry.1.length) := by
  unfold here? found?
  split
  · rfl
  · exact findSome?_eq_find?_map matching text vocabulary.longestFirst

theorem allows_of_found? {before : Option Char} {text : Text} {entry : Text × Text}
    (found : vocabulary.found? matching before text = some entry) : matching.Allows before := by
  intro whole
  unfold found? at found
  split at found
  · cases found
  · rename_i free
    exact Bool.eq_false_iff.mpr fun letter => free ⟨whole, letter⟩

theorem find?_of_found? {before : Option Char} {text : Text} {entry : Text × Text}
    (found : vocabulary.found? matching before text = some entry) :
    vocabulary.longestFirst.find? (fits matching text) = some entry := by
  unfold found? at found
  split at found
  · cases found
  · exact found

theorem mem_of_found? {before : Option Char} {text : Text} {entry : Text × Text}
    (found : vocabulary.found? matching before text = some entry) :
    entry ∈ vocabulary.longestFirst :=
  List.mem_of_find?_eq_some (find?_of_found? found)

theorem exists_rest_of_found? {before : Option Char} {text : Text} {entry : Text × Text}
    (found : vocabulary.found? matching before text = some entry) :
    ∃ rest, text = entry.1 ++ rest ∧ matching.Allows rest.head? :=
  fits_iff.mp (List.find?_some (find?_of_found? found))

/-- The entry that is found has a longest form among those that fit. -/
theorem length_le_of_found? {before : Option Char} {text : Text} {entry other : Text × Text}
    (sorted : vocabulary.longestFirst.Pairwise fun first later => later.1.length ≤ first.1.length)
    (found : vocabulary.found? matching before text = some entry)
    (listed : other ∈ vocabulary.longestFirst) (fit : fits matching text other = true) :
    other.1.length ≤ entry.1.length := by
  rcases List.find?_eq_some_iff_append.mp (find?_of_found? found) with
    ⟨_, earlier, later, split, refused⟩
  rw [split] at listed sorted
  rcases List.mem_append.mp listed with inEarlier | inLater
  · have impossible := refused other inEarlier
    rw [fit] at impossible
    cases impossible
  · rcases List.mem_cons.mp inLater with rfl | afterEntry
    · exact Nat.le_refl _
    · exact (List.pairwise_cons.mp (List.pairwise_append.mp sorted).2.1).1 other afterEntry

/-- Where nothing is found, no form fits, unless the text before already
stands in the way. -/
theorem not_fits_of_found?_eq_none {before : Option Char} {text : Text}
    (missing : vocabulary.found? matching before text = none) (allowed : matching.Allows before)
    {entry : Text × Text} (listed : entry ∈ vocabulary.longestFirst) :
    fits matching text entry = false := by
  unfold found? at missing
  split at missing
  · rename_i stopped
    have impossible := allowed stopped.1
    rw [stopped.2] at impossible
    cases impossible
  · exact Bool.eq_false_iff.mpr (List.find?_eq_none.mp missing entry listed)

/-! ## Without the count of steps -/

/-- No form of the vocabulary is empty. -/
def Formful (vocabulary : Vocabulary) : Prop :=
  ∀ entry ∈ vocabulary.longestFirst, entry.1 ≠ []

/-- What the pass writes for the text that remains. -/
def scan (vocabulary : Vocabulary) (matching : Matching) (before : Option Char) (text : Text) : Text :=
  (vocabulary.pass? matching text.length before text).getD text

theorem replaceForms_eq_scan (text : Text) :
    vocabulary.replaceForms matching text = vocabulary.scan matching none text := rfl

theorem step_of_found?_eq_none {before : Option Char} {char : Char} {text : Text}
    (missing : vocabulary.found? matching before (char :: text) = none) :
    vocabulary.step matching before char text = ([char], some char, text) := by
  rw [step, here?_eq_found?, missing]
  rfl

theorem step_of_found? {before : Option Char} {char : Char} {text : Text} {entry : Text × Text}
    (found : vocabulary.found? matching before (char :: text) = some entry) :
    vocabulary.step matching before char text =
      (entry.2, entry.2.getLast?, (char :: text).drop entry.1.length) := by
  rw [step, here?_eq_found?, found]
  rfl

/-- Every step takes at least one character. -/
theorem length_step_lt (formful : vocabulary.Formful) (matching : Matching) (before : Option Char)
    (char : Char) (text : Text) :
    (vocabulary.step matching before char text).2.2.length < (char :: text).length := by
  cases found : vocabulary.found? matching before (char :: text) with
  | none =>
      rw [step_of_found?_eq_none found]
      exact Nat.lt_succ_self _
  | some entry =>
      rw [step_of_found? found]
      have nonempty := List.length_pos_iff.mpr (formful entry (mem_of_found? found))
      simp only [List.length_drop, List.length_cons]
      omega

theorem pass?_succ_cons (steps : Nat) (before : Option Char) (char : Char) (text : Text) :
    vocabulary.pass? matching (steps + 1) before (char :: text) =
      (vocabulary.pass? matching steps (vocabulary.step matching before char text).2.1
        (vocabulary.step matching before char text).2.2).map
          ((vocabulary.step matching before char text).1 ++ ·) := rfl

/-- The count only has to reach the length of the text: any larger count
leads to the same end. -/
theorem exists_written_of_enough (formful : vocabulary.Formful) {length steps : Nat}
    {before : Option Char} {text : Text} (short : text.length ≤ length) (more : length ≤ steps) :
    ∃ written, vocabulary.pass? matching length before text = some written ∧
      vocabulary.pass? matching steps before text = some written := by
  induction length generalizing steps before text with
  | zero =>
      rw [List.length_eq_zero_iff.mp (Nat.le_zero.mp short)]
      exact ⟨[], by rw [pass?], by rw [pass?]⟩
  | succ length inductionHypothesis =>
      cases text with
      | nil => exact ⟨[], by rw [pass?], by rw [pass?]⟩
      | cons char text =>
          obtain ⟨others, rfl⟩ : ∃ others, steps = others + 1 := ⟨steps - 1, by omega⟩
          have shorter := length_step_lt formful matching before char text
          have short' : (vocabulary.step matching before char text).2.2.length ≤ length := by omega
          rcases inductionHypothesis short' (Nat.le_of_succ_le_succ more) with ⟨written, small, large⟩
          refine ⟨(vocabulary.step matching before char text).1 ++ written, ?_, ?_⟩
          · rw [pass?_succ_cons, small, Option.map_some]
          · rw [pass?_succ_cons, large, Option.map_some]

/-- With as many steps as there are characters the pass ends, and more steps
change nothing. -/
theorem pass?_eq_scan (formful : vocabulary.Formful) {steps : Nat} {before : Option Char} {text : Text}
    (enough : text.length ≤ steps) :
    vocabulary.pass? matching steps before text = some (vocabulary.scan matching before text) := by
  obtain ⟨written, small, large⟩ : ∃ written,
      vocabulary.pass? matching text.length before text = some written ∧
        vocabulary.pass? matching steps before text = some written :=
    exists_written_of_enough formful (Nat.le_refl text.length) enough
  rw [large, scan, small, Option.getD_some]

/-- A character at which no entry is found is copied. -/
theorem scan_cons_of_found?_eq_none (formful : vocabulary.Formful) {before : Option Char} {char : Char}
    {text : Text} (missing : vocabulary.found? matching before (char :: text) = none) :
    vocabulary.scan matching before (char :: text) =
      char :: vocabulary.scan matching (some char) text := by
  have whole : vocabulary.pass? matching (char :: text).length before (char :: text) =
      some (vocabulary.scan matching before (char :: text)) :=
    pass?_eq_scan formful (Nat.le_refl _)
  rw [List.length_cons, pass?_succ_cons, step_of_found?_eq_none missing] at whole
  simp only [pass?_eq_scan formful (Nat.le_refl text.length), Option.map_some, List.singleton_append,
    Option.some.injEq] at whole
  exact whole.symm

/-- A form at which its entry is found is replaced by the term of the entry. -/
theorem scan_append_of_found? (formful : vocabulary.Formful) {before : Option Char}
    {form english rest : Text}
    (found : vocabulary.found? matching before (form ++ rest) = some (form, english)) :
    vocabulary.scan matching before (form ++ rest) =
      english ++ vocabulary.scan matching english.getLast? rest := by
  cases form with
  | nil => exact absurd rfl (formful _ (mem_of_found? found))
  | cons char form =>
      have whole : vocabulary.pass? matching (form ++ rest).length.succ before (char :: (form ++ rest)) =
          some (vocabulary.scan matching before (char :: (form ++ rest))) :=
        pass?_eq_scan formful (Nat.le_refl _)
      have dropped : (char :: (form ++ rest)).drop (char :: form).length = rest := by
        rw [← List.cons_append, List.drop_left]
      rw [List.cons_append] at found ⊢
      rw [pass?_succ_cons, step_of_found? found] at whole
      have enough : rest.length ≤ (form ++ rest).length := by
        rw [List.length_append]
        omega
      simp only [dropped, pass?_eq_scan formful enough, Option.map_some, Option.some.injEq] at whole
      exact whole.symm

end Vocabulary
end FeedDesk
