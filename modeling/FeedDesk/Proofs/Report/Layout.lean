import FeedDesk.Proofs.Report.Wording

namespace FeedDesk
namespace Report

/-!
# Fixed words between stretches of data

A finished report consists of fixed words and of stretches of data.  A layout
reads a text in this way and gives the Arabic text that has the same stretches.
Translating a text reaches the Arabic one exactly if no stretch carries a label
or the unit: otherwise it loses letters that the Arabic text still has.
-/

/-- The text holds a label with its colon at the beginning of a word. -/
def CarriesLabel (text : Text) : Prop :=
  ∃ (front : Text) (label : Label) (back : Text),
    text = front ++ (label.english ++ ':' :: back) ∧ front.getLast?.any Text.isWordChar = false

/-- The text holds the unit at the end of a word. -/
def CarriesUnit (text : Text) : Prop :=
  ∃ front back, text = front ++ (englishUnit ++ back) ∧ back.head?.any Text.isWordChar = false

/-- The text holds words that are replaced in a report. -/
def Carries (text : Text) : Prop :=
  CarriesLabel text ∨ CarriesUnit text

theorem marks_labelPass_iff {text : Text} : labelPass.Marks none text ↔ CarriesLabel text := by
  constructor
  · rintro ⟨front, back, rfl, marked⟩
    obtain ⟨spotted, found⟩ := Option.isSome_iff_exists.mp marked
    obtain ⟨label, found, _⟩ := Option.map_eq_some_iff.mp found
    obtain ⟨free, rest, rfl⟩ := labelSpot?_eq_some_iff.mp found
    rw [lastOf_none] at free
    exact ⟨front, label, rest, by rw [Label.mark, List.append_assoc]; rfl, free⟩
  · rintro ⟨front, label, back, rfl, free⟩
    refine ⟨front, _, rfl, ?_⟩
    have found : labelSpot? (lastOf none front) (label.english ++ ':' :: back) = some label := by
      refine labelSpot?_eq_some_iff.mpr ⟨by rwa [lastOf_none], back, ?_⟩
      rw [Label.mark, List.append_assoc]
      rfl
    change ((labelSpot? _ _).map _).isSome
    rw [found]
    rfl

theorem marks_unitPass_iff {text : Text} : unitPass.Marks none text ↔ CarriesUnit text := by
  constructor
  · rintro ⟨front, back, rfl, marked⟩
    change (if unitHere back then some (englishUnit, arabicUnit) else none).isSome at marked
    split at marked
    · rename_i here
      obtain ⟨rest, rfl, ends⟩ := unitHere_iff.mp here
      exact ⟨front, rest, rfl, ends⟩
    · cases marked
  · rintro ⟨front, back, rfl, ends⟩
    refine ⟨front, englishUnit ++ back, rfl, ?_⟩
    change (if unitHere (englishUnit ++ back) then some (englishUnit, arabicUnit) else none).isSome
    rw [if_pos (unitHere_iff.mpr ⟨back, rfl, ends⟩)]
    rfl

/-! ## Both passes -/

/-- Both passes over the text that remains after a character. -/
def translateFrom (before : Option Char) (text : Text) : Text :=
  translateUnitFrom 0 (translateLabelsFrom 0 before text)

/-- A stretch of data that carries nothing stays as it is. -/
theorem translateFrom_eq_self {text : Text} (free : ¬ Carries text) : translateFrom none text = text := by
  have labels : translateLabelsFrom 0 none text = text :=
    labelPass.run_eq_self fun marked => free (Or.inl (marks_labelPass_iff.mp marked))
  rw [translateFrom, labels]
  have unmarked : ¬ unitPass.Marks none text := fun marked => free (Or.inr (marks_unitPass_iff.mp marked))
  exact unitPass.run_eq_self unmarked

theorem letters_translateFrom_le (before : Option Char) (text : Text) :
    letters (translateFrom before text) ≤ letters text :=
  Nat.le_trans (unitPass.letters_run_le none _) (labelPass.letters_run_le before text)

theorem letters_translateFrom_lt {text : Text} (carries : Carries text) :
    letters (translateFrom none text) < letters text := by
  by_cases label : CarriesLabel text
  · exact Nat.lt_of_le_of_lt (unitPass.letters_run_le none _)
      (labelPass.letters_run_lt (marks_labelPass_iff.mpr label))
  · have labels : translateLabelsFrom 0 none text = text :=
      labelPass.run_eq_self fun marked => label (marks_labelPass_iff.mp marked)
    rw [translateFrom, labels]
    exact unitPass.letters_run_lt (marks_unitPass_iff.mpr (carries.resolve_left label))

/-! ## Characters that begin no mark -/

variable {before : Option Char}

theorem labelSpot?_of_first {char : Char} {text : Text}
    (first : ∀ label : Label, ∀ rest, label.mark ≠ char :: rest) :
    labelSpot? before (char :: text) = none := by
  cases found : labelSpot? before (char :: text) with
  | none => rfl
  | some label =>
      obtain ⟨_, rest, split⟩ := labelSpot?_eq_some_iff.mp found
      obtain ⟨initial, others, begins, _⟩ := label.exists_mark_eq
      rw [begins] at split
      obtain ⟨rfl, _⟩ := List.cons.inj split
      exact absurd begins (first label others)

/-- The character begins neither a label nor the unit. -/
def isPlain (char : Char) : Bool :=
  !Text.isAsciiUpper char && char != '/'

theorem translateLabelsFrom_of_not_upper {char : Char} (small : Text.isAsciiUpper char = false) (text : Text) :
    translateLabelsFrom 0 before (char :: text) = char :: translateLabelsFrom 0 (some char) text := by
  rw [translateLabelsFrom_cons, labelSpot?_of_first]
  intro label rest begins
  obtain ⟨first, others, same, _, upper⟩ := label.exists_mark_eq
  obtain ⟨rfl, _⟩ := List.cons.inj (begins.symm.trans same)
  rw [small] at upper
  cases upper

theorem translateUnitFrom_of_ne {char : Char} (other : char ≠ '/') (text : Text) :
    translateUnitFrom 0 (char :: text) = char :: translateUnitFrom 0 text := by
  rw [translateUnitFrom_cons, if_neg]
  intro here
  obtain ⟨rest, split, _⟩ := unitHere_iff.mp here
  exact other (List.cons.inj split).1

theorem translateFrom_plain {char : Char} (plain : isPlain char = true) (text : Text) :
    translateFrom before (char :: text) = char :: translateFrom (some char) text := by
  simp only [isPlain, Bool.and_eq_true, Bool.not_eq_true', bne_iff_ne, ne_eq] at plain
  rw [translateFrom, translateLabelsFrom_of_not_upper plain.1, translateUnitFrom_of_ne plain.2]
  rfl

theorem translateUnitFrom_append_of_not_mem {left : Text} (free : '/' ∉ left) (right : Text) :
    translateUnitFrom 0 (left ++ right) = left ++ translateUnitFrom 0 right := by
  induction left with
  | nil => rfl
  | cons char left inductionHypothesis =>
      have other : char ≠ '/' := fun same => free (same ▸ List.mem_cons_self)
      rw [List.cons_append, translateUnitFrom_of_ne other,
        inductionHypothesis fun member => free (List.mem_cons_of_mem char member)]
      rfl

/-- The beginning of a text that begins no word is kept by the pass over the
labels. -/
theorem head?_translateLabelsFrom {text : Text} (noWord : text.head?.any Text.isWordChar = false) :
    (translateLabelsFrom 0 before text).head? = text.head? := by
  cases text with
  | nil => rfl
  | cons char text =>
      rw [translateLabelsFrom_cons, labelSpot?_of_first]
      · rfl
      · intro label rest begins
        obtain ⟨first, others, same, word, _⟩ := label.exists_mark_eq
        obtain ⟨rfl, _⟩ := List.cons.inj (begins.symm.trans same)
        rw [List.head?_cons, Option.any_some, word] at noWord
        cases noWord

/-! ## Fixed words -/

theorem translateFrom_label (free : before.any Text.isWordChar = false) (label : Label) (text : Text) :
    translateFrom before (label.mark ++ text) = (label.arabic ++ [':']) ++ translateFrom (some ':') text := by
  have spotted : labelPass.spot? before (label.mark ++ text) = some (label.mark, label.arabic ++ [':']) := by
    change (labelSpot? before _).map _ = _
    rw [labelSpot?_eq_some_iff.mpr ⟨free, text, rfl⟩]
    rfl
  have replaced : translateLabelsFrom 0 before (label.mark ++ text) =
      (label.arabic ++ [':']) ++ translateLabelsFrom 0 (some ':') text := by
    have run := labelPass.run_of_spot spotted
    rw [Label.mark, lastOf_append] at run
    exact run
  have noSlash : '/' ∉ label.arabic ++ [':'] := by cases label <;> decide
  rw [translateFrom, replaced, translateUnitFrom_append_of_not_mem noSlash]
  rfl

theorem translateFrom_unit {text : Text} (noWord : text.head?.any Text.isWordChar = false) :
    translateFrom before (englishUnit ++ text) = arabicUnit ++ translateFrom (some 'g') text := by
  have labels : translateLabelsFrom 0 before (englishUnit ++ text) =
      englishUnit ++ translateLabelsFrom 0 (some 'g') text := by
    change translateLabelsFrom 0 before ('/' :: 'k' :: 'g' :: text) = _
    rw [translateLabelsFrom_of_not_upper rfl, translateLabelsFrom_of_not_upper rfl,
      translateLabelsFrom_of_not_upper rfl]
    rfl
  have here : unitHere (englishUnit ++ translateLabelsFrom 0 (some 'g') text) = true :=
    unitHere_iff.mpr ⟨_, rfl, by rwa [head?_translateLabelsFrom noWord]⟩
  have found : unitPass.spot? none (englishUnit ++ translateLabelsFrom 0 (some 'g') text) =
      some (englishUnit, arabicUnit) := if_pos here
  rw [translateFrom, labels]
  exact unitPass.run_of_spot found

/-- A stretch of data is translated by itself. -/
theorem translateFrom_stretch {stretch text : Text} (free : before.any Text.isWordChar = false)
    (closes : Closes text) :
    translateFrom before (stretch ++ text) =
      translateFrom none stretch ++ translateFrom (lastOf before stretch) text := by
  have begins : translateLabelsFrom 0 before stretch = translateLabelsFrom 0 none stretch := by
    cases stretch with
    | nil => rfl
    | cons char stretch =>
        have same : labelSpot? before (char :: stretch) = labelSpot? none (char :: stretch) := by
          rw [labelSpot?, labelSpot?, free]
          rfl
        rw [translateLabelsFrom_cons, translateLabelsFrom_cons, same]
  have labels : translateLabelsFrom 0 before (stretch ++ text) =
      translateLabelsFrom 0 before stretch ++ translateLabelsFrom 0 (lastOf before stretch) text :=
    labelPass.run_append closes.labelJoint
  -- The second pass meets the text that the first one leaves, which keeps its first character.
  have joint : unitPass.Joint none (translateLabelsFrom 0 none stretch)
      (translateLabelsFrom 0 (lastOf before stretch) text) := by
    refine unitJoint ?_
    rw [head?_translateLabelsFrom closes.noWord]
    exact closes.noWord
  rw [translateFrom, labels, begins]
  exact unitPass.run_append joint

/-! ## Layouts -/

/-- The text after a character is read as fixed words and stretches of data; the
second text is the Arabic one. -/
inductive Layout : Option Char → Text → Text → List Text → Prop
  | done (before : Option Char) : Layout before [] [] []
  | plain {before : Option Char} {char : Char} {english arabic : Text} {stretches : List Text} :
      isPlain char = true → Layout (some char) english arabic stretches →
      Layout before (char :: english) (char :: arabic) stretches
  | label {before : Option Char} (label : Label) {english arabic : Text} {stretches : List Text} :
      before.any Text.isWordChar = false → Layout (some ':') english arabic stretches →
      Layout before (label.mark ++ english) ((label.arabic ++ [':']) ++ arabic) stretches
  | unit {before : Option Char} {english arabic : Text} {stretches : List Text} :
      english.head?.any Text.isWordChar = false → Layout (some 'g') english arabic stretches →
      Layout before (englishUnit ++ english) (arabicUnit ++ arabic) stretches
  | stretch {before : Option Char} (stretch : Text) {english arabic : Text} {stretches : List Text} :
      before.any Text.isWordChar = false → Closes english →
      Layout (lastOf before stretch) english arabic stretches →
      Layout before (stretch ++ english) (stretch ++ arabic) (stretch :: stretches)

/-- What is reached is the Arabic text if no stretch carries anything, and has
fewer letters otherwise. -/
structure Settles (reached arabic : Text) (stretches : List Text) : Prop where
  atMost : letters reached ≤ letters arabic
  same : (∀ stretch ∈ stretches, ¬ Carries stretch) → reached = arabic
  fewer : ∀ stretch ∈ stretches, Carries stretch → letters reached < letters arabic

namespace Settles

variable {reached arabic : Text} {stretches : List Text}

theorem append (settles : Settles reached arabic stretches) (written : Text) :
    Settles (written ++ reached) (written ++ arabic) stretches where
  atMost := by
    rw [letters_append, letters_append]
    exact Nat.add_le_add_left settles.atMost _
  same free := by rw [settles.same free]
  fewer stretch listed carries := by
    rw [letters_append, letters_append]
    exact Nat.add_lt_add_left (settles.fewer stretch listed carries) _

theorem cons (settles : Settles reached arabic stretches) (stretch : Text) :
    Settles (translateFrom none stretch ++ reached) (stretch ++ arabic) (stretch :: stretches) where
  atMost := by
    rw [letters_append, letters_append]
    exact Nat.add_le_add (letters_translateFrom_le none stretch) settles.atMost
  same free := by
    rw [translateFrom_eq_self (free stretch List.mem_cons_self),
      settles.same fun other listed => free other (List.mem_cons_of_mem stretch listed)]
  fewer other listed carries := by
    rw [letters_append, letters_append]
    rcases List.mem_cons.mp listed with rfl | later
    · exact Nat.add_lt_add_of_lt_of_le (letters_translateFrom_lt carries) settles.atMost
    · exact Nat.add_lt_add_of_le_of_lt (letters_translateFrom_le none stretch)
        (settles.fewer other later carries)

theorem eq_iff (settles : Settles reached arabic stretches) :
    reached = arabic ↔ ∀ stretch ∈ stretches, ¬ Carries stretch := by
  constructor
  · -- Equal texts have equally many letters, so nothing can have been lost.
    rintro rfl stretch listed carries
    exact absurd (settles.fewer stretch listed carries) (Nat.lt_irrefl _)
  · exact settles.same

end Settles

theorem Layout.settles {english arabic : Text} {stretches : List Text}
    (layout : Layout before english arabic stretches) :
    Settles (translateFrom before english) arabic stretches := by
  induction layout with
  | done before => exact ⟨Nat.le_refl _, fun _ => rfl, fun _ impossible => nomatch impossible⟩
  | plain plain _ inductionHypothesis =>
      rw [translateFrom_plain plain]
      exact inductionHypothesis.append [_]
  | label label free _ inductionHypothesis =>
      rw [translateFrom_label free]
      exact inductionHypothesis.append _
  | unit noWord _ inductionHypothesis =>
      rw [translateFrom_unit noWord]
      exact inductionHypothesis.append _
  | stretch stretch free closes _ inductionHypothesis =>
      rw [translateFrom_stretch free closes]
      exact inductionHypothesis.cons stretch

end Report
end FeedDesk
