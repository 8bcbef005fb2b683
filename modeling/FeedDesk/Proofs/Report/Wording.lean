import FeedDesk.Proofs.Report.Pass

namespace FeedDesk

/-!
# The passes over labels and over the unit

A label is replaced where it begins a word and a colon follows, the unit of
weight where it ends a word.  All labels begin with a capital and hold no other
one, so two of them never overlap; this is seen here from the texts that can
stand behind the beginning of a label.
-/

namespace Label

/-- The label as it stands in a report. -/
def mark (label : Label) : Text :=
  label.english ++ [':']

theorem here?_eq_some_iff {label : Label} {text : Text} :
    here? text = some label ↔ ∃ rest, text = label.mark ++ rest := by
  constructor
  · intro found
    have begins := List.find?_some found
    obtain ⟨rest, split⟩ := List.isPrefixOf_iff_prefix.mp begins
    exact ⟨rest, split.symm⟩
  · rintro ⟨rest, rfl⟩
    cases label <;> rfl

/-- A word character begins every label. -/
theorem exists_mark_eq (label : Label) :
    ∃ first rest, label.mark = first :: rest ∧
      Text.isWordChar first = true ∧ Text.isAsciiUpper first = true := by
  cases label <;> exact ⟨_, _, rfl, by decide +kernel, by decide⟩

theorem letters_arabic_lt (label : Label) :
    Report.letters (label.arabic ++ [':']) < Report.letters label.mark := by
  cases label <;> decide

end Label

namespace Report

/-! ## Labels -/

/-- The label that is replaced here. -/
def labelSpot? (before : Option Char) (text : Text) : Option Label :=
  if before.any Text.isWordChar then none else Label.here? text

theorem labelSpot?_eq_some_iff {before : Option Char} {text : Text} {label : Label} :
    labelSpot? before text = some label ↔
      before.any Text.isWordChar = false ∧ ∃ rest, text = label.mark ++ rest := by
  rw [labelSpot?]
  split
  · rename_i word
    rw [word]
    exact ⟨fun impossible => (nomatch impossible), fun ⟨impossible, _⟩ => (nomatch impossible)⟩
  · rename_i free
    rw [Label.here?_eq_some_iff]
    exact ⟨fun found => ⟨Bool.eq_false_iff.mpr free, found⟩, fun ⟨_, found⟩ => found⟩

/-- The pass looks for the label at a boundary. -/
theorem labelSpot?_cons (before : Option Char) (char : Char) (text : Text) :
    (if Text.isBoundary before (some char) then Label.here? (char :: text) else none) =
      labelSpot? before (char :: text) := by
  cases found : Label.here? (char :: text) with
  | none => rw [labelSpot?, found, ite_self, ite_self]
  | some label =>
      obtain ⟨rest, split⟩ := Label.here?_eq_some_iff.mp found
      obtain ⟨first, others, begins, word, _⟩ := label.exists_mark_eq
      rw [begins] at split
      obtain ⟨rfl, _⟩ := List.cons.inj split
      rw [labelSpot?, found, Text.isBoundary, Option.any_some, word]
      cases before.any Text.isWordChar <;> rfl

theorem translateLabelsFrom_cons (before : Option Char) (char : Char) (text : Text) :
    translateLabelsFrom 0 before (char :: text) =
      match labelSpot? before (char :: text) with
      | some label => label.arabic ++ ':' :: translateLabelsFrom label.english.length (some char) text
      | none => char :: translateLabelsFrom 0 (some char) text := by
  rw [← labelSpot?_cons]
  rfl

theorem translateLabelsFrom_skip (before : Option Char) (left right : Text) :
    translateLabelsFrom left.length before (left ++ right) =
      translateLabelsFrom 0 (lastOf before left) right := by
  induction left generalizing before with
  | nil => rfl
  | cons char left inductionHypothesis => exact inductionHypothesis (some char)

/-- The pass over the labels. -/
def labelPass : Pass where
  run := translateLabelsFrom 0
  spot? before text := (labelSpot? before text).map fun label => (label.mark, label.arabic ++ [':'])
  run_nil _ := rfl
  run_char := by
    intro before char text none
    rw [Option.map_eq_none_iff] at none
    rw [translateLabelsFrom_cons, none]
  run_spot := by
    intro before text mark written found
    obtain ⟨label, spotted, same⟩ := Option.map_eq_some_iff.mp found
    obtain ⟨rfl, rfl⟩ := Prod.mk.inj same
    obtain ⟨_, rest, rfl⟩ := labelSpot?_eq_some_iff.mp spotted
    obtain ⟨first, others, begins, _⟩ := label.exists_mark_eq
    have size : label.english.length = others.length := by
      have sizes := congrArg List.length begins
      rw [Label.mark, List.length_append] at sizes
      exact Nat.succ.inj sizes
    refine ⟨rest, rfl, ?_⟩
    rw [begins, List.cons_append] at spotted ⊢
    rw [translateLabelsFrom_cons, spotted]
    dsimp only
    rw [size, translateLabelsFrom_skip, List.append_assoc]
    rfl
  letters_mark := by
    intro before text mark written found
    obtain ⟨label, _, same⟩ := Option.map_eq_some_iff.mp found
    obtain ⟨rfl, rfl⟩ := Prod.mk.inj same
    exact label.letters_arabic_lt

/-! ## The unit -/

/-- The unit begins the text and ends a word. -/
def unitHere (text : Text) : Bool :=
  match Text.strip? englishUnit text with
  | some rest => !rest.head?.any Text.isWordChar
  | none => false

theorem unitHere_iff {text : Text} :
    unitHere text = true ↔ ∃ rest, text = englishUnit ++ rest ∧ rest.head?.any Text.isWordChar = false := by
  rw [unitHere]
  cases stripped : Text.strip? englishUnit text with
  | none =>
      constructor
      · intro impossible
        cases impossible
      · rintro ⟨rest, same, _⟩
        rw [Text.strip?_eq_some_iff.mpr same] at stripped
        cases stripped
  | some rest =>
      have same := Text.strip?_eq_some_iff.mp stripped
      dsimp only
      rw [Bool.not_eq_true']
      constructor
      · intro ends
        exact ⟨rest, same, ends⟩
      · rintro ⟨other, otherSame, ends⟩
        rwa [List.append_cancel_left (same.symm.trans otherSame)]

theorem translateUnitFrom_cons (char : Char) (text : Text) :
    translateUnitFrom 0 (char :: text) =
      if unitHere (char :: text) then arabicUnit ++ translateUnitFrom (englishUnit.length - 1) text
      else char :: translateUnitFrom 0 text := by
  have word : englishUnit.getLast?.any Text.isWordChar = true := by decide +kernel
  rw [translateUnitFrom, unitHere]
  cases Text.strip? englishUnit (char :: text) with
  | none => rfl
  | some rest =>
      dsimp only
      rw [Text.isBoundary, word, Bool.true_bne]

/-- The pass over the unit. -/
def unitPass : Pass where
  run _ := translateUnitFrom 0
  spot? _ text := if unitHere text then some (englishUnit, arabicUnit) else none
  run_nil _ := rfl
  run_char := by
    intro before char text none
    rw [translateUnitFrom_cons]
    split at none
    · cases none
    · rename_i free
      rw [if_neg free]
  run_spot := by
    intro before text mark written found
    split at found
    · rename_i here
      cases found
      obtain ⟨rest, rfl, _⟩ := unitHere_iff.mp here
      refine ⟨rest, rfl, ?_⟩
      exact (translateUnitFrom_cons '/' ('k' :: 'g' :: rest)).trans (if_pos here)
    · cases found
  letters_mark := by
    intro before text mark written found
    split at found
    · cases found
      decide
    · cases found

/-! ## Joints -/

/-- The text may follow anything: it begins no word, and no label that begins
before it ends in it. -/
structure Closes (right : Text) : Prop where
  noWord : right.head?.any Text.isWordChar = false
  noTail : ∀ (label : Label) (tail : Text), tail <:+ label.mark → tail ≠ label.mark → tail ≠ [] →
    ¬ tail <+: right

variable {before : Option Char} {left right : Text}

theorem Closes.labelJoint (closes : Closes right) : labelPass.Joint before left right := by
  intro front back _ nonempty
  change (labelSpot? _ (back ++ right)).map _ = (labelSpot? _ back).map _
  congr 1
  refine Option.ext fun label => ?_
  rw [labelSpot?_eq_some_iff, labelSpot?_eq_some_iff]
  refine and_congr_right fun _ => ⟨?_, ?_⟩
  · rintro ⟨rest, split⟩
    rcases List.append_eq_append_iff.mp split with ⟨beyond, markEq, behind⟩ | ⟨more, backEq, _⟩
    · cases beyond with
      | nil => exact ⟨[], by rw [markEq, List.append_nil, List.append_nil]⟩
      | cons char beyond =>
          refine absurd ⟨rest, behind.symm⟩
            (closes.noTail label (char :: beyond) ⟨back, markEq.symm⟩ ?_ (List.cons_ne_nil _ _))
          intro whole
          have sizes := congrArg List.length markEq
          rw [← whole, List.length_append] at sizes
          exact nonempty (List.length_eq_zero_iff.mp (by omega))
    · exact ⟨more, backEq⟩
  · rintro ⟨rest, rfl⟩
    exact ⟨rest ++ right, List.append_assoc _ _ _⟩

theorem unitJoint (noWord : right.head?.any Text.isWordChar = false) : unitPass.Joint before left right := by
  intro front back _ nonempty
  have same : unitHere (back ++ right) = unitHere back := by
    rw [Bool.eq_iff_iff, unitHere_iff, unitHere_iff]
    constructor
    · rintro ⟨rest, split, ends⟩
      rcases List.append_eq_append_iff.mp split with ⟨beyond, markEq, behind⟩ | ⟨more, rfl, rfl⟩
      · cases beyond with
        | nil => exact ⟨[], by rw [markEq, List.append_nil, List.append_nil], rfl⟩
        | cons char beyond =>
            -- The rest of the unit would begin a word behind the joint.
            have word : ['k', 'g'].all Text.isWordChar = true := by decide +kernel
            have member : char ∈ ['k', 'g'] := by
              cases back with
              | nil => exact absurd rfl nonempty
              | cons first back =>
                  have tail : ['k', 'g'] = back ++ char :: beyond := (List.cons.inj markEq).2
                  rw [tail]
                  exact List.mem_append_right back List.mem_cons_self
            rw [behind, List.cons_append, List.head?_cons, Option.any_some,
              List.all_eq_true.mp word char member] at noWord
            cases noWord
      · refine ⟨more, rfl, ?_⟩
        cases more with
        | nil => rfl
        | cons char more => exact ends
    · rintro ⟨rest, rfl, ends⟩
      refine ⟨rest ++ right, List.append_assoc _ _ _, ?_⟩
      cases rest with
      | nil => exact noWord
      | cons char rest => exact ends
  change (if unitHere (back ++ right) then some (englishUnit, arabicUnit) else none) =
    if unitHere back then some (englishUnit, arabicUnit) else none
  rw [same]

/-! ## What stands beside a stretch -/

/-- The fixed characters that stand before data. -/
def openingChars : List Char :=
  [' ', '.', '(', '[']

theorem isWordChar_of_mem_openingChars {char : Char} (member : char ∈ openingChars) :
    Text.isWordChar char = false := by
  have none : (openingChars.all fun char => !Text.isWordChar char) = true := by decide +kernel
  exact (Bool.not_eq_true' _).mp (List.all_eq_true.mp none char member)

/-- The fixed characters that stand behind data, apart from the blank. -/
def closingChars : List Char :=
  ['\n', ')', ']', '/']

theorem closes_nil : Closes [] where
  noWord := rfl
  noTail _ _ _ _ nonempty begins := nonempty (List.prefix_nil.mp begins)

theorem closes_of_mem_closingChars {char : Char} (member : char ∈ closingChars) (text : Text) :
    Closes (char :: text) where
  noWord := by
    have none : (closingChars.all fun char => !Text.isWordChar char) = true := by decide +kernel
    exact (Bool.not_eq_true' _).mp (List.all_eq_true.mp none char member)
  noTail := by
    intro label tail ends _ nonempty begins
    have absent : (closingChars.all fun char => char ∉ label.mark) = true := by cases label <;> decide
    cases tail with
    | nil => exact nonempty rfl
    | cons first tail =>
        obtain ⟨rfl, _⟩ := List.cons_prefix_cons.mp begins
        exact of_decide_eq_true (List.all_eq_true.mp absent first member) (ends.subset List.mem_cons_self)

/-- The characters that stand behind a blank in a label. -/
def innerInitials : List Char :=
  ['f', 'c', '%']

theorem mem_innerInitials {label : Label} {next : Char} {rest : Text}
    (ends : ' ' :: next :: rest <:+ label.mark) : next ∈ innerInitials := by
  obtain ⟨front, split⟩ := ends
  have dropped : label.mark.drop front.length = ' ' :: next :: rest := by rw [← split, List.drop_left]
  have shorter : front.length < label.mark.length := by
    rw [← split, List.length_append]
    exact Nat.lt_add_of_pos_right (Nat.succ_pos _)
  have initials : ∀ index < label.mark.length, (label.mark.drop index).head? = some ' ' →
      (label.mark.drop index).tail.head?.all fun next => next ∈ innerInitials := by
    cases label <;> decide
  have initial := initials front.length shorter (by rw [dropped]; rfl)
  rw [dropped] at initial
  exact of_decide_eq_true initial

theorem closes_blank {next : Char} (other : next ∉ innerInitials) (text : Text) :
    Closes (' ' :: next :: text) where
  noWord := isWordChar_of_mem_openingChars List.mem_cons_self
  noTail := by
    intro label tail ends _ nonempty begins
    cases tail with
    | nil => exact nonempty rfl
    | cons first tail =>
        obtain ⟨rfl, others⟩ := List.cons_prefix_cons.mp begins
        cases tail with
        | nil =>
            have last : label.mark.getLast? = some ':' := List.getLast?_concat
            obtain ⟨front, split⟩ := ends
            rw [← split, List.getLast?_concat] at last
            cases last
        | cons second tail =>
            obtain ⟨rfl, _⟩ := List.cons_prefix_cons.mp others
            exact other (mem_innerInitials ends)

end Report
end FeedDesk
