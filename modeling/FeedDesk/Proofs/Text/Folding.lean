import FeedDesk.Language.Script
import FeedDesk.Proofs.Blocks
import FeedDesk.Text.Lower
import FeedDesk.Text.WordChar

namespace FeedDesk
namespace Text

/-!
# Lower case, one character at a time

The lower case of a text is not quite the lower case of its characters: a
capital sigma looks at its neighbours.  Everything that is searched for in a
lower-cased text is free of sigmas, though, and both small sigmas are letters,
so the difference cannot be seen by a search.  This module makes that precise.
It compares the lower case of a text with the concatenation of the lower cases
of its characters, up to the choice between the two small sigmas.

It also records what lower case does to the alphabets of the lexicon.  Arabic
characters and blanks are left alone and nothing else becomes one of them;
basic characters are changed as the basic mapping says.
-/

open FeedDesk.Language

/-- The lower case of one character, with the sigma in its medial form. -/
def lowerOne (char : Char) : Text :=
  if char = 'Σ' then ['σ']
  else if char = 'İ' then ['i', '\u0307']
  else [lowerSimple char]

/-- The lower cases of the characters, one after another. -/
def lowerEach (text : Text) : Text :=
  text.flatMap lowerOne

@[simp] theorem lowerEach_nil : lowerEach [] = [] := rfl

@[simp] theorem lowerEach_cons (char : Char) (text : Text) :
    lowerEach (char :: text) = lowerOne char ++ lowerEach text := rfl

@[simp] theorem lowerEach_append (left right : Text) :
    lowerEach (left ++ right) = lowerEach left ++ lowerEach right :=
  List.flatMap_append

theorem lowerOne_ne_nil (char : Char) : lowerOne char ≠ [] := by
  unfold lowerOne
  split
  · exact List.cons_ne_nil _ _
  · split
    · exact List.cons_ne_nil _ _
    · exact List.cons_ne_nil _ _

theorem eq_nil_of_lowerEach_eq_nil {text : Text} (empty : lowerEach text = []) : text = [] := by
  cases text with
  | nil => rfl
  | cons char text => exact absurd (List.append_eq_nil_iff.mp empty).1 (lowerOne_ne_nil char)

/-! ## Up to the two small sigmas -/

/-- Writes the medial sigma for the final one. -/
def medial (char : Char) : Char :=
  if char = 'ς' then 'σ' else char

/-- Two texts that differ at most in the form of their small sigmas. -/
def SameUpToSigma (left right : Text) : Prop :=
  left.map medial = right.map medial

/-- Neither small sigma occurs. -/
def Sigmaless (word : Text) : Prop :=
  ∀ char ∈ word, char ≠ 'σ' ∧ char ≠ 'ς'

instance (word : Text) : Decidable (Sigmaless word) :=
  List.decidableBAll (fun char => char ≠ 'σ' ∧ char ≠ 'ς') word

theorem eq_of_medial_eq {left right : Char} (same : medial left = medial right)
    (free : right ≠ 'σ' ∧ right ≠ 'ς') : left = right := by
  unfold medial at same
  rw [if_neg free.2] at same
  split at same
  · exact absurd same.symm free.1
  · exact same

theorem isAlphanumeric_medial (char : Char) : isAlphanumeric (medial char) = isAlphanumeric char := by
  unfold medial
  split
  · rename_i final
    rw [final]
    decide +kernel
  · rfl

theorem map_medial_lowerFrom (casedBefore : Bool) (text : Text) :
    (lowerFrom casedBefore text).map medial = (lowerEach text).map medial := by
  induction text generalizing casedBefore with
  | nil => rfl
  | cons char text inductionHypothesis =>
      simp only [lowerFrom, lowerEach_cons, List.map_append, inductionHypothesis]
      congr 1
      unfold lowerOne
      by_cases sigma : char = 'Σ'
      · rw [if_pos sigma, if_pos sigma]
        split
        · decide
        · rfl
      · rw [if_neg sigma, if_neg sigma]

theorem sameUpToSigma_lower (text : Text) : SameUpToSigma text.lower (lowerEach text) :=
  map_medial_lowerFrom false text

namespace SameUpToSigma

variable {left right : Text}

theorem symm (same : SameUpToSigma left right) : SameUpToSigma right left :=
  Eq.symm same

theorem eq_of_sigmaless (same : SameUpToSigma left right) (free : Sigmaless right) : left = right := by
  induction right generalizing left with
  | nil => exact List.map_eq_nil_iff.mp same
  | cons char right inductionHypothesis =>
      cases left with
      | nil => cases same
      | cons other left =>
          have parts := List.cons.inj same
          have head := eq_of_medial_eq parts.1 (free char List.mem_cons_self)
          have rest : SameUpToSigma left right := parts.2
          rw [head, inductionHypothesis rest
            fun later member => free later (List.mem_cons_of_mem char member)]

/-- A word without sigmas stands at the same place in both texts. -/
theorem exists_append (same : SameUpToSigma left right) {before word after : Text}
    (free : Sigmaless word) (split : left = before ++ word ++ after) :
    ∃ before' after', right = before' ++ word ++ after' ∧ SameUpToSigma before before' ∧
      SameUpToSigma after after' := by
  unfold SameUpToSigma at same
  rw [split, List.map_append, List.map_append] at same
  rcases List.map_eq_append_iff.mp same.symm with ⟨front, after', rfl, frontSame, afterSame⟩
  rcases List.map_eq_append_iff.mp frontSame with ⟨before', word', rfl, beforeSame, wordSame⟩
  have wordEq : word' = word := eq_of_sigmaless wordSame free
  exact ⟨before', after', by rw [wordEq], beforeSame.symm, afterSame.symm⟩

theorem any_head? (same : SameUpToSigma left right) :
    left.head?.any isAlphanumeric = right.head?.any isAlphanumeric := by
  have heads := congrArg List.head? same
  rw [List.head?_map, List.head?_map] at heads
  cases left with
  | nil =>
      cases right with
      | nil => rfl
      | cons other right => cases heads
  | cons char left =>
      cases right with
      | nil => cases heads
      | cons other right =>
          have firsts : medial char = medial other := Option.some.inj heads
          change isAlphanumeric char = isAlphanumeric other
          rw [← isAlphanumeric_medial char, ← isAlphanumeric_medial other, firsts]

theorem any_getLast? (same : SameUpToSigma left right) :
    left.getLast?.any isAlphanumeric = right.getLast?.any isAlphanumeric := by
  have heads : SameUpToSigma left.reverse right.reverse := by
    unfold SameUpToSigma
    rw [List.map_reverse, List.map_reverse, same]
  rw [← List.head?_reverse, ← List.head?_reverse]
  exact heads.any_head?

end SameUpToSigma

/-- A search for a word without sigmas may look at the characters one by one. -/
theorem infix_lower_iff {word text : Text} (free : Sigmaless word) :
    word <:+: text.lower ↔ word <:+: lowerEach text := by
  constructor
  · rintro ⟨before, after, split⟩
    rcases (sameUpToSigma_lower text).exists_append free split.symm with ⟨front, back, split, _, _⟩
    exact ⟨front, back, split.symm⟩
  · rintro ⟨before, after, split⟩
    rcases (sameUpToSigma_lower text).symm.exists_append free split.symm with ⟨front, back, split, _, _⟩
    exact ⟨front, back, split.symm⟩

theorem suffix_lower_iff {word text : Text} (free : Sigmaless word) :
    word <:+ text.lower ↔ word <:+ lowerEach text := by
  have moved : ∀ {left right : Text}, SameUpToSigma left right → word <:+ left → word <:+ right := by
    rintro left right same ⟨before, split⟩
    rw [← List.append_nil (before ++ word)] at split
    rcases same.exists_append free split.symm with ⟨front, back, split, _, backSame⟩
    have empty : back = [] := List.map_eq_nil_iff.mp backSame.symm
    rw [empty, List.append_nil] at split
    exact ⟨front, split.symm⟩
  exact ⟨moved (sameUpToSigma_lower text), moved (sameUpToSigma_lower text).symm⟩

theorem prefix_lower_iff {word text : Text} (free : Sigmaless word) :
    word <+: text.lower ↔ word <+: lowerEach text := by
  have moved : ∀ {left right : Text}, SameUpToSigma left right → word <+: left → word <+: right := by
    rintro left right same ⟨after, split⟩
    have behindNothing : left = [] ++ word ++ after := split.symm
    rcases same.exists_append free behindNothing with ⟨front, back, split, frontSame, _⟩
    have empty : front = [] := List.map_eq_nil_iff.mp frontSame.symm
    rw [empty, List.nil_append] at split
    exact ⟨back, split.symm⟩
  exact ⟨moved (sameUpToSigma_lower text), moved (sameUpToSigma_lower text).symm⟩

/-! ## The two alphabets -/

theorem lowerCode_eq_self {rows : List (Nat × Nat × Nat × Nat)} {code : Nat}
    (outside : ∀ row ∈ rows, code < row.1 ∨ row.2.1 < code) : lowerCode rows code = code := by
  induction rows with
  | nil => rfl
  | cons row rows inductionHypothesis =>
      obtain ⟨first, last, step, image⟩ := row
      have here := outside _ List.mem_cons_self
      have rest := inductionHypothesis fun row member => outside row (List.mem_cons_of_mem _ member)
      dsimp only at here
      rw [lowerCode]
      split
      · rfl
      · rw [if_neg (by omega), rest]

/-- A code point is left alone, or its lower case lies in the image of a row. -/
theorem lowerCode_eq_or_mem_image (rows : List (Nat × Nat × Nat × Nat)) (code : Nat) :
    lowerCode rows code = code ∨ ∃ row ∈ rows, row.2.2.2 ≤ lowerCode rows code ∧
      lowerCode rows code ≤ row.2.2.2 + (row.2.1 - row.1) := by
  induction rows with
  | nil => exact Or.inl rfl
  | cons row rows inductionHypothesis =>
      obtain ⟨first, last, step, image⟩ := row
      have later : lowerCode rows code = code ∨ ∃ row ∈ (first, last, step, image) :: rows,
          row.2.2.2 ≤ lowerCode rows code ∧
            lowerCode rows code ≤ row.2.2.2 + (row.2.1 - row.1) := by
        rcases inductionHypothesis with same | ⟨row, member, bounds⟩
        · exact Or.inl same
        · exact Or.inr ⟨row, List.mem_cons_of_mem _ member, bounds⟩
      rw [lowerCode]
      split
      · exact Or.inl rfl
      · split
        · split
          · refine Or.inr ⟨_, List.mem_cons_self, ?_, ?_⟩
            · dsimp only
              omega
            · dsimp only
              omega
          · exact later
        · exact later

/-- The characters of a form: the Arabic script and the blank. -/
def caselessBlocks : Ranges := (0x20, 0x20) :: arabicBlocks

def isCaseless (char : Char) : Bool :=
  caselessBlocks.covers char.toNat

theorem isCaseless_blank : isCaseless ' ' = true := by decide

theorem isCaseless_of_isArabicChar {char : Char} (arabic : isArabicChar char = true) :
    isCaseless char = true := by
  rcases Ranges.exists_of_covers arabic with ⟨block, listed, above, _⟩
  have behindBlank : ∀ block ∈ arabicBlocks, 0x20 < block.1 := by decide
  have start := behindBlank block listed
  rw [isCaseless, caselessBlocks, Ranges.covers, if_neg (by omega), if_neg (by omega)]
  exact arabic

/-- No row maps from or into these blocks. -/
theorem caselessBlocks_apart : ∀ block ∈ caselessBlocks, ∀ row ∈ lowerRows,
    (block.2 < row.1 ∨ row.2.1 < block.1) ∧
      (block.2 < row.2.2.2 ∨ row.2.2.2 + (row.2.1 - row.1) < block.1) := by
  decide +kernel

theorem lowerOne_of_isCaseless {char : Char} (caseless : isCaseless char = true) :
    lowerOne char = [char] := by
  rcases Ranges.exists_of_covers caseless with ⟨block, listed, above, below⟩
  have fixed : lowerCode lowerRows char.toNat = char.toNat := by
    refine lowerCode_eq_self fun row member => ?_
    rcases (caselessBlocks_apart block listed row member).1 with before | after
    · exact Or.inl (by omega)
    · exact Or.inr (by omega)
  unfold lowerOne
  split
  · rename_i sigma
    rw [sigma] at caseless
    exact absurd caseless (by decide)
  · split
    · rename_i dotted
      rw [dotted] at caseless
      exact absurd caseless (by decide)
    · rw [lowerSimple, fixed, Char.ofNat_toNat]

theorem toNat_ofNat (code : Nat) : (Char.ofNat code).toNat = code ∨ (Char.ofNat code).toNat = 0 := by
  by_cases valid : code.isValidChar
  · rw [Char.ofNat, dif_pos valid]
    exact Or.inl rfl
  · rw [Char.ofNat, dif_neg valid]
    exact Or.inr rfl

/-- Only the character itself has such a character in its lower case. -/
theorem eq_of_mem_lowerOne {char other : Char} (member : other ∈ lowerOne char)
    (caseless : isCaseless other = true) : char = other := by
  have simple : other = lowerSimple char := by
    unfold lowerOne at member
    split at member
    · rw [List.mem_singleton.mp member] at caseless
      exact absurd caseless (by decide)
    · split at member
      · rcases List.mem_cons.mp member with rfl | later
        · exact absurd caseless (by decide)
        · rw [List.mem_singleton.mp later] at caseless
          exact absurd caseless (by decide)
      · exact List.mem_singleton.mp member
  rcases Ranges.exists_of_covers caseless with ⟨block, listed, above, below⟩
  have valid : other.toNat = lowerCode lowerRows char.toNat := by
    have positive : ∀ block ∈ caselessBlocks, 0 < block.1 := by decide
    have start := positive block listed
    rcases toNat_ofNat (lowerCode lowerRows char.toNat) with value | value
    · rw [simple]
      exact value
    · change (lowerSimple char).toNat = 0 at value
      rw [← simple] at value
      omega
  rcases lowerCode_eq_or_mem_image lowerRows char.toNat with same | ⟨row, inTable, low, high⟩
  · rw [simple, lowerSimple, same, Char.ofNat_toNat]
  · rcases (caselessBlocks_apart block listed row inTable).2 with before | after
    · omega
    · omega

theorem lowerEach_eq_self {text : Text} (caseless : ∀ char ∈ text, isCaseless char = true) :
    lowerEach text = text := by
  induction text with
  | nil => rfl
  | cons char text inductionHypothesis =>
      rw [lowerEach_cons, lowerOne_of_isCaseless (caseless char List.mem_cons_self),
        inductionHypothesis fun later member => caseless later (List.mem_cons_of_mem char member),
        List.singleton_append]

/-- A caseless word at the beginning of the lower case begins the text. -/
theorem exists_of_lowerEach_eq_append {word text after : Text}
    (caseless : ∀ char ∈ word, isCaseless char = true) (same : lowerEach text = word ++ after) :
    ∃ rest, text = word ++ rest ∧ lowerEach rest = after := by
  induction word generalizing text with
  | nil => exact ⟨text, rfl, same⟩
  | cons char word inductionHypothesis =>
      have here := caseless char List.mem_cons_self
      cases text with
      | nil => cases same
      | cons other text =>
          rcases List.exists_cons_of_ne_nil (lowerOne_ne_nil other) with ⟨first, others, begins⟩
          have firstEq : first = char := by
            rw [lowerEach_cons, begins, List.cons_append, List.cons_append] at same
            exact (List.cons.inj same).1
          have otherEq : other = char :=
            eq_of_mem_lowerOne (by rw [begins, firstEq]; exact List.mem_cons_self) here
          rw [otherEq, lowerEach_cons, lowerOne_of_isCaseless here] at same
          rcases inductionHypothesis (fun later member => caseless later (List.mem_cons_of_mem char member))
            (List.cons.inj same).2 with ⟨rest, split, behind⟩
          exact ⟨rest, by rw [otherEq, split, List.cons_append], behind⟩

/-- A caseless word stands in the lower case only where it stands in the text. -/
theorem exists_of_lowerEach_eq {word text before after : Text}
    (caseless : ∀ char ∈ word, isCaseless char = true) (nonempty : word ≠ [])
    (same : lowerEach text = before ++ word ++ after) :
    ∃ front rest, text = front ++ word ++ rest ∧ lowerEach front = before ∧ lowerEach rest = after := by
  rcases List.exists_cons_of_ne_nil nonempty with ⟨char, others, begins⟩
  have here : isCaseless char = true := caseless char (begins ▸ List.mem_cons_self)
  rw [List.append_assoc] at same
  have more : word ++ after ≠ [] := fun empty => nonempty (List.append_eq_nil_iff.mp empty).1
  have blocks : text.flatMap lowerOne = before ++ (word ++ after) := same
  rcases Blocks.exists_block_after blocks more with
    ⟨left, item, right, lead, trail, rfl, inside, trailNe, beforeEq, remains⟩
  -- The first character of the word is not divided, so the word begins with this item.
  have itemEq : item = char := by
    rcases List.exists_cons_of_ne_nil trailNe with ⟨first, _, rfl⟩
    rw [begins, List.cons_append, List.cons_append] at remains
    refine eq_of_mem_lowerOne ?_ here
    rw [inside, (List.cons.inj remains).1]
    exact List.mem_append_right _ List.mem_cons_self
  have whole : lead = [] ∧ trail = [char] := by
    rw [itemEq, lowerOne_of_isCaseless here] at inside
    rcases List.append_eq_singleton_iff.mp inside.symm with both | ⟨_, empty⟩
    · exact both
    · exact absurd empty trailNe
  have begun : lowerEach (item :: right) = word ++ after := by
    rw [lowerEach_cons, itemEq, lowerOne_of_isCaseless here, ← whole.2]
    exact remains.symm
  rcases exists_of_lowerEach_eq_append caseless begun with ⟨rest, split, behind⟩
  refine ⟨left, rest, by rw [split, List.append_assoc], ?_, behind⟩
  rw [beforeEq, whole.1, List.append_nil]
  rfl

/-- On basic characters the mapping is the basic one. -/
theorem lowerOne_of_lt {char : Char} (basic : char.toNat < 0x80) :
    lowerOne char = [asciiLowerChar char] := by
  have table : ∀ code < 0x80, lowerOne (Char.ofNat code) = [asciiLowerChar (Char.ofNat code)] := by
    decide +kernel
  have here := table char.toNat basic
  rwa [Char.ofNat_toNat] at here

end Text
end FeedDesk
