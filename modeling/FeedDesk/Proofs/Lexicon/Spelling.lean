import FeedDesk.Lexicon.Terms
import FeedDesk.Proofs.Lexicon.Scan
import FeedDesk.Proofs.Lexicon.Table

namespace FeedDesk

open FeedDesk.Language

/-!
# The two alphabets of the lexicon

A form is spelled with Arabic letters, a term with the basic Latin ones.
Both may hold blanks, but neither begins or ends with one.  The alphabets are
disjoint apart from the blank, and that is what keeps the three passes of the
lexicon from disturbing one another: a term that has been written never
becomes part of a form.
-/

namespace Lexicon

/-- Letters of one alphabet and blanks, with a letter at both ends. -/
def isSpelled (isLetter : Char → Bool) (text : Text) : Bool :=
  text.all (fun char => isLetter char || char == ' ') && text.head?.any isLetter &&
    text.getLast?.any isLetter

def isForm (text : Text) : Bool :=
  isSpelled isArabicLetter text

def isTerm (text : Text) : Bool :=
  isSpelled Text.isAsciiLetter text

section Spelled

variable {isLetter : Char → Bool} {text : Text}

theorem letter_or_blank_of_mem (spelled : isSpelled isLetter text = true) {char : Char}
    (member : char ∈ text) : isLetter char = true ∨ char = ' ' := by
  simp only [isSpelled, Bool.and_eq_true] at spelled
  simpa only [Bool.or_eq_true, beq_iff_eq] using List.all_eq_true.mp spelled.1.1 char member

theorem exists_cons_of_isSpelled (spelled : isSpelled isLetter text = true) :
    ∃ char rest, text = char :: rest ∧ isLetter char = true := by
  cases text with
  | nil => cases spelled
  | cons char rest =>
      simp only [isSpelled, Bool.and_eq_true] at spelled
      exact ⟨char, rest, rfl, spelled.1.2⟩

theorem exists_concat_of_isSpelled (spelled : isSpelled isLetter text = true) :
    ∃ front char, text = front ++ [char] ∧ isLetter char = true := by
  rcases List.eq_nil_or_concat text with rfl | ⟨front, char, rfl⟩
  · cases spelled
  · simp only [isSpelled, Bool.and_eq_true, List.concat_eq_append, List.getLast?_concat,
      Option.any_some] at spelled
    exact ⟨front, char, List.concat_eq_append, spelled.2⟩

theorem ne_nil_of_isSpelled (spelled : isSpelled isLetter text = true) : text ≠ [] := by
  rintro rfl
  cases spelled

end Spelled

theorem le_toNat_of_isArabicChar {char : Char} (arabic : isArabicChar char = true) :
    0x600 ≤ char.toNat := by
  rcases Ranges.exists_of_covers arabic with ⟨block, listed, below, _⟩
  have lowest : ∀ block ∈ arabicBlocks, 0x600 ≤ block.1 := by decide
  exact Nat.le_trans (lowest block listed) below

theorem isArabicChar_of_isArabicLetter {char : Char} (letter : isArabicLetter char = true) :
    isArabicChar char = true :=
  (Bool.and_eq_true_iff.mp letter).1

theorem toNat_lt_of_isAsciiLetter {char : Char} (letter : Text.isAsciiLetter char = true) :
    char.toNat < 0x80 := by
  simp only [Text.isAsciiLetter, Text.isAsciiLower, Text.isAsciiUpper, Bool.or_eq_true,
    Bool.and_eq_true, decide_eq_true_eq, Char.le_def, UInt32.le_iff_toNat_le] at letter
  change char.val.toNat < 0x80
  rcases letter with ⟨_, below⟩ | ⟨_, below⟩
  · exact Nat.lt_of_le_of_lt below (by decide)
  · exact Nat.lt_of_le_of_lt below (by decide)

theorem isArabicLetter_eq_false_of_isAsciiLetter {char : Char}
    (ascii : Text.isAsciiLetter char = true) : isArabicLetter char = false := by
  apply Bool.eq_false_iff.mpr
  intro letter
  have above := le_toNat_of_isArabicChar (isArabicChar_of_isArabicLetter letter)
  have below := toNat_lt_of_isAsciiLetter ascii
  omega

theorem isArabicLetter_blank : isArabicLetter ' ' = false := by decide

theorem isAsciiLetter_blank : Text.isAsciiLetter ' ' = false := by decide

/-- No character of a term is an Arabic letter. -/
theorem isArabicLetter_eq_false_of_mem {english : Text} {char : Char} (spelled : isTerm english = true)
    (member : char ∈ english) : isArabicLetter char = false := by
  rcases letter_or_blank_of_mem spelled member with ascii | rfl
  · exact isArabicLetter_eq_false_of_isAsciiLetter ascii
  · exact isArabicLetter_blank

/-- No character of a form is a Latin letter. -/
theorem isAsciiLetter_eq_false_of_mem {form : Text} {char : Char} (spelled : isForm form = true)
    (member : char ∈ form) : Text.isAsciiLetter char = false := by
  rcases letter_or_blank_of_mem spelled member with letter | rfl
  · apply Bool.eq_false_iff.mpr
    intro ascii
    rw [isArabicLetter_eq_false_of_isAsciiLetter ascii] at letter
    cases letter
  · exact isAsciiLetter_blank

end Lexicon

namespace Vocabulary

open Lexicon

/-- Every form is Arabic and every term is Latin. -/
structure Bilingual (vocabulary : Vocabulary) : Prop where
  isForm : ∀ entry ∈ vocabulary.longestFirst, isForm entry.1 = true
  isTerm : ∀ entry ∈ vocabulary.longestFirst, isTerm entry.2 = true

theorem bilingual_ofConsistent {terms : List Term} (consistent : (ofTerms terms).isOk = true)
    (spelled : ∀ term ∈ terms, Lexicon.isTerm term.english = true ∧
      ∀ form ∈ term.arabic, Lexicon.isForm form = true) :
    (ofConsistent terms consistent).Bilingual where
  isForm := by
    rintro ⟨form, english⟩ listed
    rcases mem_longestFirst_ofConsistent.mp listed with ⟨term, member, spells, rfl⟩
    exact (spelled term member).2 form spells
  isTerm := by
    rintro ⟨form, english⟩ listed
    rcases mem_longestFirst_ofConsistent.mp listed with ⟨term, member, _, rfl⟩
    exact (spelled term member).1

variable {vocabulary : Vocabulary} {matching : Matching}

theorem Bilingual.formful (bilingual : vocabulary.Bilingual) : vocabulary.Formful := by
  intro entry listed empty
  have spelled := bilingual.isForm entry listed
  rw [empty] at spelled
  cases spelled

/-- Nothing is found at a character that is no Arabic letter. -/
theorem Bilingual.found?_eq_none (bilingual : vocabulary.Bilingual) {before : Option Char}
    {char : Char} {text : Text} (other : isArabicLetter char = false) :
    vocabulary.found? matching before (char :: text) = none := by
  cases found : vocabulary.found? matching before (char :: text) with
  | none => rfl
  | some entry =>
      rcases exists_rest_of_found? found with ⟨rest, same, _⟩
      rcases exists_cons_of_isSpelled (bilingual.isForm entry (mem_of_found? found)) with
        ⟨first, others, form, letter⟩
      rw [form, List.cons_append] at same
      rw [(List.cons.inj same).1, letter] at other
      cases other

end Vocabulary

namespace Lexicon

theorem mem_products {form english : Text} :
    (form, english) ∈ products.longestFirst ↔
      ∃ term ∈ productTerms, form ∈ term.arabic ∧ english = term.english :=
  Vocabulary.mem_longestFirst_ofConsistent

theorem mem_regions {form english : Text} :
    (form, english) ∈ regions.longestFirst ↔
      ∃ term ∈ regionTerms, form ∈ term.arabic ∧ english = term.english :=
  Vocabulary.mem_longestFirst_ofConsistent

theorem mem_phrases {form english : Text} :
    (form, english) ∈ phrases.longestFirst ↔
      ∃ term ∈ phraseTerms, form ∈ term.arabic ∧ english = term.english :=
  Vocabulary.mem_longestFirst_ofConsistent

/-- The basic Arabic letters, in one range of code points. -/
def isBasicArabic (char : Char) : Bool :=
  0x621 ≤ char.toNat && char.toNat ≤ 0x64A

theorem isArabicLetter_of_isBasicArabic {char : Char} (basic : isBasicArabic char = true) :
    isArabicLetter char = true := by
  have table : ∀ offset < 0x2A, isArabicLetter (Char.ofNat (0x621 + offset)) = true := by
    decide +kernel
  simp only [isBasicArabic, Bool.and_eq_true, decide_eq_true_eq] at basic
  obtain ⟨offset, place⟩ : ∃ offset, char.toNat = 0x621 + offset := Nat.exists_eq_add_of_le basic.1
  have here := table offset (by omega)
  rwa [← place, Char.ofNat_toNat] at here

theorem isSpelled_mono {isLetter isOther : Char → Bool} {text : Text}
    (letters : ∀ char, isLetter char = true → isOther char = true)
    (spelled : isSpelled isLetter text = true) : isSpelled isOther text = true := by
  simp only [isSpelled, Bool.and_eq_true, List.all_eq_true, Option.any_eq_true, Bool.or_eq_true] at spelled ⊢
  rcases spelled with ⟨⟨every, first, begins, firstLetter⟩, last, ends, lastLetter⟩
  refine ⟨⟨?_, first, begins, letters first firstLetter⟩, last, ends, letters last lastLetter⟩
  intro char member
  exact (every char member).imp_left (letters char)

/-- All three tables are spelled in the two alphabets. -/
theorem spelled_basic_of_mem : ∀ term ∈ productTerms ++ regionTerms ++ phraseTerms,
    isTerm term.english = true ∧ ∀ form ∈ term.arabic, isSpelled isBasicArabic form = true := by
  decide +kernel

theorem spelled_of_mem {term : Term} (listed : term ∈ productTerms ++ regionTerms ++ phraseTerms) :
    isTerm term.english = true ∧ ∀ form ∈ term.arabic, isForm form = true := by
  have spelled := spelled_basic_of_mem term listed
  refine ⟨spelled.1, fun form spells => ?_⟩
  exact isSpelled_mono (fun char => isArabicLetter_of_isBasicArabic) (spelled.2 form spells)

theorem products_bilingual : products.Bilingual :=
  Vocabulary.bilingual_ofConsistent _ fun _ listed =>
    spelled_of_mem (List.mem_append_left _ (List.mem_append_left _ listed))

theorem regions_bilingual : regions.Bilingual :=
  Vocabulary.bilingual_ofConsistent _ fun _ listed =>
    spelled_of_mem (List.mem_append_left _ (List.mem_append_right _ listed))

theorem phrases_bilingual : phrases.Bilingual :=
  Vocabulary.bilingual_ofConsistent _ fun _ listed =>
    spelled_of_mem (List.mem_append_right _ listed)

end Lexicon
end FeedDesk
