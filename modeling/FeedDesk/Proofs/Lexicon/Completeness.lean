import FeedDesk.Proofs.Lexicon.Mark

namespace FeedDesk

open FeedDesk.Language

/-!
# Completeness of the replacements

Products and regions are replaced wherever they stand, phrases only as words
of their own.  After all three passes nothing is left to replace.  The
difficulty is not in a single pass but in their order: a later pass must not
bring back what an earlier one removed, and the neighbours that a phrase was
compared with while the text was being written must still be its neighbours
in the finished text.

Both follow from the gloss.  A form that stands in the finished text consists
of kept pieces, kept pieces were kept by every pass, and a pass keeps no form
that it could have replaced.
-/

/-- The word stands in the text and no Arabic letter touches it. -/
def Language.HasArabicWord (word text : Text) : Prop :=
  ∃ before after, text = before ++ word ++ after ∧
    before.getLast?.any isArabicLetter = false ∧ after.head?.any isArabicLetter = false

namespace Lexicon

/-! ## The gloss of a question -/

/-- The gloss in which the names are replaced: products first, then regions. -/
def namesGloss (text : Text) : Gloss :=
  regions.mark .anywhere 0 none (products.mark .anywhere 0 none (Gloss.ofText text))

/-- The gloss of a text after all three passes. -/
def gloss (text : Text) : Gloss :=
  phrases.mark .wholeWords 0 none (namesGloss text)

theorem productsGloss_bilingual (text : Text) :
    (products.mark .anywhere 0 none (Gloss.ofText text)).Bilingual :=
  (Vocabulary.marks_mark products_bilingual none (Gloss.bilingual_ofText text)).bilingual
    products_bilingual (Gloss.bilingual_ofText text)

theorem marks_products (text : Text) :
    products.Marks .anywhere none (Gloss.ofText text)
      (products.mark .anywhere 0 none (Gloss.ofText text)) :=
  Vocabulary.marks_mark products_bilingual none (Gloss.bilingual_ofText text)

theorem marks_regions (text : Text) :
    regions.Marks .anywhere none (products.mark .anywhere 0 none (Gloss.ofText text))
      (namesGloss text) :=
  Vocabulary.marks_mark regions_bilingual none (productsGloss_bilingual text)

theorem namesGloss_bilingual (text : Text) : (namesGloss text).Bilingual :=
  (marks_regions text).bilingual regions_bilingual (productsGloss_bilingual text)

theorem marks_phrases (text : Text) :
    phrases.Marks .wholeWords none (namesGloss text) (gloss text) :=
  Vocabulary.marks_mark phrases_bilingual none (namesGloss_bilingual text)

theorem gloss_bilingual (text : Text) : (gloss text).Bilingual :=
  (marks_phrases text).bilingual phrases_bilingual (namesGloss_bilingual text)

/-- The gloss explains the question. -/
theorem source_gloss (text : Text) : (gloss text).source = text := by
  rw [(marks_phrases text).source_eq, (marks_regions text).source_eq, (marks_products text).source_eq,
    Gloss.source_ofText]

theorem written_namesGloss (text : Text) :
    (namesGloss text).written =
      regions.replaceForms .anywhere (products.replaceForms .anywhere text) := by
  have productsWritten := (marks_products text).scan_written products_bilingual
    (Gloss.bilingual_ofText text)
  have regionsWritten := (marks_regions text).scan_written regions_bilingual
    (productsGloss_bilingual text)
  rw [Gloss.written_ofText] at productsWritten
  rw [Vocabulary.replaceForms_eq_scan, Vocabulary.replaceForms_eq_scan, productsWritten, regionsWritten]

/-- The gloss writes what the three passes write. -/
theorem written_gloss (text : Text) : (gloss text).written = apply text := by
  have phrasesWritten := (marks_phrases text).scan_written phrases_bilingual (namesGloss_bilingual text)
  rw [apply, ← written_namesGloss, Vocabulary.replaceForms_eq_scan, phrasesWritten]

/-- Every replacement comes from one of the three tables. -/
theorem exists_term_of_mem_gloss {text form english : Text}
    (member : Piece.replaced form english ∈ gloss text) :
    ∃ term ∈ productTerms ++ regionTerms ++ phraseTerms, form ∈ term.arabic ∧ english = term.english := by
  rcases (marks_phrases text).mem_or_listed member with older | listed
  · rcases (marks_regions text).mem_or_listed older with oldest | listed
    · rcases (marks_products text).mem_or_listed oldest with impossible | listed
      · rcases List.mem_map.mp impossible with ⟨char, _, impossible⟩
        cases impossible
      · rcases mem_products.mp listed with ⟨term, inTable, spells⟩
        exact ⟨term, List.mem_append_left _ (List.mem_append_left _ inTable), spells⟩
    · rcases mem_regions.mp listed with ⟨term, inTable, spells⟩
      exact ⟨term, List.mem_append_left _ (List.mem_append_right _ inTable), spells⟩
  · rcases mem_phrases.mp listed with ⟨term, inTable, spells⟩
    exact ⟨term, List.mem_append_right _ inTable, spells⟩

theorem exists_term_of_gloss_eq {text form english : Text} {left right : Gloss}
    (glossEq : gloss text = left ++ .replaced form english :: right) :
    ∃ term ∈ productTerms ++ regionTerms ++ phraseTerms, form ∈ term.arabic ∧ english = term.english := by
  have member : Piece.replaced form english ∈ gloss text := by
    rw [glossEq]
    exact List.mem_append_cons_self
  exact exists_term_of_mem_gloss member

/-! ## Nothing is left to replace -/

/-- There is nothing in the text that a pass would replace: no product, no
region, and no phrase that is a word of its own. -/
structure Settled (text : Text) : Prop where
  no_product : ∀ term ∈ productTerms, ∀ form ∈ term.arabic, ¬ form <:+: text
  no_region : ∀ term ∈ regionTerms, ∀ form ∈ term.arabic, ¬ form <:+: text
  no_phrase : ∀ term ∈ phraseTerms, ∀ form ∈ term.arabic, ¬ HasArabicWord form text

/-- A form in what a gloss writes is a run of its kept pieces. -/
theorem ofText_isInfix_of_stands {gloss : Gloss} (sound : gloss.Bilingual) {form : Text}
    (spelled : isForm form = true) (stands : form <:+: gloss.written) :
    Gloss.ofText form <:+: gloss := by
  rcases stands with ⟨before, after, same⟩
  rcases Gloss.exists_of_written_eq sound spelled same.symm with ⟨left, right, split, _, _⟩
  exact ⟨left, right, split.symm⟩

/-- A pass that replaces everywhere keeps none of its forms. -/
theorem not_ofText_isInfix {vocabulary : Vocabulary} (tables : vocabulary.Bilingual) {gloss marked : Gloss}
    (sound : gloss.Bilingual) (marks : vocabulary.Marks .anywhere none gloss marked)
    {form english : Text} (listed : (form, english) ∈ vocabulary.longestFirst) :
    ¬ Gloss.ofText form <:+: marked := by
  rintro ⟨left, right, rfl⟩
  exact marks.not_form tables sound listed (Matching.anywhere_allows _) (Matching.anywhere_allows _)

theorem apply_settled (text : Text) : Settled (apply text) where
  no_product := by
    intro term inTable form spells stands
    have listed := mem_products.mpr ⟨term, inTable, spells, rfl⟩
    rw [← written_gloss] at stands
    have kept := ofText_isInfix_of_stands (gloss_bilingual text)
      (products_bilingual.isForm _ listed) stands
    have keptByRegions := (marks_phrases text).ofText_isInfix phrases_bilingual
      (namesGloss_bilingual text) kept
    have keptByProducts := (marks_regions text).ofText_isInfix regions_bilingual
      (productsGloss_bilingual text) keptByRegions
    exact not_ofText_isInfix products_bilingual (Gloss.bilingual_ofText text) (marks_products text) listed
      keptByProducts
  no_region := by
    intro term inTable form spells stands
    have listed := mem_regions.mpr ⟨term, inTable, spells, rfl⟩
    rw [← written_gloss] at stands
    have kept := ofText_isInfix_of_stands (gloss_bilingual text)
      (regions_bilingual.isForm _ listed) stands
    have keptByRegions := (marks_phrases text).ofText_isInfix phrases_bilingual
      (namesGloss_bilingual text) kept
    exact not_ofText_isInfix regions_bilingual (productsGloss_bilingual text) (marks_regions text) listed
      keptByRegions
  no_phrase := by
    rintro term inTable form spells ⟨before, after, same, freeBefore, freeAfter⟩
    have listed := mem_phrases.mpr ⟨term, inTable, spells, rfl⟩
    rw [← written_gloss] at same
    rcases Gloss.exists_of_written_eq (gloss_bilingual text) (phrases_bilingual.isForm _ listed) same
      with ⟨left, right, split, rfl, rfl⟩
    have marks := marks_phrases text
    rw [split] at marks
    refine marks.not_form phrases_bilingual (namesGloss_bilingual text) listed ?_ ?_
    · rw [Option.or_none]
      exact Matching.wholeWords_allows_iff.mpr freeBefore
    · exact Matching.wholeWords_allows_iff.mpr freeAfter

/-- A pass that replaces everywhere leaves a text without its forms as it is. -/
theorem replaceForms_anywhere_eq_self {vocabulary : Vocabulary} (tables : vocabulary.Bilingual)
    {text : Text}
    (absent : ∀ form english, (form, english) ∈ vocabulary.longestFirst → ¬ form <:+: text) :
    vocabulary.replaceForms .anywhere text = text := by
  refine Vocabulary.scan_eq_self tables fun front char rest split => ?_
  cases found : vocabulary.found? .anywhere (front.getLast?.or none) (char :: rest) with
  | none => rfl
  | some entry =>
      rcases Vocabulary.exists_rest_of_found? found with ⟨others, same, _⟩
      refine absurd ?_ (absent entry.1 entry.2 (Vocabulary.mem_of_found? found))
      exact ⟨front, others, by rw [split, same, List.append_assoc]⟩

/-- A pass that replaces words leaves a text without its forms as words as it is. -/
theorem replaceForms_wholeWords_eq_self {vocabulary : Vocabulary} (tables : vocabulary.Bilingual)
    {text : Text}
    (absent : ∀ form english, (form, english) ∈ vocabulary.longestFirst → ¬ HasArabicWord form text) :
    vocabulary.replaceForms .wholeWords text = text := by
  refine Vocabulary.scan_eq_self tables fun front char rest split => ?_
  cases found : vocabulary.found? .wholeWords (front.getLast?.or none) (char :: rest) with
  | none => rfl
  | some entry =>
      rcases Vocabulary.exists_rest_of_found? found with ⟨others, same, freeAfter⟩
      have freeBefore := Vocabulary.allows_of_found? found
      rw [Option.or_none] at freeBefore
      refine absurd ?_ (absent entry.1 entry.2 (Vocabulary.mem_of_found? found))
      refine ⟨front, others, ?_, Matching.wholeWords_allows_iff.mp freeBefore,
        Matching.wholeWords_allows_iff.mp freeAfter⟩
      rw [split, same, List.append_assoc]

/-- A settled text is left as it is. -/
theorem Settled.apply_eq {text : Text} (settled : Settled text) : apply text = text := by
  have noProduct : products.replaceForms .anywhere text = text := by
    refine replaceForms_anywhere_eq_self products_bilingual fun form english listed => ?_
    rcases mem_products.mp listed with ⟨term, inTable, spells, _⟩
    exact settled.no_product term inTable form spells
  have noRegion : regions.replaceForms .anywhere text = text := by
    refine replaceForms_anywhere_eq_self regions_bilingual fun form english listed => ?_
    rcases mem_regions.mp listed with ⟨term, inTable, spells, _⟩
    exact settled.no_region term inTable form spells
  have noPhrase : phrases.replaceForms .wholeWords text = text := by
    refine replaceForms_wholeWords_eq_self phrases_bilingual fun form english listed => ?_
    rcases mem_phrases.mp listed with ⟨term, inTable, spells, _⟩
    exact settled.no_phrase term inTable form spells
  rw [apply, noProduct, noRegion, noPhrase]

/-- The passes are complete, and a second application changes nothing. -/
theorem apply_complete_and_stable (text : Text) :
    Settled (apply text) ∧ apply (apply text) = apply text :=
  ⟨apply_settled text, (apply_settled text).apply_eq⟩

end Lexicon
end FeedDesk
