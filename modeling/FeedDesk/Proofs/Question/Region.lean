import FeedDesk.Language.Detection
import FeedDesk.Proofs.Lexicon.Completeness
import FeedDesk.Proofs.Lexicon.Occurrence
import FeedDesk.Proofs.Question.Naming

namespace FeedDesk

open FeedDesk.Language Lexicon Text

/-!
# The region of a rewritten question

A region is replaced wherever its form stands, also behind a preposition that
is written together with it.  The English name that replaces it is then
attached to that preposition, and the search for names wants a name that
stands by itself.  So a region named in Arabic survives the rewriting exactly
if no letter or number touched its form; the name "Saudi Arabia" alone bears
a neighbour on the right, because its first word is a name too.

What the lexicon writes could also put a name together with its neighbours.
The finite facts of the first section leave one such name: the Latin letters
"bahra", followed by the Arabic word for "in".
-/

namespace Entities

theorem region?_isSome_iff {text : Text} :
    (region? text).isSome = true ↔
      (∃ entry ∈ regionNames, hasWord entry.1 text.lower = true) ∨
        ∃ term ∈ regionTerms, ∃ form ∈ term.arabic, form <:+: text := by
  have named : (∃ entry ∈ regionNames, hasWord entry.1 text.lower = true) ↔
      ∃ entry ∈ regionNames, StandsIn entry.1 text.lower :=
    exists_congr fun entry => and_congr_right (hasWord_regionName_iff entry)
  rw [Option.isSome_iff_ne_none, ne_eq, region?_eq_none_iff, not_and_or, named]
  refine or_congr ?_ ?_
  · simp only [not_forall, not_not, exists_prop]
  · simp only [not_forall, not_not, exists_prop]

/-! ## Names and terms -/

/-- The Latin letters and the Arabic word that are rewritten to "bahrain". -/
def bahraIn : Text :=
  ['b', 'a', 'h', 'r', 'a', 'ف', 'ي']

/-- How a term of the lexicon and a name of the list lie beside each other. -/
structure Apart (term : Term) (name : Text) : Prop where
  /-- A term that begins the name is the whole name. -/
  whole : lowerEach term.english <+: name → lowerEach term.english = name
  /-- Only a region begins with the name, and only one has more behind it. -/
  region : name <+: lowerEach term.english → term ∈ regionTerms ∧
    (lowerEach term.english = name ∨ term.english = ("Saudi Arabia" : String))
  /-- A term inside the name ends it, and then it is the word "in". -/
  inside : ∀ count < name.length, 0 < count → lowerEach term.english <+: name.drop count →
    name.drop count = lowerEach term.english ∧ ∀ form ∈ term.arabic, name.take count ++ form = bahraIn
  /-- A name that ends inside the term ends before a letter of it. -/
  letter : ∀ count < name.length, 0 < count → name.drop count <+: lowerEach term.english →
    lowerEach term.english = name.drop count ∨
      ((lowerEach term.english).drop (name.drop count).length).head?.any isAlphanumeric = true

set_option synthInstance.maxSize 512 in
instance (term : Term) (name : Text) : Decidable (Apart term name) :=
  decidable_of_iff (_ ∧ _ ∧ _ ∧ _)
    ⟨fun ⟨whole, region, inside, letter⟩ => ⟨whole, region, inside, letter⟩,
      fun ⟨whole, region, inside, letter⟩ => ⟨whole, region, inside, letter⟩⟩

/-- Behind the first word of a term no name begins and none goes on. -/
theorem no_name_behind_gap : ∀ term ∈ productTerms ++ regionTerms ++ phraseTerms,
    ∀ count < (lowerEach term.english).length, 0 < count →
      ((lowerEach term.english).take count).getLast?.any isAlphanumeric = false →
        ∀ entry ∈ regionNames, ¬ entry.1 <+: (lowerEach term.english).drop count ∧
          ¬ (lowerEach term.english).drop count <+: entry.1 := by
  decide +kernel

theorem apart : ∀ term ∈ productTerms ++ regionTerms ++ phraseTerms, ∀ entry ∈ regionNames,
    Apart term entry.1 := by
  decide +kernel

/-- The names that the terms of regions are, and two more. -/
theorem names_listed :
    (∀ term ∈ regionTerms, ∃ entry ∈ regionNames, entry.1 = lowerEach term.english) ∧
      (∃ entry ∈ regionNames, ∀ term ∈ regionTerms, term.english = ("Saudi Arabia" : String) →
        lowerEach term.english = entry.1 ++ ' ' :: ("arabia" : String).toList) ∧
      ∃ entry ∈ regionNames, entry.1 = ['b', 'a', 'h', 'r', 'a'] ++ ['i', 'n'] := by
  decide +kernel

/-- A form that begins like the Arabic word for "in" is that word, and no form
is a part of it. -/
theorem forms_beside_in :
    (∀ term ∈ productTerms ++ regionTerms ++ phraseTerms, ∀ form ∈ term.arabic,
      (['ف', 'ي'] <+: form → form = ['ف', 'ي'] ∧ lowerEach term.english = ['i', 'n']) ∧
        form ≠ ['ف'] ∧ form.head? ≠ some 'ي') ∧
      ∃ term ∈ phraseTerms, ['ف', 'ي'] ∈ term.arabic := by
  decide +kernel

theorem bahraIn_unbroken : Unbroken bahraIn ∧ Sigmaless bahraIn := by
  decide +kernel

/-! ## Where a name comes from -/

/-- A region was replaced at a place where no letter or number of the question
touched its form.  Behind "Saudi Arabia" one may. -/
def RegionStands (gloss : Gloss) : Prop :=
  ∃ term ∈ regionTerms, ∃ form ∈ term.arabic, ∃ left right : Gloss,
    gloss = left ++ .replaced form term.english :: right ∧
      left.source.lower.getLast?.any isAlphanumeric = false ∧
      (term.english = ("Saudi Arabia" : String) ∨ right.source.lower.head?.any isAlphanumeric = false)

section Pieces

variable {gloss left right : Gloss} {term : Term} {entry : Text × Text}

theorem any_getLast?_lower_source (sound : left.Bilingual) :
    left.source.lower.getLast?.any isAlphanumeric =
      (lowerEach left.written).getLast?.any isAlphanumeric := by
  rw [(sameUpToSigma_lower left.source).any_getLast?, Gloss.any_getLast?_written sound]

theorem any_head?_lower_source (sound : right.Bilingual) :
    right.source.lower.head?.any isAlphanumeric =
      (lowerEach right.written).head?.any isAlphanumeric := by
  rw [(sameUpToSigma_lower right.source).any_head?, Gloss.any_head?_written sound]

/-- A free name that touches a term does so from the beginning of the term. -/
theorem eq_nil_of_free (inTable : term ∈ productTerms ++ regionTerms ++ phraseTerms)
    (listed : entry ∈ regionNames) {front lead tail : Text}
    (split : lowerEach term.english = lead ++ tail) (tailNe : tail ≠ [])
    (free : (front ++ lead).getLast?.any isAlphanumeric = false)
    (touching : entry.1 <+: tail ∨ tail <+: entry.1) : lead = [] := by
  rcases List.eq_nil_or_concat lead with empty | ⟨init, char, leadEq⟩
  · exact empty
  · rw [List.concat_eq_append] at leadEq
    have apart := no_name_behind_gap term inTable lead.length
    rw [split, List.take_left, List.drop_left] at apart
    rw [leadEq, ← List.append_assoc, List.getLast?_concat] at free
    have shorter : lead.length < (lead ++ tail).length := by
      rw [List.length_append]
      exact Nat.lt_add_of_pos_right (List.length_pos_iff.mpr tailNe)
    have positive : 0 < lead.length := by
      rw [leadEq, List.length_append]
      exact Nat.lt_add_left _ Nat.one_pos
    have gap : lead.getLast?.any isAlphanumeric = false := by
      rw [leadEq, List.getLast?_concat]
      exact free
    rcases touching with begins | begins
    · exact absurd begins (apart shorter positive gap entry listed).1
    · exact absurd begins (apart shorter positive gap entry listed).2

/-- A name inside a term names the region that was replaced. -/
theorem regionStands_of_within (sound : gloss.Bilingual)
    (inTable : term ∈ productTerms ++ regionTerms ++ phraseTerms) (listed : entry ∈ regionNames)
    {form lead trail : Text} (spells : form ∈ term.arabic)
    (glossEq : gloss = left ++ .replaced form term.english :: right)
    (englishEq : lowerEach term.english = lead ++ entry.1 ++ trail)
    (freeBefore : (lowerEach left.written ++ lead).getLast?.any isAlphanumeric = false)
    (freeAfter : (trail ++ lowerEach right.written).head?.any isAlphanumeric = false) :
    RegionStands gloss := by
  have nonempty := ne_nil_of_isSpelled (regionNames_spelled entry listed).1
  have leadEq : lead = [] := by
    rw [List.append_assoc] at englishEq
    refine eq_nil_of_free inTable listed englishEq ?_ freeBefore (Or.inl (List.prefix_append _ _))
    exact fun empty => nonempty (List.append_eq_nil_iff.mp empty).1
  rw [leadEq, List.nil_append] at englishEq
  rw [leadEq, List.append_nil] at freeBefore
  have begins : entry.1 <+: lowerEach term.english := ⟨trail, englishEq.symm⟩
  rcases (apart term inTable entry listed).region begins with ⟨region, wholeOrSaudi⟩
  subst glossEq
  refine ⟨term, region, form, spells, left, right, rfl, ?_, ?_⟩
  · rw [any_getLast?_lower_source sound.left]
    exact freeBefore
  · rcases wholeOrSaudi with whole | saudi
    · have trailEq : trail = [] := by
        rw [whole] at englishEq
        exact List.append_right_eq_self.mp englishEq.symm
      rw [trailEq, List.nil_append] at freeAfter
      rw [any_head?_lower_source sound.right.tail]
      exact Or.inr freeAfter
    · exact Or.inl saudi

/-- No name leaves a term. -/
theorem false_of_leaving (inTable : term ∈ productTerms ++ regionTerms ++ phraseTerms)
    (listed : entry ∈ regionNames) {front lead head rest : Text}
    (englishEq : lowerEach term.english = lead ++ head) (headNe : head ≠ []) (restNe : rest ≠ [])
    (nameEq : entry.1 = head ++ rest)
    (freeBefore : (front ++ lead).getLast?.any isAlphanumeric = false) : False := by
  have begins : head <+: entry.1 := ⟨rest, nameEq.symm⟩
  have leadEq := eq_nil_of_free inTable listed englishEq headNe freeBefore (Or.inr begins)
  rw [leadEq, List.nil_append] at englishEq
  have whole := (apart term inTable entry listed).whole (englishEq ▸ begins)
  rw [englishEq, nameEq] at whole
  exact restNe (List.append_right_eq_self.mp whole.symm)

/-- A name that enters a term is the one of Bahrain. -/
theorem bahrain_of_entering (inTable : term ∈ productTerms ++ regionTerms ++ phraseTerms)
    (listed : entry ∈ regionNames) {head rest after behind : Text} (headNe : head ≠ [])
    (restNe : rest ≠ []) (nameEq : entry.1 = head ++ rest)
    (afterEq : rest ++ after = lowerEach term.english ++ behind)
    (freeAfter : after.head?.any isAlphanumeric = false) :
    after = behind ∧ ∀ form ∈ term.arabic, head ++ form = bahraIn := by
  have positive := List.length_pos_iff.mpr headNe
  have shorter : head.length < entry.1.length := by
    rw [nameEq, List.length_append]
    exact Nat.lt_add_of_pos_right (List.length_pos_iff.mpr restNe)
  have bahrain := (apart term inTable entry listed).inside head.length shorter positive
  have letter := (apart term inTable entry listed).letter head.length shorter positive
  rw [nameEq, List.take_left, List.drop_left] at bahrain
  rw [nameEq, List.drop_left] at letter
  have begins : lowerEach term.english <+: rest := by
    rcases List.append_eq_append_iff.mp afterEq with ⟨more, englishEq, afterEq⟩ | ⟨more, restEq, _⟩
    · rcases letter ⟨more, englishEq.symm⟩ with whole | touched
      · exact whole ▸ List.prefix_refl rest
      · -- What is left of the term begins with a letter, and the name ends there.
        rw [englishEq, List.drop_left] at touched
        cases more with
        | nil => cases touched
        | cons char more =>
            rw [afterEq] at freeAfter
            have touched : isAlphanumeric char = true := touched
            have free : isAlphanumeric char = false := freeAfter
            rw [touched] at free
            cases free
    · exact ⟨more, restEq.symm⟩
  refine ⟨?_, (bahrain begins).2⟩
  rw [(bahrain begins).1] at afterEq
  exact List.append_cancel_left afterEq

end Pieces

/-- Where a name in the rewritten question comes from. -/
theorem reason_of_standsIn {text : Text} {entry : Text × Text} (listed : entry ∈ regionNames)
    (alone : StandsIn entry.1 (apply text).lower) :
    StandsIn entry.1 text.lower ∨ RegionStands (gloss text) ∨ StandsIn bahraIn text.lower := by
  have spelled := (regionNames_spelled entry listed).1
  have sound := gloss_bilingual text
  rw [← written_gloss, standsIn_lower_iff (sigmaless_of_isTerm spelled)] at alone
  rcases alone with ⟨before, after, same, alone⟩
  rcases Gloss.occurrence same (ne_nil_of_isSpelled spelled) with
    ⟨left, run, right, lead, trail, glossEq, runEq, beforeEq, afterEq⟩ |
    ⟨left, form, english, right, lead, trail, glossEq, englishEq, beforeEq, afterEq⟩ |
    ⟨left, form, english, right, lead, head, rest, glossEq, englishEq, headNe, restNe, nameEq, beforeEq, _⟩ |
    ⟨left, run, form, english, right, lead, head, rest, glossEq, runEq, headNe, restNe, nameEq, beforeEq,
      afterEq⟩
  · refine Or.inl ?_
    rw [beforeEq, afterEq] at alone
    rw [← source_gloss text]
    exact (Gloss.standsIn_lower_source_iff sound spelled).mpr
      ⟨left, run, right, lead, trail, glossEq, runEq, alone⟩
  · rw [beforeEq, afterEq, standsAlone_iff] at alone
    rcases exists_term_of_gloss_eq glossEq with ⟨term, inTable, spells, rfl⟩
    exact Or.inr (Or.inl
      (regionStands_of_within sound inTable listed spells glossEq englishEq alone.1 alone.2))
  · rw [beforeEq, standsAlone_iff] at alone
    rcases exists_term_of_gloss_eq glossEq with ⟨term, inTable, _, rfl⟩
    exact (false_of_leaving inTable listed englishEq headNe restNe nameEq alone.1).elim
  · rw [beforeEq, standsAlone_iff] at alone
    rcases exists_term_of_gloss_eq glossEq with ⟨term, inTable, spells, rfl⟩
    rcases bahrain_of_entering inTable listed headNe restNe nameEq afterEq alone.2 with ⟨afterEq, whole⟩
    rw [glossEq] at sound
    have formSpelled := (sound form term.english List.mem_append_cons_self).1
    -- In the question the form stands where the gloss has its term.
    have sourceEq : lowerEach text =
        (lowerEach left.source ++ lead) ++ bahraIn ++ lowerEach right.source := by
      have formEq : lowerEach form = form := lowerEach_eq_self (isCaseless_of_mem_form formSpelled)
      rw [← source_gloss text, glossEq, Gloss.source_append, Gloss.source_append, Gloss.source_ofText,
        Gloss.source_cons, lowerEach_append, lowerEach_append, lowerEach_append, runEq, Piece.source, formEq,
        ← whole form spells]
      simp only [List.append_assoc]
    refine Or.inr (Or.inr ((standsIn_lower_iff bahraIn_unbroken.2).mpr ⟨_, _, sourceEq, ?_⟩))
    rw [standsAlone_iff]
    constructor
    · rw [← Gloss.any_getLast?_lowered sound.left.left lead]
      exact alone.1
    · rw [← Gloss.any_head?_written sound.right.tail, ← afterEq]
      exact alone.2

/-! ## What is found again -/

theorem standsIn_apply_of_standsIn {text : Text} {entry : Text × Text} (listed : entry ∈ regionNames)
    (alone : StandsIn entry.1 text.lower) : StandsIn entry.1 (apply text).lower := by
  have spelled := (regionNames_spelled entry listed).1
  have sound := gloss_bilingual text
  rw [← source_gloss text] at alone
  rw [← written_gloss, standsIn_lower_iff (sigmaless_of_isTerm spelled)]
  rcases (Gloss.standsIn_lower_source_iff sound spelled).mp alone with
    ⟨left, run, right, lead, trail, glossEq, runEq, alone⟩
  refine ⟨_, _, ?_, alone⟩
  rw [glossEq, Gloss.written_append, Gloss.written_append, Gloss.written_ofText, lowerEach_append,
    lowerEach_append, runEq]
  simp only [List.append_assoc]

theorem exists_standsIn_of_regionStands {text : Text} (stands : RegionStands (gloss text)) :
    ∃ entry ∈ regionNames, StandsIn entry.1 (apply text).lower := by
  rcases stands with ⟨term, region, form, _, left, right, glossEq, freeBefore, saudiOrFree⟩
  have sound := gloss_bilingual text
  rw [glossEq] at sound
  rw [any_getLast?_lower_source sound.left] at freeBefore
  -- It is enough to find a name at the beginning of the term that ends at a gap.
  have found : ∀ {entry : Text × Text} {trail : Text}, entry ∈ regionNames →
      lowerEach term.english = entry.1 ++ trail →
      (trail ++ lowerEach right.written).head?.any isAlphanumeric = false →
      ∃ entry ∈ regionNames, StandsIn entry.1 (apply text).lower := by
    intro entry trail listed englishEq freeAfter
    have spelled := (regionNames_spelled entry listed).1
    refine ⟨entry, listed, ?_⟩
    rw [← written_gloss, standsIn_lower_iff (sigmaless_of_isTerm spelled)]
    refine ⟨lowerEach left.written, trail ++ lowerEach right.written, ?_,
      standsAlone_iff.mpr ⟨freeBefore, freeAfter⟩⟩
    rw [glossEq, Gloss.written_append, Gloss.written_cons, lowerEach_append, lowerEach_append,
      Piece.written, englishEq]
    simp only [List.append_assoc]
  rcases saudiOrFree with saudi | freeAfter
  · rcases names_listed.2.1 with ⟨entry, listed, englishEq⟩
    have gap : isAlphanumeric ' ' = false := by decide
    exact found listed (englishEq term region saudi) gap
  · rcases names_listed.1 term region with ⟨entry, listed, nameEq⟩
    have englishEq : lowerEach term.english = entry.1 ++ [] := by
      rw [List.append_nil, nameEq]
    rw [any_head?_lower_source sound.right.tail] at freeAfter
    exact found listed englishEq freeAfter

theorem isForm_in : isForm ['ف', 'ي'] = true :=
  isSpelled_mono (fun _ => isArabicLetter_of_isBasicArabic) (by decide)

/-- Between a Latin letter and a gap the word is not kept. -/
theorem false_of_kept_in {text ends : Text} {char : Char} {left right : Gloss}
    (glossEq : gloss text = left ++ .kept 'ف' :: .kept 'ي' :: right) (latin : isCaseless char = false)
    (before : lowerEach left.source = ends ++ [char])
    (free : (lowerEach right.source).head?.any isAlphanumeric = false) : False := by
  have sound := gloss_bilingual text
  rw [glossEq] at sound
  rcases forms_beside_in.2 with ⟨term, inTable, spells⟩
  refine (apply_settled text).no_phrase term inTable _ spells ⟨left.written, right.written, ?_, ?_, ?_⟩
  · rw [← written_gloss, glossEq, Gloss.written_append, Gloss.written_cons, Gloss.written_cons,
      List.append_assoc]
    rfl
  · exact Gloss.getLast?_written_of_ends sound.left latin before
  · exact Gloss.head?_written_of_free sound.right.tail.tail free

theorem form_beside_in {text form english : Text} {left right : Gloss}
    (glossEq : gloss text = left ++ .replaced form english :: right) :
    isForm form = true ∧
      (['ف', 'ي'] <+: form → form = ['ف', 'ي'] ∧ lowerEach english = ['i', 'n']) ∧
        form ≠ ['ف'] ∧ form.head? ≠ some 'ي' := by
  have sound := gloss_bilingual text
  rw [glossEq] at sound
  rcases exists_term_of_gloss_eq glossEq with ⟨term, inTable, spells, rfl⟩
  exact ⟨(sound form term.english List.mem_append_cons_self).1, forms_beside_in.1 term inTable form spells⟩

/-- Behind a Latin letter the word does not stand across two pieces. -/
theorem false_of_across {text ends lead trail : Text} {char : Char} {left right : Gloss}
    {first last : Piece} (glossEq : gloss text = left ++ first :: last :: right)
    (firstEq : first.source = lead ++ ['ف']) (lastEq : last.source = ['ي'] ++ trail)
    (latin : isCaseless char = false) (before : lowerEach (left.source ++ lead) = ends ++ [char])
    (free : (lowerEach (trail ++ right.source)).head?.any isAlphanumeric = false) : False := by
  have place : gloss text = (left ++ [first]) ++ last :: right := by
    rw [glossEq, List.append_assoc]
    rfl
  cases last with
  | replaced form english =>
      have formEq : form = ['ي'] ++ trail := lastEq
      exact (form_beside_in place).2.2.2 (by rw [formEq]; rfl)
  | kept second =>
      have secondEq : [second] = 'ي' :: trail := lastEq
      have trailEq : trail = [] := (List.cons.inj secondEq).2.symm
      cases first with
      | replaced form english =>
          rcases form_beside_in glossEq with ⟨spelled, _, notPart, _⟩
          have formEq : form = lead ++ ['ف'] := firstEq
          have leadEq : lead = [] := eq_nil_of_ends_in_form spelled formEq latin before
          rw [leadEq, List.nil_append] at formEq
          exact notPart formEq
      | kept first =>
          have leadEq : lead = [] ∧ first = 'ف' := by
            have split : lead ++ ['ف'] = [first] := firstEq.symm
            rcases List.append_eq_singleton_iff.mp split with both | impossible
            · exact ⟨both.1, (List.cons.inj both.2).1.symm⟩
            · cases impossible.2
          rw [leadEq.2, (List.cons.inj secondEq).1] at glossEq
          rw [leadEq.1, List.append_nil] at before
          rw [trailEq, List.nil_append] at free
          exact false_of_kept_in glossEq latin before free

/-- Between Latin letters and a gap the Arabic word for "in" was replaced. -/
theorem exists_replaced_in {text before after : Text} (same : lowerEach text = before ++ bahraIn ++ after)
    (free : after.head?.any isAlphanumeric = false) :
    ∃ (left right : Gloss) (form english : Text), gloss text = left ++ .replaced form english :: right ∧
      lowerEach english = ['i', 'n'] ∧ lowerEach left.source = before ++ ['b', 'a', 'h', 'r', 'a'] ∧
      lowerEach right.source = after := by
  have latin : isCaseless 'a' = false := by decide
  have parts : before ++ bahraIn ++ after =
      before ++ ['b', 'a', 'h', 'r', 'a'] ++ ['ف', 'ي'] ++ after := by
    rw [bahraIn]
    simp only [List.append_assoc, List.cons_append, List.nil_append]
  rw [parts] at same
  rcases exists_of_lowerEach_eq (isCaseless_of_mem_form isForm_in) (ne_nil_of_isSpelled isForm_in) same
    with ⟨front, rest, textEq, frontEq, restEq⟩
  have ends : lowerEach front = (before ++ ['b', 'a', 'h', 'r']) ++ ['a'] := by
    rw [frontEq, List.append_assoc]
    rfl
  have blocks : (gloss text).flatMap Piece.source = front ++ ['ف', 'ي'] ++ rest := by
    rw [← textEq]
    exact source_gloss text
  rw [← restEq] at free
  rcases Blocks.cover blocks (ne_nil_of_isSpelled isForm_in) with
    ⟨left, item, right, lead, trail, glossEq, blockEq, beforeEq, afterEq⟩ |
    ⟨left, first, middle, last, right, lead, head, tail, trail, glossEq, firstEq, headNe, lastEq, tailNe,
      wordEq, beforeEq, afterEq⟩
  · cases item with
    | kept char =>
        have lengths := congrArg List.length blockEq
        rw [Piece.source, List.length_append, List.length_append] at lengths
        change 1 = _ + 2 + _ at lengths
        omega
    | replaced form english =>
        rcases form_beside_in glossEq with ⟨spelled, begun, _, _⟩
        have formEq : form = lead ++ ['ف', 'ي'] ++ trail := blockEq
        have leadEq : lead = [] := by
          rw [List.append_assoc] at formEq
          rw [beforeEq] at ends
          exact eq_nil_of_ends_in_form spelled formEq latin ends
        rw [leadEq, List.nil_append] at formEq
        rcases begun ⟨trail, formEq.symm⟩ with ⟨whole, lowered⟩
        rw [whole] at formEq
        have trailEq : trail = [] := List.append_right_eq_self.mp formEq.symm
        refine ⟨left, right, form, english, glossEq, lowered, ?_, ?_⟩
        · rw [← frontEq, beforeEq, leadEq, List.append_nil]
          rfl
        · rw [← restEq, afterEq, trailEq, List.nil_append]
          rfl
  · rcases Blocks.eq_of_pair_eq_append wordEq headNe tailNe with ⟨headEq, middleEq, tailEq⟩
    have middleNil : middle = [] := by
      have sound := gloss_bilingual text
      rw [glossEq] at sound
      exact Gloss.eq_nil_of_source_eq_nil sound.right.tail.left middleEq
    rw [headEq] at firstEq
    rw [tailEq] at lastEq
    rw [middleNil, List.nil_append] at glossEq
    rw [beforeEq] at ends
    rw [afterEq] at free
    exact (false_of_across glossEq firstEq lastEq latin ends free).elim

theorem exists_standsIn_of_bahraIn {text : Text} (alone : StandsIn bahraIn text.lower) :
    ∃ entry ∈ regionNames, StandsIn entry.1 (apply text).lower := by
  rcases (standsIn_lower_iff bahraIn_unbroken.2).mp alone with ⟨before, after, same, alone⟩
  rw [standsAlone_iff] at alone
  rcases exists_replaced_in same alone.2 with
    ⟨left, right, form, english, glossEq, englishEq, frontEq, behindEq⟩
  have sound := gloss_bilingual text
  rw [glossEq] at sound
  have ends : lowerEach left.source = before ++ ['b', 'a', 'h', 'r', 'a'] ++ [] := by
    rw [List.append_nil, frontEq]
  rcases Gloss.exists_run_of_folded sound.left (by decide) ends with
    ⟨front, run, others, lead, trail, leftEq, runEq, beforeEq, nothing⟩
  have trailEq : trail = [] := (List.append_eq_nil_iff.mp nothing.symm).1
  have othersEq : others = [] := by
    rw [leftEq] at sound
    have empty := eq_nil_of_lowerEach_eq_nil (List.append_eq_nil_iff.mp nothing.symm).2
    exact Gloss.eq_nil_of_source_eq_nil sound.left.right empty
  rcases names_listed.2.2 with ⟨entry, listed, nameEq⟩
  have spelled := (regionNames_spelled entry listed).1
  refine ⟨entry, listed, ?_⟩
  rw [← written_gloss, standsIn_lower_iff (sigmaless_of_isTerm spelled)]
  rw [leftEq] at sound
  refine ⟨lowerEach (Gloss.written front) ++ lead, lowerEach right.written, ?_, ?_⟩
  · rw [glossEq, leftEq, othersEq, List.append_nil, Gloss.written_append, Gloss.written_append,
      Gloss.written_ofText, Gloss.written_cons, lowerEach_append, lowerEach_append, lowerEach_append, runEq,
      trailEq, List.append_nil, Piece.written, englishEq, nameEq]
    simp only [List.append_assoc]
  · rw [standsAlone_iff, Gloss.any_getLast?_lowered sound.left.left.left, ← beforeEq,
      Gloss.any_head?_written sound.right.tail, behindEq]
    exact alone

/-- When the rewritten question still has a region: a name of the list stands
by itself in the question, a form stood by itself where it was replaced, or
the question holds the one word that is rewritten to a name. -/
theorem region?_apply_isSome_iff (text : Text) :
    (region? (apply text)).isSome = true ↔
      (∃ entry ∈ regionNames, hasWord entry.1 text.lower = true) ∨ RegionStands (gloss text) ∨
        hasWord bahraIn text.lower = true := by
  have decided : ∀ {text : Text}, ∀ entry ∈ regionNames,
      hasWord entry.1 text = true ↔ StandsIn entry.1 text := by
    intro text entry listed
    have spelled := regionNames_spelled entry listed
    exact hasWord_iff (ne_nil_of_isSpelled spelled.1) spelled.2
  have bahraInDecided : hasWord bahraIn text.lower = true ↔ StandsIn bahraIn text.lower :=
    hasWord_iff (by decide) bahraIn_unbroken.1
  have named : (region? (apply text)).isSome = true ↔
      ∃ entry ∈ regionNames, StandsIn entry.1 (apply text).lower := by
    rw [region?_isSome_iff]
    constructor
    · rintro (⟨entry, listed, found⟩ | ⟨term, inTable, form, spells, stands⟩)
      · exact ⟨entry, listed, (decided entry listed).mp found⟩
      · exact absurd stands ((apply_settled text).no_region term inTable form spells)
    · rintro ⟨entry, listed, alone⟩
      exact Or.inl ⟨entry, listed, (decided entry listed).mpr alone⟩
  rw [named, bahraInDecided]
  constructor
  · rintro ⟨entry, listed, alone⟩
    rcases reason_of_standsIn listed alone with kept | stands | put
    · exact Or.inl ⟨entry, listed, (decided entry listed).mpr kept⟩
    · exact Or.inr (Or.inl stands)
    · exact Or.inr (Or.inr put)
  · rintro (⟨entry, listed, found⟩ | stands | put)
    · exact ⟨entry, listed, standsIn_apply_of_standsIn listed ((decided entry listed).mp found)⟩
    · exact exists_standsIn_of_regionStands stands
    · exact exists_standsIn_of_bahraIn put

/-- Egypt behind an attached preposition is found in the question and lost from
the rewritten one. -/
theorem region?_apply_attached :
    detect "بمصر" none = .arabic ∧ region? ("بمصر" : String) = some "Egypt" ∧
      region? (apply ("بمصر" : String)) = none := by
  decide +kernel

end Entities
end FeedDesk
