import FeedDesk.Language.Detection
import FeedDesk.Proofs.First
import FeedDesk.Proofs.Lexicon.Occurrence
import FeedDesk.Proofs.Lexicon.Phrase
import FeedDesk.Question.Intent

namespace FeedDesk

open FeedDesk.Language Lexicon Text

/-!
# The purpose of a rewritten question

Rules for purposes have a rank, their place in the list, and a question that
no rule claims ranks last.  Rewriting a question keeps or improves its rank
exactly if some trigger of a rule that is good enough can still be seen.

A Latin trigger is seen if the question held it, if a written term carries it
or if it is put together at the edge of a term.  An Arabic trigger must first
get past the names of products and regions.  What the phrases then do to it is
harmless: a phrase that swallows an Arabic trigger writes a Latin one of the
same rule.  There is one exception.  "من يبيع" is two words, and when the
second is attached to more letters the phrase as a whole is not replaced, but
its first word alone is.
-/

namespace Intent

/-! ## Ranks -/

/-- The place of the rule, and behind all of them the general search. -/
def rank (intent : Intent) : Nat :=
  (rules.map fun rule => rule.1).idxOf intent

theorem rank_le (intent : Intent) : rank intent ≤ rules.length := by
  cases intent <;> decide

theorem length_le_rank_iff (intent : Intent) : rules.length ≤ rank intent ↔ intent = .genericSearch := by
  cases intent <;> decide

theorem rules_pairwise : rules.Pairwise fun first later => rank first.1 ≤ rank later.1 := by
  decide

/-- Some trigger of the list stands in the question. -/
def Triggered (triggers : List Text) (lowered : Text) : Prop :=
  ∃ trigger ∈ triggers, trigger <:+: lowered

theorem any_contains_iff {triggers : List Text} {lowered : Text} :
    (triggers.any fun trigger => Text.contains trigger lowered) = true ↔ Triggered triggers lowered := by
  simp only [List.any_eq_true, Text.contains_iff, Triggered]

/-- A question is claimed by the first rule with a trigger in it, and it is a
general search if there is none. -/
theorem classify_eq_iff {lowered : Text} {intent : Intent} :
    classify lowered = intent ↔
      (∃ triggers, First (fun rule => Triggered rule.2 lowered) rules (intent, triggers)) ∨
        intent = .genericSearch ∧ ∀ rule ∈ rules, ¬ Triggered rule.2 lowered := by
  have tests : ∀ rule ∈ rules, (rule.2.any fun trigger => Text.contains trigger lowered) = true ↔
      Triggered rule.2 lowered := fun _ _ => any_contains_iff
  rw [← First.find?_eq_none_iff tests]
  unfold classify
  split
  · rename_i claimed triggers found
    rw [found]
    constructor
    · rintro rfl
      exact Or.inl ⟨triggers, (First.find?_eq_some_iff tests).mp found⟩
    · rintro (⟨others, first⟩ | ⟨_, impossible⟩)
      · rw [(First.find?_eq_some_iff tests).mpr first] at found
        cases found
        rfl
      · cases impossible
  · rename_i missing
    constructor
    · rintro rfl
      exact Or.inr ⟨rfl, missing⟩
    · rintro (⟨others, first⟩ | ⟨rfl, _⟩)
      · rw [(First.find?_eq_some_iff tests).mpr first] at missing
        cases missing
      · rfl

/-- A question ranks at least as well as a rule exactly if that rule or an
earlier one claims it. -/
theorem rank_classify_le_iff {lowered : Text} {bound : Nat} :
    rank (classify lowered) ≤ bound ↔
      rules.length ≤ bound ∨
        ∃ rule ∈ rules, rank rule.1 ≤ bound ∧ ∃ trigger ∈ rule.2, trigger <:+: lowered := by
  rcases classify_eq_iff.mp (Eq.refl (classify lowered)) with ⟨triggers, first⟩ | ⟨general, none⟩
  · constructor
    · intro below
      exact Or.inr ⟨_, first.mem, below, first.holds_self⟩
    · rintro (all | ⟨rule, inRules, below, stands⟩)
      · exact Nat.le_trans (rank_le _) all
      · have earliest := first.le_of_holds (fun rule => Nat.le_refl (rank rule.1)) rules_pairwise inRules stands
        exact Nat.le_trans earliest below
  · constructor
    · intro below
      exact Or.inl (Nat.le_trans ((length_le_rank_iff _).mpr general) below)
    · rintro (all | ⟨rule, inRules, _, stands⟩)
      · exact Nat.le_trans (rank_le _) all
      · exact absurd stands (none rule inRules)

/-! ## Triggers and phrases -/

theorem triggers_spelled : ∀ rule ∈ rules, ∀ trigger ∈ rule.2,
    isTerm trigger = true ∨ isForm trigger = true := by
  decide +kernel

/-- A phrase that contains an Arabic trigger is written with a Latin one of the
same rule. -/
theorem swallowed_rewritten : ∀ rule ∈ rules, ∀ trigger ∈ rule.2, ∀ term ∈ phraseTerms,
    ∀ form ∈ term.arabic, Text.contains trigger form = true →
      (rule.2.any fun other => isTerm other && Text.contains other term.english.lower) = true := by
  decide +kernel

/-- The Arabic for "who sells", the one trigger that can be torn. -/
def whoSells : Text :=
  ['م', 'ن'] ++ ' ' :: ['ي', 'ب', 'ي', 'ع']

/-- A phrase that ends at a gap of a trigger is the first word of "who sells",
and none begins behind the gap. -/
theorem phrases_at_gap : ∀ trigger ∈ rules.flatMap Prod.snd, ∀ count < trigger.length,
    (trigger.drop count).head? = some ' ' → ∀ form ∈ phraseTerms.flatMap Term.arabic,
      (trigger.take count <:+ form → trigger = whoSells ∧ form = trigger.take count) ∧
        ¬ form <+: trigger.drop (count + 1) ∧ ¬ trigger.drop (count + 1) <+: form := by
  decide +kernel

theorem whoSells_listed : (∃ term ∈ phraseTerms, whoSells ∈ term.arabic) ∧
    ∃ term ∈ phraseTerms, ['م', 'ن'] ∈ term.arabic := by
  decide +kernel

/-! ## Arabic triggers -/

/-- The question after its products and regions have been replaced. -/
def named (text : Text) : Text :=
  regions.replaceForms .anywhere (products.replaceForms .anywhere text)

/-- The trigger stands in the text, and not as a "who sells" of which only the
first word will be replaced. -/
def StandsUntorn (trigger text : Text) : Prop :=
  ∃ before after, text = before ++ trigger ++ after ∧
    ¬ (trigger = whoSells ∧ before.getLast?.any isArabicLetter = false ∧
      after.head?.any isArabicLetter = true)

/-- The gloss of the phrases alone, over the text in which the names are
replaced. -/
def phraseGloss (text : Text) : Gloss :=
  phrases.mark .wholeWords 0 none (Gloss.ofText (named text))

theorem marks_phraseGloss (text : Text) :
    phrases.Marks .wholeWords none (Gloss.ofText (named text)) (phraseGloss text) :=
  Vocabulary.marks_mark phrases_bilingual none (Gloss.bilingual_ofText (named text))

theorem phraseGloss_bilingual (text : Text) : (phraseGloss text).Bilingual :=
  (marks_phraseGloss text).bilingual phrases_bilingual (Gloss.bilingual_ofText (named text))

theorem source_phraseGloss (text : Text) : (phraseGloss text).source = named text := by
  rw [(marks_phraseGloss text).source_eq, Gloss.source_ofText]

theorem written_phraseGloss (text : Text) : (phraseGloss text).written = apply text := by
  have written := (marks_phraseGloss text).scan_written phrases_bilingual (Gloss.bilingual_ofText (named text))
  rw [Gloss.written_ofText] at written
  rw [← written]
  rfl

theorem listed_of_mem_phraseGloss {text form english : Text}
    (member : Piece.replaced form english ∈ phraseGloss text) :
    ∃ term ∈ phraseTerms, form ∈ term.arabic ∧ english = term.english := by
  rcases (marks_phraseGloss text).mem_or_listed member with older | listed
  · rcases List.mem_map.mp older with ⟨char, _, impossible⟩
    cases impossible
  · exact mem_phrases.mp listed

/-- If no Arabic letter ended the text, none ends what is written. -/
theorem getLast?_written_of_source {gloss : Gloss} (sound : gloss.Bilingual)
    (free : gloss.source.getLast?.any isArabicLetter = false) :
    gloss.written.getLast?.any isArabicLetter = false := by
  rcases List.eq_nil_or_concat gloss with rfl | ⟨front, piece, rfl⟩
  · rfl
  · rw [List.concat_eq_append] at sound free ⊢
    rw [Gloss.source_append, Gloss.source_cons, Gloss.source_nil, List.append_nil] at free
    rw [Gloss.written_append, Gloss.written_cons, Gloss.written_nil, List.append_nil]
    cases piece with
    | kept char =>
        rw [Piece.source, List.getLast?_concat] at free
        rw [Piece.written, List.getLast?_concat]
        exact free
    | replaced form english =>
        have spelled := (sound form english (List.mem_append_right _ List.mem_cons_self)).2
        rcases exists_concat_of_isSpelled spelled with ⟨others, char, ends, ascii⟩
        rw [Piece.written, ends, ← List.append_assoc, List.getLast?_concat]
        exact isArabicLetter_eq_false_of_isAsciiLetter ascii

/-- An Arabic trigger in the rewritten question stood untorn before the
phrases were replaced. -/
theorem standsUntorn_of_stands {text trigger : Text} (spelled : isForm trigger = true)
    (stands : trigger <:+: (apply text).lower) : StandsUntorn trigger (named text) := by
  rcases (infix_lower_iff (sigmaless_of_isForm spelled)).mp stands with ⟨before, after, same⟩
  rcases exists_of_lowerEach_eq (isCaseless_of_mem_form spelled) (ne_nil_of_isSpelled spelled) same.symm
    with ⟨front, rest, textEq, _, _⟩
  rw [← written_phraseGloss] at textEq
  have sound := phraseGloss_bilingual text
  rcases Gloss.exists_of_written_eq sound spelled textEq with ⟨left, right, glossEq, _, _⟩
  refine ⟨left.source, right.source, ?_, ?_⟩
  · rw [← source_phraseGloss, glossEq, Gloss.source_append, Gloss.source_append, Gloss.source_ofText]
  · rintro ⟨rfl, free, _⟩
    -- The first word was free to be replaced.
    rcases whoSells_listed.2 with ⟨term, inTable, spells⟩
    have listed : (['م', 'ن'], term.english) ∈ phrases.longestFirst :=
      mem_phrases.mpr ⟨term, inTable, spells, rfl⟩
    have marks := marks_phraseGloss text
    have split : phraseGloss text =
        left ++ Gloss.ofText ['م', 'ن'] ++ (Gloss.ofText (' ' :: ['ي', 'ب', 'ي', 'ع']) ++ right) := by
      rw [glossEq, whoSells, Gloss.ofText_append]
      simp only [List.append_assoc]
    rw [split] at marks sound
    refine marks.not_form phrases_bilingual (Gloss.bilingual_ofText _) listed ?_ ?_
    · rw [Option.or_none]
      exact Matching.wholeWords_allows_iff.mpr (getLast?_written_of_source sound.left.left free)
    · exact Matching.wholeWords_allows_iff.mpr isArabicLetter_blank

/-- Before "who sells" as a whole, its first word is not replaced. -/
theorem torn_of_opened {text before after : Text} {left right : Gloss} {form english rest : Text}
    (glossEq : phraseGloss text = left ++ .replaced form english :: right)
    (triggerEq : whoSells = form ++ ' ' :: rest) (afterEq : right.source = ' ' :: rest ++ after)
    (beforeEq : before = left.source) :
    before.getLast?.any isArabicLetter = false ∧ after.head?.any isArabicLetter = true := by
  have marks := marks_phraseGloss text
  rw [glossEq] at marks
  constructor
  · rw [beforeEq]
    exact marks.free_before_of_replaced phrases_bilingual
  · cases letter : after.head?.any isArabicLetter with
    | true => rfl
    | false =>
        rcases whoSells_listed.1 with ⟨term, inTable, spells⟩
        have listed : (whoSells, term.english) ∈ phrases.longestFirst :=
          mem_phrases.mpr ⟨term, inTable, spells, rfl⟩
        have begins : form ++ right.source = whoSells ++ after := by
          rw [afterEq, triggerEq, List.append_assoc, List.cons_append]
        have short := marks.length_le_of_replaced phrases_bilingual
          (Vocabulary.longestFirst_pairwise phraseTerms_consistent) listed begins letter
        rw [triggerEq, List.length_append, List.length_cons] at short
        omega

/-- A rule whose Arabic trigger stood untorn can still be seen. -/
theorem exists_infix_of_standsUntorn {text : Text} {rule : Intent × List Text} (inRules : rule ∈ rules)
    {trigger : Text} (listed : trigger ∈ rule.2) (spelled : isForm trigger = true)
    (untorn : StandsUntorn trigger (named text)) :
    ∃ other ∈ rule.2, other <:+: (apply text).lower := by
  rcases untorn with ⟨before, after, textEq, notTorn⟩
  have inAll : trigger ∈ rules.flatMap Prod.snd := List.mem_flatMap.mpr ⟨rule, inRules, listed⟩
  have phraseForm : ∀ {form english : Text}, Piece.replaced form english ∈ phraseGloss text →
      form ∈ phraseTerms.flatMap Term.arabic := by
    intro form english member
    rcases listed_of_mem_phraseGloss member with ⟨term, inTable, spells, _⟩
    exact List.mem_flatMap.mpr ⟨term, inTable, spells⟩
  rcases Vocabulary.fate phrases_bilingual (marks_phraseGloss text) spelled textEq with
    stands | ⟨form, english, member, inside⟩ |
    ⟨left, form, english, right, head, rest, glossEq, triggerEq, _, ends, beforeEq, afterEq⟩ |
    ⟨form, english, front, tail, member, triggerEq, _, touching⟩
  · refine ⟨trigger, listed, (infix_lower_iff (sigmaless_of_isForm spelled)).mpr ?_⟩
    rcases stands with ⟨front, rest, writtenEq⟩
    rw [← written_phraseGloss, ← writtenEq, lowerEach_append, lowerEach_append,
      lowerEach_eq_self (isCaseless_of_mem_form spelled)]
    exact ⟨_, _, rfl⟩
  · rcases listed_of_mem_phraseGloss member with ⟨term, inTable, spells, rfl⟩
    have rewritten := swallowed_rewritten rule inRules trigger listed term inTable form spells
      (Text.contains_iff.mpr inside)
    rcases List.any_eq_true.mp rewritten with ⟨other, otherListed, both⟩
    rw [Bool.and_eq_true] at both
    refine ⟨other, otherListed, ?_⟩
    have carries : (phraseGloss text).Carries other :=
      ⟨form, term.english, member, Text.contains_iff.mp both.2⟩
    rw [← written_phraseGloss]
    exact carries.infix_lower (sigmaless_of_isTerm both.1)
  · have member : Piece.replaced form english ∈ phraseGloss text := by
      rw [glossEq]
      exact List.mem_append_cons_self
    have shorter : head.length < trigger.length := by
      rw [triggerEq, List.length_append, List.length_cons]
      omega
    have atGap := phrases_at_gap trigger inAll head.length shorter
    rw [triggerEq, List.drop_left, List.take_left] at atGap
    rcases (atGap rfl form (phraseForm member)).1 ends with ⟨isWhoSells, formEq⟩
    rw [← formEq] at isWhoSells beforeEq
    have torn := torn_of_opened glossEq isWhoSells.symm afterEq (List.append_cancel_right beforeEq)
    refine absurd ⟨?_, torn⟩ notTorn
    rw [triggerEq, ← formEq]
    exact isWhoSells
  · have shorter : front.length < trigger.length := by
      rw [triggerEq, List.length_append, List.length_cons]
      omega
    have atGap := phrases_at_gap trigger inAll front.length shorter
    have behind : trigger.drop (front.length + 1) = tail := by
      rw [triggerEq, ← List.drop_drop, List.drop_left]
      rfl
    rw [behind] at atGap
    rw [triggerEq, List.drop_left] at atGap
    have apart := (atGap rfl form (phraseForm member)).2
    rcases touching with begins | begins
    · exact absurd begins apart.1
    · exact absurd begins apart.2

/-! ## All triggers -/

/-- The trigger is not lost by rewriting the question.  An Arabic one stands
untorn once the names are replaced.  A Latin one stands in the question, is
carried by a written term or is put together at the edge of one. -/
inductive Survives (trigger text : Text) : Prop
  | untorn (spelled : isForm trigger = true) (stands : StandsUntorn trigger (named text))
  | held (spelled : isTerm trigger = true) (stands : trigger <:+: text.lower)
  | carried (spelled : isTerm trigger = true) (carries : (gloss text).Carries trigger)
  | joined (spelled : isTerm trigger = true) (straddles : Gloss.Straddles trigger (gloss text))

theorem infix_apply_iff_of_isTerm {text trigger : Text} (spelled : isTerm trigger = true) :
    trigger <:+: (apply text).lower ↔
      trigger <:+: text.lower ∨ (gloss text).Carries trigger ∨ Gloss.Straddles trigger (gloss text) := by
  rw [← written_gloss, Gloss.infix_lower_written_iff (sigmaless_of_isTerm spelled)
    (ne_nil_of_isSpelled spelled), Gloss.keeps_iff_of_isTerm (gloss_bilingual text) spelled, source_gloss]

/-- A rule claims the rewritten question exactly if one of its triggers
survives. -/
theorem exists_infix_apply_iff {text : Text} {rule : Intent × List Text} (inRules : rule ∈ rules) :
    (∃ trigger ∈ rule.2, trigger <:+: (apply text).lower) ↔ ∃ trigger ∈ rule.2, Survives trigger text := by
  constructor
  · rintro ⟨trigger, listed, stands⟩
    refine ⟨trigger, listed, ?_⟩
    rcases triggers_spelled rule inRules trigger listed with latin | arabic
    · rcases (infix_apply_iff_of_isTerm latin).mp stands with held | carried | straddles
      · exact .held latin held
      · exact .carried latin carried
      · exact .joined latin straddles
    · exact .untorn arabic (standsUntorn_of_stands arabic stands)
  · rintro ⟨trigger, listed, survives⟩
    cases survives with
    | untorn arabic untorn => exact exists_infix_of_standsUntorn inRules listed arabic untorn
    | held latin held => exact ⟨trigger, listed, (infix_apply_iff_of_isTerm latin).mpr (Or.inl held)⟩
    | carried latin carried =>
        exact ⟨trigger, listed, (infix_apply_iff_of_isTerm latin).mpr (Or.inr (Or.inl carried))⟩
    | joined latin straddles =>
        exact ⟨trigger, listed, (infix_apply_iff_of_isTerm latin).mpr (Or.inr (Or.inr straddles))⟩

/-- When a question keeps or improves its rank by being rewritten: nothing
claimed it, or a trigger survives of a rule that ranks no lower than its
purpose. -/
theorem rank_classify_apply_le_iff (text : Text) :
    rank (classify (apply text).lower) ≤ rank (classify text.lower) ↔
      classify text.lower = .genericSearch ∨
        ∃ rule ∈ rules, rank rule.1 ≤ rank (classify text.lower) ∧
          ∃ trigger ∈ rule.2, Survives trigger text := by
  rw [rank_classify_le_iff, length_le_rank_iff]
  constructor
  · rintro (general | ⟨rule, inRules, better, claims⟩)
    · exact Or.inl general
    · exact Or.inr ⟨rule, inRules, better, (exists_infix_apply_iff inRules).mp claims⟩
  · rintro (general | ⟨rule, inRules, better, survives⟩)
    · exact Or.inl general
    · exact Or.inr ⟨rule, inRules, better, (exists_infix_apply_iff inRules).mpr survives⟩

/-- A question for sellers ranks as a general search once its first word has
been replaced alone. -/
theorem rank_classify_apply_torn :
    detect "من يبيعون" none = .arabic ∧
      classify (Text.lower ("من يبيعون" : String)) = .supplierLookup ∧
      classify (apply ("من يبيعون" : String)).lower = .genericSearch ∧
      rank .supplierLookup < rank .genericSearch := by
  decide +kernel

end Intent
end FeedDesk
