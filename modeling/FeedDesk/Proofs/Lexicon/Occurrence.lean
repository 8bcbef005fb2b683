import FeedDesk.Proofs.Lexicon.Gloss
import FeedDesk.Proofs.Text.Standing

namespace FeedDesk

open FeedDesk.Language Text

/-!
# Where a word stands in a gloss

The rules for names and purposes look for words in the lower case of the text
that the lexicon has written.  A word found there lies over the pieces of the
gloss in one of four ways.  It stands in a run of kept characters; it stands
inside a term that was written; or it crosses an edge of such a term, either
leaving the term or entering it from kept characters.

Only the first way has a counterpart in the question itself, and there it is
the only one: forms begin and end with Arabic letters, so a Latin word in the
question never touches one.
-/

namespace Lexicon

/-! ## The two alphabets in lower case -/

variable {word : Text}

theorem isCaseless_of_mem_form {form : Text} (spelled : isForm form = true) :
    ∀ char ∈ form, isCaseless char = true := by
  intro char member
  rcases letter_or_blank_of_mem spelled member with letter | rfl
  · exact isCaseless_of_isArabicChar (isArabicChar_of_isArabicLetter letter)
  · exact isCaseless_blank

/-- No character of a Latin word comes from the beginning of a form. -/
theorem eq_nil_of_lowerEach_form_eq_append {form head trail : Text} (spelled : isForm form = true)
    (latin : ∀ char ∈ head, isArabicLetter char = false) (split : lowerEach form = head ++ trail) :
    head = [] := by
  rw [lowerEach_eq_self (isCaseless_of_mem_form spelled)] at split
  rcases exists_cons_of_isSpelled spelled with ⟨first, others, begins, letter⟩
  cases head with
  | nil => rfl
  | cons char head =>
      rw [begins, List.cons_append] at split
      rw [(List.cons.inj split).1, latin char List.mem_cons_self] at letter
      cases letter

/-- No character of a Latin word comes from the end of a form. -/
theorem eq_nil_of_lowerEach_form_eq_append' {form lead tail : Text} (spelled : isForm form = true)
    (latin : ∀ char ∈ tail, isArabicLetter char = false) (split : lowerEach form = lead ++ tail) :
    tail = [] := by
  rw [lowerEach_eq_self (isCaseless_of_mem_form spelled)] at split
  rcases exists_concat_of_isSpelled spelled with ⟨front, last, ends, letter⟩
  rcases List.eq_nil_or_concat tail with empty | ⟨init, char, tailEq⟩
  · exact empty
  · rw [List.concat_eq_append] at tailEq
    rw [tailEq] at latin
    rw [ends, tailEq, ← List.append_assoc] at split
    have lastEq : last = char := by
      have lasts := congrArg List.getLast? split
      rw [List.getLast?_concat, List.getLast?_concat] at lasts
      exact Option.some.inj lasts
    rw [lastEq, latin char (List.mem_append_right _ List.mem_cons_self)] at letter
    cases letter

theorem sigmaless_of_isTerm (spelled : isTerm word = true) : Sigmaless word := by
  intro char member
  rcases letter_or_blank_of_mem spelled member with ascii | rfl
  · have basic := toNat_lt_of_isAsciiLetter ascii
    constructor
    · rintro rfl
      exact absurd basic (by decide)
    · rintro rfl
      exact absurd basic (by decide)
  · decide

theorem sigmaless_of_isForm (spelled : isForm word = true) : Sigmaless word := by
  intro char member
  have caseless := isCaseless_of_mem_form spelled char member
  constructor
  · rintro rfl
    exact absurd caseless (by decide)
  · rintro rfl
    exact absurd caseless (by decide)

theorem isAlphanumeric_of_isArabicLetter {char : Char} (letter : isArabicLetter char = true) :
    isAlphanumeric char = true := by
  rw [isAlphanumeric, (Bool.and_eq_true_iff.mp letter).2, Bool.true_or]

theorem exists_lowerOne_of_isAsciiLetter {char : Char} (ascii : isAsciiLetter char = true) :
    ∃ small, lowerOne char = [small] ∧ isAlphanumeric small = true := by
  have table : ∀ code < 0x80, isAsciiLetter (Char.ofNat code) = true →
      isAlphanumeric (asciiLowerChar (Char.ofNat code)) = true := by
    decide +kernel
  have basic := toNat_lt_of_isAsciiLetter ascii
  refine ⟨asciiLowerChar char, lowerOne_of_lt basic, ?_⟩
  have here := table char.toNat basic
  rw [Char.ofNat_toNat] at here
  exact here ascii

/-- A text whose lower case ends with a Latin letter does not end with a form
or a part of one. -/
theorem eq_nil_of_ends {front lead ends : Text} {char : Char} (latin : isCaseless char = false)
    (caseless : ∀ char ∈ lead, isCaseless char = true)
    (same : lowerEach (front ++ lead) = ends ++ [char]) : lead = [] := by
  rcases List.eq_nil_or_concat lead with empty | ⟨init, last, leadEq⟩
  · exact empty
  · rw [List.concat_eq_append] at leadEq
    have here : isCaseless last = true := caseless last (by rw [leadEq]; exact List.mem_concat_self)
    have lasts := congrArg List.getLast? same
    rw [leadEq, ← List.append_assoc, lowerEach_append, lowerEach_cons, lowerOne_of_isCaseless here,
      lowerEach_nil, List.append_nil, List.getLast?_concat, List.getLast?_concat] at lasts
    rw [Option.some.inj lasts, latin] at here
    cases here

theorem eq_nil_of_ends_in_form {form lead rest front ends : Text} {char : Char}
    (spelled : isForm form = true) (formEq : form = lead ++ rest) (latin : isCaseless char = false)
    (same : lowerEach (front ++ lead) = ends ++ [char]) : lead = [] := by
  refine eq_nil_of_ends latin (fun other member => isCaseless_of_mem_form spelled other ?_) same
  rw [formEq]
  exact List.mem_append_left rest member

/-! ## Pieces -/

namespace Piece

/-- The lower case of what is written. -/
def lowered (piece : Piece) : Text :=
  lowerEach piece.written

/-- The lower case of what is explained. -/
def folded (piece : Piece) : Text :=
  lowerEach piece.source

end Piece

namespace Gloss

theorem flatMap_lowered (gloss : Gloss) : gloss.flatMap Piece.lowered = lowerEach gloss.written :=
  List.flatMap_assoc.symm

theorem flatMap_folded (gloss : Gloss) : gloss.flatMap Piece.folded = lowerEach gloss.source :=
  List.flatMap_assoc.symm

/-- How a word in the lower case of what is written lies over the pieces,
given what stands before and after it. -/
inductive Occurrence (gloss : Gloss) (before word after : Text) : Prop
  | kept (left : Gloss) (run : Text) (right : Gloss) (lead trail : Text)
      (gloss_eq : gloss = left ++ ofText run ++ right)
      (run_eq : lowerEach run = lead ++ word ++ trail)
      (before_eq : before = lowerEach left.written ++ lead)
      (after_eq : after = trail ++ lowerEach right.written)
  | within (left : Gloss) (form english : Text) (right : Gloss) (lead trail : Text)
      (gloss_eq : gloss = left ++ .replaced form english :: right)
      (english_eq : lowerEach english = lead ++ word ++ trail)
      (before_eq : before = lowerEach left.written ++ lead)
      (after_eq : after = trail ++ lowerEach right.written)
  | leaving (left : Gloss) (form english : Text) (right : Gloss) (lead head rest : Text)
      (gloss_eq : gloss = left ++ .replaced form english :: right)
      (english_eq : lowerEach english = lead ++ head) (head_ne : head ≠ []) (rest_ne : rest ≠ [])
      (word_eq : word = head ++ rest) (before_eq : before = lowerEach left.written ++ lead)
      (after_eq : rest ++ after = lowerEach right.written)
  | entering (left : Gloss) (run form english : Text) (right : Gloss) (lead head rest : Text)
      (gloss_eq : gloss = left ++ ofText run ++ .replaced form english :: right)
      (run_eq : lowerEach run = lead ++ head) (head_ne : head ≠ []) (rest_ne : rest ≠ [])
      (word_eq : word = head ++ rest) (before_eq : before = lowerEach left.written ++ lead)
      (after_eq : rest ++ after = lowerEach english ++ lowerEach right.written)

theorem occurrence {gloss : Gloss} {before word after : Text}
    (same : lowerEach gloss.written = before ++ word ++ after) (nonempty : word ≠ []) :
    Occurrence gloss before word after := by
  rw [← flatMap_lowered] at same
  rcases Blocks.cover same nonempty with
    ⟨left, item, right, lead, trail, glossEq, blockEq, beforeEq, afterEq⟩ |
    ⟨left, first, middle, last, right, lead, head, tail, trail, glossEq, firstEq, headNe, lastEq, tailNe,
      wordEq, beforeEq, afterEq⟩
  · rw [flatMap_lowered] at beforeEq afterEq
    cases item with
    | kept char =>
        refine .kept left [char] right lead trail (by rw [glossEq, List.append_assoc]; rfl) ?_ beforeEq
          afterEq
        exact blockEq
    | replaced form english => exact .within left form english right lead trail glossEq blockEq beforeEq afterEq
  · rw [flatMap_lowered] at wordEq beforeEq afterEq
    have restNe : ∀ front : Text, front ++ tail ≠ [] :=
      fun front empty => tailNe (List.append_eq_nil_iff.mp empty).2
    have behind : tail ++ after = last.lowered ++ lowerEach (written right) := by
      rw [afterEq, lastEq, List.append_assoc]
    cases first with
    | replaced form english =>
        refine .leaving left form english (middle ++ last :: right) lead head _ glossEq firstEq headNe
          (restNe _) wordEq beforeEq ?_
        rw [List.append_assoc, behind, written_append, written_cons, lowerEach_append, lowerEach_append]
        rfl
    | kept char =>
        have headEq : lowerEach [char] = lead ++ head := firstEq
        rcases exists_run middle with ⟨run, rfl⟩ | ⟨run, form, english, others, rfl⟩
        · rw [written_ofText] at wordEq
          have joined : lowerEach (char :: run) = lead ++ (head ++ lowerEach run) := by
            rw [← List.singleton_append, lowerEach_append, headEq, List.append_assoc]
          cases last with
          | kept other =>
              have tailEq : lowerEach [other] = tail ++ trail := lastEq
              refine .kept left (char :: run ++ [other]) right lead trail ?_ ?_ beforeEq afterEq
              · rw [glossEq, ofText_append, List.append_assoc, List.append_assoc]
                rfl
              · rw [lowerEach_append, joined, tailEq, wordEq]
                simp only [List.append_assoc]
          | replaced form english =>
              refine .entering left (char :: run) form english right lead (head ++ lowerEach run) tail ?_
                joined (fun empty => headNe (List.append_eq_nil_iff.mp empty).1) tailNe ?_ beforeEq behind
              · rw [glossEq, List.append_assoc]
                rfl
              · rw [wordEq, List.append_assoc]
        · refine .entering left (char :: run) form english (others ++ last :: right) lead
            (head ++ lowerEach run) (lowerEach english ++ (lowerEach (written others) ++ tail)) ?_ ?_
            (fun empty => headNe (List.append_eq_nil_iff.mp empty).1) ?_ ?_ beforeEq ?_
          · rw [glossEq, List.append_assoc, List.append_assoc]
            rfl
          · rw [← List.singleton_append, lowerEach_append, headEq, List.append_assoc]
          · rw [← List.append_assoc]
            exact restNe _
          · rw [wordEq, written_append, written_ofText, written_cons, lowerEach_append, lowerEach_append]
            simp only [List.append_assoc, Piece.written]
          · rw [List.append_assoc, List.append_assoc, behind, written_append, written_cons,
              lowerEach_append, lowerEach_append]
            rfl

/-! ## Words found in the finished text -/

/-- The word can be cut so that its two parts meet at an edge of a written
term. -/
def Straddles (word : Text) (gloss : Gloss) : Prop :=
  ∃ (left right : Gloss) (first second : Text), gloss = left ++ right ∧
    (left.getLast?.any Piece.isReplaced = true ∨ right.head?.any Piece.isReplaced = true) ∧
    word = first ++ second ∧ first ≠ [] ∧ second ≠ [] ∧
    first <:+ left.written.lower ∧ second <+: right.written.lower

/-- Some written term contains the word. -/
def Carries (gloss : Gloss) (word : Text) : Prop :=
  ∃ form english, Piece.replaced form english ∈ gloss ∧ word <:+: english.lower

/-- Kept characters, one beside the other, contain the word. -/
def Keeps (gloss : Gloss) (word : Text) : Prop :=
  ∃ run, ofText run <:+: gloss ∧ word <:+: lowerEach run

variable {gloss : Gloss}

theorem Straddles.infix_lower (free : Sigmaless word) (straddles : Straddles word gloss) :
    word <:+: gloss.written.lower := by
  rcases straddles with ⟨left, right, first, second, rfl, _, rfl, _, _, ends, begins⟩
  have firstFree : Sigmaless first := fun char member => free char (List.mem_append_left second member)
  have secondFree : Sigmaless second := fun char member => free char (List.mem_append_right first member)
  rcases (suffix_lower_iff firstFree).mp ends with ⟨before, beforeEq⟩
  rcases (prefix_lower_iff secondFree).mp begins with ⟨after, afterEq⟩
  refine (infix_lower_iff free).mpr ⟨before, after, ?_⟩
  rw [written_append, lowerEach_append, ← beforeEq, ← afterEq]
  simp only [List.append_assoc]

theorem Carries.infix_lower (free : Sigmaless word) (carries : gloss.Carries word) :
    word <:+: gloss.written.lower := by
  rcases carries with ⟨form, english, member, inside⟩
  rcases List.append_of_mem member with ⟨left, right, rfl⟩
  have lowered := (infix_lower_iff free).mp inside
  refine (infix_lower_iff free).mpr (lowered.trans ?_)
  rw [written_append, written_cons, lowerEach_append, lowerEach_append]
  exact ⟨_, _, by rw [List.append_assoc]; rfl⟩

theorem Keeps.infix_lower (free : Sigmaless word) (keeps : gloss.Keeps word) :
    word <:+: gloss.written.lower := by
  rcases keeps with ⟨run, ⟨left, right, rfl⟩, inside⟩
  refine (infix_lower_iff free).mpr (inside.trans ?_)
  rw [written_append, written_append, written_ofText, lowerEach_append, lowerEach_append]
  exact ⟨_, _, rfl⟩

/-- A word is found in the finished text for one of three reasons. -/
theorem infix_lower_written_iff (free : Sigmaless word) (nonempty : word ≠ []) :
    word <:+: gloss.written.lower ↔ gloss.Keeps word ∨ gloss.Carries word ∨ Straddles word gloss := by
  constructor
  · intro stands
    rcases (infix_lower_iff free).mp stands with ⟨before, after, same⟩
    rcases occurrence same.symm nonempty with
      ⟨left, run, right, lead, trail, glossEq, runEq, _, _⟩ |
      ⟨left, form, english, right, lead, trail, glossEq, englishEq, _, _⟩ |
      ⟨left, form, english, right, lead, head, rest, glossEq, englishEq, headNe, restNe, wordEq, _, afterEq⟩ |
      ⟨left, run, form, english, right, lead, head, rest, glossEq, runEq, headNe, restNe, wordEq, _, afterEq⟩
    · exact Or.inl ⟨run, ⟨left, right, glossEq.symm⟩, ⟨lead, trail, runEq.symm⟩⟩
    · refine Or.inr (Or.inl ⟨form, english, ?_, (infix_lower_iff free).mpr ⟨lead, trail, englishEq.symm⟩⟩)
      rw [glossEq]
      exact List.mem_append_cons_self
    · rw [wordEq] at free
      have headFree : Sigmaless head := fun char member => free char (List.mem_append_left rest member)
      have restFree : Sigmaless rest := fun char member => free char (List.mem_append_right head member)
      refine Or.inr (Or.inr ⟨left ++ [.replaced form english], right, head, rest, ?_, Or.inl ?_, wordEq,
        headNe, restNe, (suffix_lower_iff headFree).mpr ?_, (prefix_lower_iff restFree).mpr ⟨after, afterEq⟩⟩)
      · rw [glossEq, List.append_assoc]
        rfl
      · rw [List.getLast?_concat]
        rfl
      · rw [written_append, lowerEach_append, written_cons, written_nil, List.append_nil, Piece.written,
          englishEq, ← List.append_assoc]
        exact List.suffix_append _ _
    · rw [wordEq] at free
      have headFree : Sigmaless head := fun char member => free char (List.mem_append_left rest member)
      have restFree : Sigmaless rest := fun char member => free char (List.mem_append_right head member)
      refine Or.inr (Or.inr ⟨left ++ ofText run, .replaced form english :: right, head, rest, glossEq,
        Or.inr rfl, wordEq, headNe, restNe, (suffix_lower_iff headFree).mpr ?_,
        (prefix_lower_iff restFree).mpr ⟨after, ?_⟩⟩)
      · rw [written_append, written_ofText, lowerEach_append, runEq, ← List.append_assoc]
        exact List.suffix_append _ _
      · rw [afterEq, written_cons, lowerEach_append]
        rfl
  · rintro (keeps | carries | straddles)
    · exact keeps.infix_lower free
    · exact carries.infix_lower free
    · exact straddles.infix_lower free

/-! ## Latin words in the question -/

/-- A Latin word in the question stands in a run of kept characters. -/
theorem exists_run_of_folded (sound : gloss.Bilingual) (spelled : isTerm word = true)
    {before after : Text} (same : lowerEach gloss.source = before ++ word ++ after) :
    ∃ left run right lead trail, gloss = left ++ ofText run ++ right ∧
      lowerEach run = lead ++ word ++ trail ∧ before = lowerEach (source left) ++ lead ∧
      after = trail ++ lowerEach (source right) := by
  have latin : ∀ char ∈ word, isArabicLetter char = false :=
    fun char member => isArabicLetter_eq_false_of_mem spelled member
  have form : ∀ {left right : Gloss} {form english : Text},
      gloss = left ++ .replaced form english :: right → isForm form = true := by
    rintro left right form english rfl
    exact (sound form english (List.mem_append_right _ List.mem_cons_self)).1
  rw [← flatMap_folded] at same
  rcases Blocks.cover same (ne_nil_of_isSpelled spelled) with
    ⟨left, item, right, lead, trail, glossEq, blockEq, beforeEq, afterEq⟩ |
    ⟨left, first, middle, last, right, lead, head, tail, trail, glossEq, firstEq, headNe, lastEq, tailNe,
      wordEq, beforeEq, afterEq⟩
  · rw [flatMap_folded] at beforeEq afterEq
    cases item with
    | kept char =>
        exact ⟨left, [char], right, lead, trail, by rw [glossEq, List.append_assoc]; rfl, blockEq,
          beforeEq, afterEq⟩
    | replaced other english =>
        -- The first letter of the word would be a Latin letter of a form.
        rcases exists_cons_of_isSpelled spelled with ⟨char, others, begins, ascii⟩
        have folded : other = lead ++ word ++ trail := by
          rw [← lowerEach_eq_self (isCaseless_of_mem_form (form glossEq))]
          exact blockEq
        have member : char ∈ other := by
          rw [folded, begins]
          exact List.mem_append_left _ (List.mem_append_right _ List.mem_cons_self)
        rw [isAsciiLetter_eq_false_of_mem (form glossEq) member] at ascii
        cases ascii
  · rw [flatMap_folded] at wordEq beforeEq afterEq
    rw [wordEq] at latin
    cases first with
    | replaced other english =>
        refine absurd (eq_nil_of_lowerEach_form_eq_append' (form glossEq) (fun char member => ?_) firstEq)
          headNe
        exact latin char (List.mem_append_left _ member)
    | kept char =>
        rcases exists_run middle with ⟨run, rfl⟩ | ⟨run, other, english, others, rfl⟩
        · cases last with
          | replaced other english =>
              have place : gloss = (left ++ .kept char :: ofText run) ++ .replaced other english :: right := by
                rw [glossEq, List.append_assoc, List.cons_append]
              refine absurd (eq_nil_of_lowerEach_form_eq_append (form place) (fun char member => ?_) lastEq)
                tailNe
              exact latin char (List.mem_append_right _ (List.mem_append_right _ member))
          | kept other =>
              have headEq : lowerEach [char] = lead ++ head := firstEq
              have tailEq : lowerEach [other] = tail ++ trail := lastEq
              refine ⟨left, char :: run ++ [other], right, lead, trail, ?_, ?_, beforeEq, afterEq⟩
              · rw [glossEq, ofText_append, List.append_assoc, List.append_assoc]
                rfl
              · rw [source_ofText] at wordEq
                rw [← List.singleton_append, lowerEach_append, lowerEach_append, headEq, tailEq, wordEq]
                simp only [List.append_assoc]
        · have place : gloss = (left ++ .kept char :: ofText run) ++
              .replaced other english :: (others ++ last :: right) := by
            rw [glossEq]
            simp only [List.append_assoc, List.cons_append]
          have folded := lowerEach_eq_self (isCaseless_of_mem_form (form place))
          have whole : lowerEach other = other ++ [] := by rw [folded, List.append_nil]
          refine absurd (eq_nil_of_lowerEach_form_eq_append (form place) (fun char member => ?_) whole)
            (ne_nil_of_isSpelled (form place))
          refine latin char (List.mem_append_right _ (List.mem_append_left _ ?_))
          rw [source_append, source_cons, lowerEach_append, lowerEach_append, Piece.source, folded]
          exact List.mem_append_right _ (List.mem_append_left _ member)

/-- Latin words are kept exactly where the question has them. -/
theorem keeps_iff_of_isTerm (sound : gloss.Bilingual) (spelled : isTerm word = true) :
    gloss.Keeps word ↔ word <:+: gloss.source.lower := by
  rw [infix_lower_iff (sigmaless_of_isTerm spelled)]
  constructor
  · rintro ⟨run, ⟨left, right, rfl⟩, inside⟩
    refine inside.trans ?_
    rw [source_append, source_append, source_ofText, lowerEach_append, lowerEach_append]
    exact ⟨_, _, rfl⟩
  · rintro ⟨before, after, same⟩
    rcases exists_run_of_folded sound spelled same.symm with
      ⟨left, run, right, lead, trail, glossEq, runEq, _, _⟩
    exact ⟨run, ⟨left, right, glossEq.symm⟩, ⟨lead, trail, runEq.symm⟩⟩

/-! ## Neighbours

A replacement puts a letter where a letter was, so it makes no difference to
a kept word whether its neighbours are taken before or after. -/

theorem any_head?_lowered_term {english : Text} (spelled : isTerm english = true) (rest : Text) :
    (lowerEach english ++ rest).head?.any isAlphanumeric = true := by
  rcases exists_cons_of_isSpelled spelled with ⟨char, others, rfl, ascii⟩
  rcases exists_lowerOne_of_isAsciiLetter ascii with ⟨small, lowered, letter⟩
  rw [lowerEach_cons, lowered]
  exact letter

theorem any_getLast?_lowered_term {english : Text} (spelled : isTerm english = true) (front : Text) :
    (front ++ lowerEach english).getLast?.any isAlphanumeric = true := by
  rcases exists_concat_of_isSpelled spelled with ⟨others, char, rfl, ascii⟩
  rcases exists_lowerOne_of_isAsciiLetter ascii with ⟨small, lowered, letter⟩
  rw [lowerEach_append, lowerEach_cons, lowered, lowerEach_nil, List.append_nil, ← List.append_assoc,
    List.getLast?_concat]
  exact letter

theorem any_head?_lowered (sound : gloss.Bilingual) (lead : Text) :
    (lead ++ lowerEach gloss.written).head?.any isAlphanumeric =
      (lead ++ lowerEach gloss.source).head?.any isAlphanumeric := by
  cases lead with
  | cons char lead => rfl
  | nil =>
      cases gloss with
      | nil => rfl
      | cons piece gloss =>
          rw [List.nil_append, List.nil_append, written_cons, source_cons, lowerEach_append, lowerEach_append]
          cases piece with
          | kept char =>
              rcases List.exists_cons_of_ne_nil (lowerOne_ne_nil char) with ⟨first, others, begins⟩
              have single : lowerEach [char] = first :: others := by
                rw [lowerEach_cons, lowerEach_nil, List.append_nil, begins]
              rw [Piece.written, Piece.source, single]
              rfl
          | replaced form english =>
              have spelled := sound form english List.mem_cons_self
              rw [Piece.written, Piece.source, any_head?_lowered_term spelled.2,
                lowerEach_eq_self (isCaseless_of_mem_form spelled.1)]
              rcases exists_cons_of_isSpelled spelled.1 with ⟨char, others, begins, letter⟩
              rw [begins]
              exact (isAlphanumeric_of_isArabicLetter letter).symm

theorem any_getLast?_lowered (sound : gloss.Bilingual) (trail : Text) :
    (lowerEach gloss.written ++ trail).getLast?.any isAlphanumeric =
      (lowerEach gloss.source ++ trail).getLast?.any isAlphanumeric := by
  rcases List.eq_nil_or_concat trail with rfl | ⟨init, char, rfl⟩
  · rw [List.append_nil, List.append_nil]
    rcases List.eq_nil_or_concat gloss with rfl | ⟨front, piece, rfl⟩
    · rfl
    · rw [List.concat_eq_append] at sound ⊢
      rw [written_append, source_append, lowerEach_append, lowerEach_append, written_cons, source_cons,
        written_nil, source_nil, List.append_nil, List.append_nil]
      cases piece with
      | kept char =>
          rcases List.eq_nil_or_concat (lowerOne char) with empty | ⟨init, last, ends⟩
          · exact absurd empty (lowerOne_ne_nil char)
          · have single : lowerEach [char] = init ++ [last] := by
              rw [lowerEach_cons, lowerEach_nil, List.append_nil, ends, List.concat_eq_append]
            rw [Piece.written, Piece.source, single, ← List.append_assoc, ← List.append_assoc,
              List.getLast?_concat, List.getLast?_concat]
      | replaced form english =>
          have spelled := sound form english (List.mem_append_right _ List.mem_cons_self)
          rw [Piece.written, Piece.source, any_getLast?_lowered_term spelled.2,
            lowerEach_eq_self (isCaseless_of_mem_form spelled.1)]
          rcases exists_concat_of_isSpelled spelled.1 with ⟨others, char, ends, letter⟩
          rw [ends, ← List.append_assoc, List.getLast?_concat]
          exact (isAlphanumeric_of_isArabicLetter letter).symm
  · rw [List.concat_eq_append, ← List.append_assoc, ← List.append_assoc, List.getLast?_concat,
      List.getLast?_concat]

theorem any_head?_written (sound : gloss.Bilingual) :
    (lowerEach gloss.written).head?.any isAlphanumeric =
      (lowerEach gloss.source).head?.any isAlphanumeric :=
  any_head?_lowered sound []

theorem any_getLast?_written (sound : gloss.Bilingual) :
    (lowerEach gloss.written).getLast?.any isAlphanumeric =
      (lowerEach gloss.source).getLast?.any isAlphanumeric := by
  have moved := any_getLast?_lowered sound []
  rw [List.append_nil, List.append_nil] at moved
  exact moved

/-- Where the question has a Latin letter, no Arabic letter is written last. -/
theorem getLast?_written_of_ends {left : Gloss} (sound : left.Bilingual) {ends : Text} {char : Char}
    (latin : isCaseless char = false) (same : lowerEach left.source = ends ++ [char]) :
    left.written.getLast?.any isArabicLetter = false := by
  rcases List.eq_nil_or_concat left.written with empty | ⟨init, last, writtenEq⟩
  · rw [empty]
    rfl
  · rw [List.concat_eq_append] at writtenEq
    rw [writtenEq, List.getLast?_concat]
    cases letter : isArabicLetter last with
    | false => exact letter
    | true =>
        have spelled : isForm [last] = true := by
          simp only [isForm, isSpelled, List.all_cons, List.all_nil, letter, List.head?_cons,
            List.getLast?_singleton, Option.any_some, Bool.true_or, Bool.and_self]
        have whole : left.written = init ++ [last] ++ [] := by rw [writtenEq, List.append_nil]
        rcases exists_of_written_eq sound spelled whole with ⟨front, rest, rfl, _, restEmpty⟩
        have restNil := eq_nil_of_written_eq_nil sound.right restEmpty
        rw [restNil, List.append_nil, source_append, source_ofText] at same
        have caseless : ∀ char ∈ [last], isCaseless char = true := isCaseless_of_mem_form spelled
        cases eq_nil_of_ends latin caseless same

/-- Where the question has no letter or number, no Arabic letter is written
first. -/
theorem head?_written_of_free {right : Gloss} (sound : right.Bilingual)
    (free : (lowerEach right.source).head?.any isAlphanumeric = false) :
    right.written.head?.any isArabicLetter = false := by
  have moved := any_head?_written sound
  rw [free] at moved
  cases writtenEq : right.written with
  | nil => rfl
  | cons char others =>
      cases letter : isArabicLetter char with
      | false => exact letter
      | true =>
          have caseless := isCaseless_of_isArabicChar (isArabicChar_of_isArabicLetter letter)
          rw [writtenEq, lowerEach_cons, lowerOne_of_isCaseless caseless] at moved
          have free : isAlphanumeric char = false := moved
          rw [isAlphanumeric_of_isArabicLetter letter] at free
          cases free

/-- A Latin word stands by itself in the question exactly if it stands by
itself in a run of kept characters of the finished text. -/
theorem standsIn_lower_source_iff (sound : gloss.Bilingual) (spelled : isTerm word = true) :
    StandsIn word gloss.source.lower ↔ ∃ left run right lead trail,
      gloss = left ++ ofText run ++ right ∧ lowerEach run = lead ++ word ++ trail ∧
        standsAlone (lowerEach (written left) ++ lead).getLast?
          (trail ++ lowerEach (written right)).head? = true := by
  rw [standsIn_lower_iff (sigmaless_of_isTerm spelled)]
  constructor
  · rintro ⟨before, after, same, alone⟩
    rcases exists_run_of_folded sound spelled same with
      ⟨left, run, right, lead, trail, rfl, runEq, rfl, rfl⟩
    refine ⟨left, run, right, lead, trail, rfl, runEq, ?_⟩
    rw [standsAlone_iff] at alone ⊢
    exact ⟨(any_getLast?_lowered sound.left.left lead).trans alone.1,
      (any_head?_lowered sound.right trail).trans alone.2⟩
  · rintro ⟨left, run, right, lead, trail, rfl, runEq, alone⟩
    refine ⟨lowerEach (source left) ++ lead, trail ++ lowerEach (source right), ?_, ?_⟩
    · rw [source_append, source_append, source_ofText, lowerEach_append, lowerEach_append, runEq]
      simp only [List.append_assoc]
    · rw [standsAlone_iff] at alone ⊢
      exact ⟨(any_getLast?_lowered sound.left.left lead).symm.trans alone.1,
        (any_head?_lowered sound.right trail).symm.trans alone.2⟩

end Gloss
end Lexicon
end FeedDesk
