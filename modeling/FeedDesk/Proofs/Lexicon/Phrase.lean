import FeedDesk.Proofs.Lexicon.Completeness

namespace FeedDesk

open FeedDesk.Language

/-!
# Replacing whole words

When only whole words count, the gloss of a text says more about a replaced
form than that it stands there.  No Arabic letter of the text touches the
form, and no longer form could have been replaced at its place.

The neighbour on the left needs a word.  The pass compares the form with the
character written last, and that may be the end of a term.  But then a form
ended there in the text, with the next form directly behind it, and such a
form is not a whole word.
-/

namespace Vocabulary

open Lexicon

variable {vocabulary : Vocabulary} {left right : Gloss} {text form english : Text}

namespace Marks

/-- A form that is replaced in a text was found there. -/
theorem found?_of_replaced {matching : Matching} (tables : vocabulary.Bilingual)
    (marks : vocabulary.Marks matching none (Gloss.ofText text)
      (left ++ .replaced form english :: right)) :
    vocabulary.found? matching left.written.getLast? (form ++ right.source) = some (form, english) := by
  rcases exists_of_append tables (Gloss.bilingual_ofText text) marks with
    ⟨front, rest, split, _, remains⟩
  rcases List.map_eq_append_iff.mp split with ⟨_, restText, _, _, rfl⟩
  rcases exists_of_replaced_cons remains with ⟨others, impossible⟩ | ⟨others, restEq, found, behind⟩
  · have member : Piece.replaced form english ∈ Gloss.ofText restText := by
      have restEq : Gloss.ofText restText = .replaced form english :: others := impossible
      rw [restEq]
      exact List.mem_cons_self
    rcases List.mem_map.mp member with ⟨char, _, impossible⟩
    cases impossible
  · rcases List.map_eq_append_iff.mp restEq with ⟨_, othersText, _, _, rfl⟩
    have sourceEq : right.source = othersText :=
      behind.source_eq.trans (Gloss.source_ofText othersText)
    have writtenEq : Gloss.written (othersText.map Piece.kept) = othersText :=
      Gloss.written_ofText othersText
    rw [Option.or_none, writtenEq, ← sourceEq] at found
    exact found

theorem free_after_of_replaced (tables : vocabulary.Bilingual)
    (marks : vocabulary.Marks .wholeWords none (Gloss.ofText text)
      (left ++ .replaced form english :: right)) :
    right.source.head?.any isArabicLetter = false := by
  rcases exists_rest_of_found? (found?_of_replaced tables marks) with ⟨rest, same, allowed⟩
  rw [List.append_cancel_left same]
  exact Matching.wholeWords_allows_iff.mp allowed

theorem free_before_of_replaced (tables : vocabulary.Bilingual)
    (marks : vocabulary.Marks .wholeWords none (Gloss.ofText text)
      (left ++ .replaced form english :: right)) :
    left.source.getLast?.any isArabicLetter = false := by
  have found := found?_of_replaced tables marks
  have free := Matching.wholeWords_allows_iff.mp (allows_of_found? found)
  rcases List.eq_nil_or_concat left with rfl | ⟨front, piece, rfl⟩
  · rfl
  · rw [List.concat_eq_append] at marks free ⊢
    rw [Gloss.source_append, Gloss.source_cons, Gloss.source_nil, List.append_nil]
    cases piece with
    | kept char =>
        rw [Gloss.written_append, Gloss.written_cons, Gloss.written_nil, List.append_nil] at free
        rw [Piece.source, List.getLast?_concat]
        rw [Piece.written, List.getLast?_concat] at free
        exact free
    | replaced other term =>
        -- The other form would be followed by the first letter of this one.
        rw [List.append_assoc] at marks
        have apart := free_after_of_replaced tables marks
        change (form ++ right.source).head?.any isArabicLetter = false at apart
        rcases exists_cons_of_isSpelled (tables.isForm _ (mem_of_found? found)) with
          ⟨char, others, begins, letter⟩
        change form = char :: others at begins
        rw [begins, List.cons_append, List.head?_cons, Option.any_some, letter] at apart
        cases apart

/-- No longer form could have been replaced at the place. -/
theorem length_le_of_replaced (tables : vocabulary.Bilingual)
    (sorted : vocabulary.longestFirst.Pairwise fun first later => later.1.length ≤ first.1.length)
    (marks : vocabulary.Marks .wholeWords none (Gloss.ofText text)
      (left ++ .replaced form english :: right))
    {other rest : Text} {term : Text} (listed : (other, term) ∈ vocabulary.longestFirst)
    (begins : form ++ right.source = other ++ rest) (free : rest.head?.any isArabicLetter = false) :
    other.length ≤ form.length :=
  length_le_of_found? sorted (found?_of_replaced tables marks) listed
    (fits_iff.mpr ⟨rest, begins, Matching.wholeWords_allows_iff.mpr free⟩)

end Marks
/-- What becomes of an Arabic word of the text when whole words are replaced:
it is kept, it is part of a form that is replaced, a form ends at a gap inside
it, or a form begins behind such a gap. -/
inductive Fate (marked : Gloss) (before word after : Text) : Prop
  | kept (stands : word <:+: marked.written)
  | swallowed (form english : Text) (member : Piece.replaced form english ∈ marked)
      (inside : word <:+: form)
  | opened (left : Gloss) (form english : Text) (right : Gloss) (head rest : Text)
      (marked_eq : marked = left ++ .replaced form english :: right)
      (word_eq : word = head ++ ' ' :: rest) (head_ne : head ≠ []) (ends : head <:+ form)
      (before_eq : before ++ head = left.source ++ form)
      (after_eq : right.source = ' ' :: rest ++ after)
  | closed (form english front tail : Text) (member : Piece.replaced form english ∈ marked)
      (word_eq : word = front ++ ' ' :: tail) (tail_ne : tail ≠ [])
      (touching : form <+: tail ∨ tail <+: form)

section Fate

variable {marked : Gloss} {before word after : Text}

theorem eq_blank_of_mem (spelled : isForm word = true) {char : Char} (member : char ∈ word)
    (free : isArabicLetter char = false) : char = ' ' := by
  refine (letter_or_blank_of_mem spelled member).resolve_left fun letter => ?_
  rw [letter] at free
  cases free

/-- A form that ends inside the word ends at a gap. -/
theorem fate_of_opened (tables : vocabulary.Bilingual)
    (marks : vocabulary.Marks .wholeWords none (Gloss.ofText text) marked) (spelled : isForm word = true)
    {lead head rest : Text} (markedEq : marked = left ++ .replaced form english :: right)
    (formEq : form = lead ++ head) (headNe : head ≠ []) (restNe : rest ≠ []) (wordEq : word = head ++ rest)
    (beforeEq : before = left.source ++ lead) (afterEq : right.source = rest ++ after) :
    Fate marked before word after := by
  rw [markedEq] at marks
  have free := marks.free_after_of_replaced tables
  rw [afterEq] at free
  cases rest with
  | nil => exact absurd rfl restNe
  | cons char rest =>
      have member : char ∈ word := by
        rw [wordEq]
        exact List.mem_append_right _ List.mem_cons_self
      have blank : char = ' ' := eq_blank_of_mem spelled member free
      rw [blank] at wordEq afterEq
      refine .opened left form english right head rest markedEq wordEq headNe ⟨lead, formEq.symm⟩ ?_ afterEq
      rw [beforeEq, formEq, List.append_assoc]

/-- A form that begins inside the word begins behind a gap. -/
theorem fate_of_closed (tables : vocabulary.Bilingual)
    (marks : vocabulary.Marks .wholeWords none (Gloss.ofText text) marked) (spelled : isForm word = true)
    {run tail : Text} (markedEq : marked = (left ++ Gloss.ofText run) ++ .replaced form english :: right)
    (runNe : run ≠ []) (tailNe : tail ≠ []) (wordEq : word = run ++ tail)
    (touching : form <+: tail ∨ tail <+: form) : Fate marked before word after := by
  have member : Piece.replaced form english ∈ marked := by
    rw [markedEq]
    exact List.mem_append_cons_self
  rw [markedEq] at marks
  have free := marks.free_before_of_replaced tables
  rcases List.eq_nil_or_concat run with empty | ⟨front, gap, runEq⟩
  · exact absurd empty runNe
  · rw [List.concat_eq_append] at runEq
    rw [Gloss.source_append, Gloss.source_ofText, runEq, ← List.append_assoc, List.getLast?_concat] at free
    rw [runEq, List.append_assoc] at wordEq
    have inWord : gap ∈ word := by
      rw [wordEq]
      exact List.mem_append_right _ List.mem_cons_self
    have blank : gap = ' ' := eq_blank_of_mem spelled inWord free
    rw [blank] at wordEq
    exact .closed form english front tail member wordEq tailNe touching

theorem fate (tables : vocabulary.Bilingual)
    (marks : vocabulary.Marks .wholeWords none (Gloss.ofText text) marked) (spelled : isForm word = true)
    (textEq : text = before ++ word ++ after) : Fate marked before word after := by
  have blocks : marked.flatMap Piece.source = before ++ word ++ after := by
    rw [← textEq, ← Gloss.source_ofText text]
    exact marks.source_eq
  rcases Blocks.cover blocks (ne_nil_of_isSpelled spelled) with
    ⟨left, item, right, lead, trail, markedEq, blockEq, _, _⟩ |
    ⟨left, first, middle, last, right, lead, head, tail, trail, markedEq, firstEq, headNe, lastEq, tailNe,
      wordEq, beforeEq, afterEq⟩
  · cases item with
    | kept char =>
        have inside : word <:+: [char] := ⟨lead, trail, blockEq.symm⟩
        refine .kept (inside.trans ⟨Gloss.written left, Gloss.written right, ?_⟩)
        rw [markedEq, Gloss.written_append, Gloss.written_cons, Piece.written, List.append_assoc]
    | replaced form english =>
        refine .swallowed form english ?_ ⟨lead, trail, blockEq.symm⟩
        rw [markedEq]
        exact List.mem_append_cons_self
  · cases first with
    | replaced form english =>
        refine fate_of_opened tables marks spelled markedEq firstEq headNe ?_ wordEq beforeEq ?_
        · exact fun empty => tailNe (List.append_eq_nil_iff.mp empty).2
        · rw [Gloss.source_append, Gloss.source_cons, lastEq, afterEq]
          simp only [List.append_assoc]
          rfl
    | kept char =>
        have headEq : head = [char] := by
          have split : lead ++ head = [char] := firstEq.symm
          rcases List.append_eq_singleton_iff.mp split with both | impossible
          · exact both.2
          · exact absurd impossible.2 headNe
        rcases Gloss.exists_run middle with ⟨run, rfl⟩ | ⟨run, form, english, others, rfl⟩
        · have split : word = char :: run ++ tail := by
            rw [wordEq, headEq]
            exact congrArg (fun between => [char] ++ (between ++ tail)) (Gloss.source_ofText run)
          cases last with
          | kept other =>
              have tailEq : tail = [other] := by
                have split : tail ++ trail = [other] := lastEq.symm
                rcases List.append_eq_singleton_iff.mp split with impossible | both
                · exact absurd impossible.1 tailNe
                · exact both.1
              refine .kept ⟨Gloss.written left, Gloss.written right, ?_⟩
              rw [markedEq, split, tailEq, Gloss.written_append, Gloss.written_cons, Gloss.written_append,
                Gloss.written_ofText, Gloss.written_cons]
              simp only [List.append_assoc, Piece.written, List.cons_append, List.nil_append]
          | replaced form english =>
              have place : marked = (left ++ Gloss.ofText (char :: run)) ++ .replaced form english :: right := by
                rw [markedEq, List.append_assoc]
                rfl
              exact fate_of_closed tables marks spelled place (List.cons_ne_nil _ _) tailNe split
                (Or.inr ⟨trail, lastEq.symm⟩)
        · have place : marked =
              (left ++ Gloss.ofText (char :: run)) ++ .replaced form english :: (others ++ last :: right) := by
            rw [markedEq]
            simp only [List.append_assoc, List.cons_append, Gloss.ofText_cons]
          have split : word = char :: run ++ (form ++ (Gloss.source others ++ tail)) := by
            have middleEq : (Gloss.ofText run ++ Piece.replaced form english :: others).flatMap Piece.source =
                run ++ (form ++ Gloss.source others) := by
              refine (Gloss.source_append (Gloss.ofText run) (.replaced form english :: others)).trans ?_
              rw [Gloss.source_ofText, Gloss.source_cons, Piece.source]
            rw [wordEq, headEq, middleEq]
            simp only [List.append_assoc, List.cons_append, List.nil_append]
          refine fate_of_closed tables marks spelled place (List.cons_ne_nil _ _) ?_ split
            (Or.inl (List.prefix_append _ _))
          exact fun empty => tailNe (List.append_eq_nil_iff.mp (List.append_eq_nil_iff.mp empty).2).2

end Fate

end Vocabulary
end FeedDesk
