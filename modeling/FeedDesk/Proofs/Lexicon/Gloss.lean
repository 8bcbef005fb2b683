import FeedDesk.Proofs.Blocks
import FeedDesk.Proofs.Lexicon.Spelling

namespace FeedDesk

open FeedDesk.Language

/-!
# Glosses

The passes of the lexicon write a text and forget where its words came from.
A gloss remembers: it is a row of pieces, each of them either a character
that was kept or a form together with the term that replaced it.  Reading the
left side of every piece gives the text that came in, reading the right side
gives the text that went out.

Because terms begin with a Latin letter and hold no Arabic one, a form that
stands in the text that went out was never written by a replacement: its
characters are kept pieces, one beside the other.
-/

namespace Lexicon

inductive Piece
  | kept (char : Char)
  | replaced (form english : Text)
  deriving DecidableEq

namespace Piece

def source : Piece → Text
  | kept char => [char]
  | replaced form _ => form

def written : Piece → Text
  | kept char => [char]
  | replaced _ english => english

def isReplaced : Piece → Bool
  | kept _ => false
  | replaced _ _ => true

end Piece

abbrev Gloss := List Piece

namespace Gloss

/-- The text that the gloss explains. -/
def source (gloss : Gloss) : Text :=
  gloss.flatMap Piece.source

/-- The text with every replacement made. -/
def written (gloss : Gloss) : Text :=
  gloss.flatMap Piece.written

/-- The gloss of a text in which nothing has been replaced. -/
def ofText (text : Text) : Gloss :=
  text.map Piece.kept

@[simp] theorem source_nil : source [] = [] := rfl
@[simp] theorem written_nil : written [] = [] := rfl

@[simp] theorem source_cons (piece : Piece) (gloss : Gloss) :
    source (piece :: gloss) = piece.source ++ source gloss := rfl

@[simp] theorem written_cons (piece : Piece) (gloss : Gloss) :
    written (piece :: gloss) = piece.written ++ written gloss := rfl

@[simp] theorem ofText_cons (char : Char) (text : Text) :
    ofText (char :: text) = Piece.kept char :: ofText text := rfl

@[simp] theorem source_append (left right : Gloss) :
    source (left ++ right) = source left ++ source right :=
  List.flatMap_append

@[simp] theorem written_append (left right : Gloss) :
    written (left ++ right) = written left ++ written right :=
  List.flatMap_append

@[simp] theorem ofText_append (left right : Text) :
    ofText (left ++ right) = ofText left ++ ofText right :=
  List.map_append

@[simp] theorem length_ofText (text : Text) : (ofText text).length = text.length :=
  List.length_map _

@[simp] theorem source_ofText (text : Text) : source (ofText text) = text := by
  induction text with
  | nil => rfl
  | cons char text inductionHypothesis =>
      rw [ofText_cons, source_cons, inductionHypothesis, Piece.source, List.singleton_append]

@[simp] theorem written_ofText (text : Text) : written (ofText text) = text := by
  induction text with
  | nil => rfl
  | cons char text inductionHypothesis =>
      rw [ofText_cons, written_cons, inductionHypothesis, Piece.written, List.singleton_append]

/-- Either everything is kept, or there is a first replacement. -/
theorem exists_run (gloss : Gloss) :
    (∃ run, gloss = ofText run) ∨
      ∃ run form english right, gloss = ofText run ++ .replaced form english :: right := by
  induction gloss with
  | nil => exact Or.inl ⟨[], rfl⟩
  | cons piece gloss inductionHypothesis =>
      cases piece with
      | replaced form english => exact Or.inr ⟨[], form, english, gloss, rfl⟩
      | kept char =>
          rcases inductionHypothesis with ⟨run, rfl⟩ | ⟨run, form, english, right, rfl⟩
          · exact Or.inl ⟨char :: run, rfl⟩
          · exact Or.inr ⟨char :: run, form, english, right, rfl⟩

/-- Only forms are replaced, and only terms are written for them. -/
def Bilingual (gloss : Gloss) : Prop :=
  ∀ form english, Piece.replaced form english ∈ gloss → isForm form = true ∧ isTerm english = true

theorem bilingual_nil : Bilingual [] := by
  intro form english member
  cases member

theorem Bilingual.tail {piece : Piece} {gloss : Gloss} (bilingual : Bilingual (piece :: gloss)) :
    Bilingual gloss :=
  fun form english member => bilingual form english (List.mem_cons_of_mem piece member)

theorem Bilingual.right {left right : Gloss} (bilingual : Bilingual (left ++ right)) :
    Bilingual right :=
  fun form english member => bilingual form english (List.mem_append_right left member)

theorem Bilingual.left {left right : Gloss} (bilingual : Bilingual (left ++ right)) :
    Bilingual left :=
  fun form english member => bilingual form english (List.mem_append_left right member)

theorem bilingual_ofText (text : Text) : Bilingual (ofText text) := by
  intro form english member
  rcases List.mem_map.mp member with ⟨char, _, impossible⟩
  cases impossible

theorem eq_nil_of_source_eq_nil {gloss : Gloss} (bilingual : Bilingual gloss) (empty : source gloss = []) :
    gloss = [] := by
  cases gloss with
  | nil => rfl
  | cons piece gloss =>
      have pieceEmpty := (List.append_eq_nil_iff.mp empty).1
      cases piece with
      | kept char => cases pieceEmpty
      | replaced form english =>
          exact absurd pieceEmpty (ne_nil_of_isSpelled (bilingual form english List.mem_cons_self).1)

theorem eq_nil_of_written_eq_nil {gloss : Gloss} (bilingual : Bilingual gloss)
    (empty : written gloss = []) : gloss = [] := by
  cases gloss with
  | nil => rfl
  | cons piece gloss =>
      have pieceEmpty := (List.append_eq_nil_iff.mp empty).1
      cases piece with
      | kept char => cases pieceEmpty
      | replaced form english =>
          exact absurd pieceEmpty (ne_nil_of_isSpelled (bilingual form english List.mem_cons_self).2)

/-- A run of form characters at the beginning of what is written was kept
character by character: a term begins with a letter that no form has. -/
theorem exists_of_written_eq_append {front rest : Text} {gloss : Gloss} (bilingual : Bilingual gloss)
    (spelled : ∀ char ∈ front, Text.isAsciiLetter char = false)
    (same : written gloss = front ++ rest) :
    ∃ others, gloss = ofText front ++ others ∧ written others = rest := by
  induction front generalizing gloss with
  | nil => exact ⟨gloss, rfl, same⟩
  | cons char front inductionHypothesis =>
      cases gloss with
      | nil => cases same
      | cons piece gloss =>
          cases piece with
          | kept other =>
              have parts := List.cons.inj same
              rcases inductionHypothesis bilingual.tail
                (fun later member => spelled later (List.mem_cons_of_mem char member)) parts.2 with
                ⟨others, split, written⟩
              exact ⟨others, by rw [parts.1, split, ofText_cons, List.cons_append], written⟩
          | replaced form english =>
              rcases exists_cons_of_isSpelled (bilingual form english List.mem_cons_self).2 with
                ⟨first, others, begins, ascii⟩
              rw [written_cons, Piece.written, begins] at same
              rw [(List.cons.inj same).1, spelled char List.mem_cons_self] at ascii
              cases ascii

/-- A form that stands in what is written was kept character by character. -/
theorem exists_of_written_eq {before form after : Text} {gloss : Gloss} (bilingual : Bilingual gloss)
    (spelled : isForm form = true) (same : written gloss = before ++ form ++ after) :
    ∃ left right, gloss = left ++ ofText form ++ right ∧ written left = before ∧
      written right = after := by
  rw [List.append_assoc] at same
  have more : form ++ after ≠ [] :=
    fun empty => ne_nil_of_isSpelled spelled (List.append_eq_nil_iff.mp empty).1
  rcases Blocks.exists_block_after same more with
    ⟨left, piece, rest, lead, trail, split, inside, nonempty, front, remains⟩
  rcases exists_cons_of_isSpelled spelled with ⟨char, others, begins, letter⟩
  have first : ∃ more, trail = char :: more := by
    rcases List.exists_cons_of_ne_nil nonempty with ⟨other, more, rfl⟩
    rw [begins, List.cons_append, List.cons_append] at remains
    exact ⟨more, by rw [(List.cons.inj remains).1]⟩
  rcases first with ⟨more, trailEq⟩
  have pieces : Bilingual (piece :: rest) := Bilingual.right (split ▸ bilingual)
  cases piece with
  | kept other =>
      -- A single character cannot be divided, so the form begins with this piece.
      have empty : lead = [] := by
        have lengths := congrArg List.length inside
        rw [trailEq, List.length_append, List.length_cons] at lengths
        exact List.length_eq_zero_iff.mp (by change 1 = _ at lengths; omega)
      have begun : written (Piece.kept other :: rest) = form ++ after := by
        rw [written_cons, inside, empty, List.nil_append]
        exact remains.symm
      rcases exists_of_written_eq_append pieces
        (fun char member => isAsciiLetter_eq_false_of_mem spelled member) begun with
        ⟨right, restEq, written⟩
      refine ⟨left, right, by rw [split, restEq, List.append_assoc], ?_, written⟩
      rw [front, empty, List.append_nil]
      rfl
  | replaced other english =>
      -- The form would begin inside a term, where there is no Arabic letter.
      have member : char ∈ english := by
        change english = lead ++ trail at inside
        rw [inside, trailEq]
        exact List.mem_append_right _ List.mem_cons_self
      rw [isArabicLetter_eq_false_of_mem (pieces other english List.mem_cons_self).2 member] at letter
      cases letter

end Gloss
end Lexicon

end FeedDesk
