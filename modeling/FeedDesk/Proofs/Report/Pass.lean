import FeedDesk.Proofs.Text.Cutting
import FeedDesk.Report.Label

namespace FeedDesk
namespace Report

/-!
# Passes that replace marks

Both passes over a finished report read it from the left, write something else
for each mark that they find, and go on behind it.  What counts as a mark may
depend on the character before it and on the text that follows.  Three facts are
wanted of both: a text without marks stays as it is, a text with a mark loses
basic letters, and a text may be divided where no mark crosses the joint.
-/

/-- The last character of the text, or the one before it. -/
def lastOf (before : Option Char) (text : Text) : Option Char :=
  text.foldl (fun _ char => some char) before

theorem lastOf_append (before : Option Char) (left right : Text) :
    lastOf before (left ++ right) = lastOf (lastOf before left) right :=
  List.foldl_append

theorem lastOf_eq (before : Option Char) (text : Text) : lastOf before text = text.getLast?.or before := by
  induction text generalizing before with
  | nil => rfl
  | cons char text inductionHypothesis =>
      change lastOf (some char) text = _
      rw [inductionHypothesis, List.getLast?_cons]
      cases text.getLast? <;> rfl

theorem lastOf_none (text : Text) : lastOf none text = text.getLast? := by
  rw [lastOf_eq, Option.or_none]

/-- The number of basic letters. -/
def letters (text : Text) : Nat :=
  text.countP Text.isAsciiLetter

theorem letters_append (left right : Text) : letters (left ++ right) = letters left + letters right :=
  List.countP_append

/-- A pass with the places where it replaces.  A mark holds a basic letter, and
what is written for it holds none. -/
structure Pass where
  run : Option Char → Text → Text
  /-- The mark at the beginning of the text and what is written for it. -/
  spot? : Option Char → Text → Option (Text × Text)
  run_nil : ∀ before, run before [] = []
  run_char : ∀ {before char text}, spot? before (char :: text) = none →
    run before (char :: text) = char :: run (some char) text
  run_spot : ∀ {before text mark written}, spot? before text = some (mark, written) →
    ∃ rest, text = mark ++ rest ∧ run before text = written ++ run (lastOf before mark) rest
  letters_mark : ∀ {before text mark written}, spot? before text = some (mark, written) →
    letters written < letters mark

namespace Pass

variable (pass : Pass)

/-- Somewhere in the text a mark stands. -/
def Marks (before : Option Char) (text : Text) : Prop :=
  ∃ front back, text = front ++ back ∧ (pass.spot? (lastOf before front) back).isSome

variable {pass}

theorem length_rest_lt {before : Option Char} {text mark written rest : Text}
    (found : pass.spot? before text = some (mark, written)) (split : text = mark ++ rest) :
    rest.length < text.length := by
  have some := pass.letters_mark found
  have nonempty : mark ≠ [] := by
    rintro rfl
    exact absurd some (Nat.not_lt_zero _)
  have positive := List.length_pos_iff.mpr nonempty
  rw [split, List.length_append]
  omega

/-- The text is read mark by mark and, where no mark stands, character by
character. -/
theorem induction {motive : Option Char → Text → Prop} (nil : ∀ before, motive before [])
    (char : ∀ before char text, pass.spot? before (char :: text) = none → motive (some char) text →
      motive before (char :: text))
    (spot : ∀ before mark written rest, pass.spot? before (mark ++ rest) = some (mark, written) →
      motive (lastOf before mark) rest → motive before (mark ++ rest))
    (before : Option Char) (text : Text) : motive before text := by
  -- A mark is passed over as a whole, so the induction is on the length of the text.
  generalize size : text.length = length
  induction length using Nat.strongRecOn generalizing before text with
  | ind length inductionHypothesis =>
      cases found : pass.spot? before text with
      | some spotted =>
          obtain ⟨rest, rfl, _⟩ := pass.run_spot found
          have shorter := length_rest_lt found rfl
          exact spot before _ _ rest found
            (inductionHypothesis rest.length (size ▸ shorter) (lastOf before _) rest rfl)
      | none =>
          cases text with
          | nil => exact nil before
          | cons first text =>
              refine char before first text found
                (inductionHypothesis text.length ?_ (some first) text rfl)
              rw [← size]
              exact Nat.lt_succ_self _

theorem run_of_spot {before : Option Char} {mark written rest : Text}
    (found : pass.spot? before (mark ++ rest) = some (mark, written)) :
    pass.run before (mark ++ rest) = written ++ pass.run (lastOf before mark) rest := by
  obtain ⟨other, split, same⟩ := pass.run_spot found
  rw [List.append_cancel_left split, ← List.append_cancel_left split] at same
  exact same

theorem run_eq_self {before : Option Char} {text : Text} (free : ¬ pass.Marks before text) :
    pass.run before text = text := by
  induction before, text using pass.induction with
  | nil before => exact pass.run_nil before
  | char before char text none inductionHypothesis =>
      rw [pass.run_char none, inductionHypothesis]
      rintro ⟨front, back, rfl, marked⟩
      exact free ⟨char :: front, back, rfl, marked⟩
  | spot before mark written rest found _ =>
      exact absurd ⟨[], mark ++ rest, rfl, by rw [lastOf, List.foldl_nil, found]; rfl⟩ free

theorem letters_run_le (before : Option Char) (text : Text) :
    letters (pass.run before text) ≤ letters text := by
  induction before, text using pass.induction with
  | nil before => exact Nat.le_of_eq (congrArg letters (pass.run_nil before))
  | char before char text none inductionHypothesis =>
      rw [pass.run_char none, letters, letters, List.countP_cons, List.countP_cons]
      exact Nat.add_le_add_right inductionHypothesis _
  | spot before mark written rest found inductionHypothesis =>
      have fewer := pass.letters_mark found
      rw [run_of_spot found, letters_append, letters_append]
      omega

theorem letters_run_lt {before : Option Char} {text : Text} (marked : pass.Marks before text) :
    letters (pass.run before text) < letters text := by
  induction before, text using pass.induction with
  | nil before =>
      obtain ⟨front, back, empty, marked⟩ := marked
      obtain ⟨rfl, rfl⟩ := List.append_eq_nil_iff.mp empty.symm
      obtain ⟨⟨mark, written⟩, found⟩ := Option.isSome_iff_exists.mp marked
      have some := pass.letters_mark found
      obtain ⟨rest, split, _⟩ := pass.run_spot found
      rw [(List.append_eq_nil_iff.mp split.symm).1] at some
      exact absurd some (Nat.not_lt_zero _)
  | char before char text none inductionHypothesis =>
      obtain ⟨front, back, split, marked⟩ := marked
      cases front with
      | nil =>
          rw [List.nil_append] at split
          rw [← split, lastOf, List.foldl_nil, none] at marked
          cases marked
      | cons first front =>
          obtain ⟨rfl, rfl⟩ := List.cons.inj split
          rw [pass.run_char none, letters, letters, List.countP_cons, List.countP_cons]
          exact Nat.add_lt_add_right (inductionHypothesis ⟨front, back, rfl, marked⟩) _
  | spot before mark written rest found _ =>
      have fewer := pass.letters_mark found
      have behind := pass.letters_run_le (lastOf before mark) rest
      rw [run_of_spot found, letters_append, letters_append]
      omega

/-- No mark that begins on the left crosses the joint or looks across it. -/
def Joint (pass : Pass) (before : Option Char) (left right : Text) : Prop :=
  ∀ front back, left = front ++ back → back ≠ [] →
    pass.spot? (lastOf before front) (back ++ right) = pass.spot? (lastOf before front) back

theorem run_append {before : Option Char} {left right : Text} (joint : pass.Joint before left right) :
    pass.run before (left ++ right) = pass.run before left ++ pass.run (lastOf before left) right := by
  induction before, left using pass.induction with
  | nil before =>
      rw [pass.run_nil]
      rfl
  | char before char left none inductionHypothesis =>
      have same : pass.spot? before (char :: (left ++ right)) = Option.none :=
        (joint [] (char :: left) rfl (List.cons_ne_nil _ _)).trans none
      rw [List.cons_append, pass.run_char same, pass.run_char none, inductionHypothesis]
      · rfl
      · rintro front back rfl nonempty
        exact joint (char :: front) back rfl nonempty
  | spot before mark written rest found inductionHypothesis =>
      have nonempty : mark ++ rest ≠ [] := by
        intro empty
        have shorter := length_rest_lt found rfl
        rw [empty] at shorter
        exact absurd shorter (Nat.not_lt_zero _)
      have same : pass.spot? before (mark ++ rest ++ right) = some (mark, written) :=
        (joint [] (mark ++ rest) rfl nonempty).trans found
      rw [List.append_assoc] at same
      rw [List.append_assoc, run_of_spot same, run_of_spot found, inductionHypothesis, List.append_assoc,
        lastOf_append]
      rintro front back rfl nonempty
      have inside := joint (mark ++ front) back (List.append_assoc _ _ _).symm nonempty
      rwa [lastOf_append] at inside

end Pass
end Report
end FeedDesk
