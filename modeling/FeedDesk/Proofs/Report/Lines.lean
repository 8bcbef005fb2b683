import FeedDesk.Proofs.Report.Translation

namespace FeedDesk
namespace Report

/-!
# Lines that are added to a report

The passes over a finished report see one text, in which data, labels and line
breaks stand side by side.  A line break is never part of a label or of the
unit, and next to it both begin and end as they do at the ends of the text.  So
each line is translated as if it were the whole text, whatever its cells hold,
and a report grows only at its end.
-/

/-- A part of a report in the words in which it is shown. -/
def shown (language : Language) (text : Text) : Text :=
  match language with
  | .english => text
  | .arabic => translate text

/-- What each row by itself gives under its number, counted from the given one. -/
def shownLines (language : Language) (number : Nat) (rows : List Row) : List Text :=
  rows.mapIdx fun index row => shown language (line language (number + index) row)

/-- The lines, each behind a line break. -/
def onNewLines (lines : List Text) : Text :=
  lines.flatMap ('\n' :: ·)

theorem onNewLines_cons (line : Text) (lines : List Text) :
    onNewLines (line :: lines) = '\n' :: (line ++ onNewLines lines) :=
  List.flatMap_cons

theorem onNewLines_append (lines more : List Text) :
    onNewLines (lines ++ more) = onNewLines lines ++ onNewLines more :=
  List.flatMap_append

/-! ## Line breaks -/

theorem translate_append_break (left right : Text) :
    translate (left ++ '\n' :: right) = translate left ++ '\n' :: translate right := by
  have closes : Closes ('\n' :: right) := closes_of_mem_closingChars (by decide) right
  have whole : translateFrom none (left ++ '\n' :: right) =
      translateFrom none left ++ translateFrom (lastOf none left) ('\n' :: right) :=
    translateFrom_stretch rfl closes
  have behind : translateFrom (some '\n') (right ++ []) = translateFrom none right ++ [] :=
    translateFrom_stretch (by decide +kernel) closes_nil
  rw [List.append_nil, List.append_nil] at behind
  rw [translateFrom_plain rfl, behind] at whole
  exact whole

theorem shown_append_break (language : Language) (left right : Text) :
    shown language (left ++ '\n' :: right) = shown language left ++ '\n' :: shown language right := by
  cases language with
  | english => rfl
  | arabic => exact translate_append_break left right

/-- Every line is shown by itself. -/
theorem shown_append_onNewLines (language : Language) (front : Text) (lines : List Text) :
    shown language (front ++ onNewLines lines) =
      shown language front ++ onNewLines (lines.map (shown language)) := by
  induction lines generalizing front with
  | nil => exact (congrArg (shown language) (List.append_nil front)).trans (List.append_nil _).symm
  | cons line lines inductionHypothesis =>
      rw [List.map_cons, onNewLines_cons, onNewLines_cons, shown_append_break, inductionHypothesis]

/-! ## Numbered lines -/

theorem map_shown_numbered (language : Language) (number : Nat) (rows : List Row) :
    (numbered language number rows).map (shown language) = shownLines language number rows := by
  induction rows generalizing number with
  | nil => rfl
  | cons row rows inductionHypothesis =>
      rw [numbered, List.map_cons, inductionHypothesis, shownLines, shownLines, List.mapIdx_cons]
      have next : ∀ index, number + 1 + index = number + (index + 1) := fun index => by omega
      simp only [next, Nat.add_zero]

theorem shownLines_append (language : Language) (number : Nat) (rows more : List Row) :
    shownLines language number (rows ++ more) =
      shownLines language number rows ++ shownLines language (number + rows.length) more := by
  have behind : ∀ index, number + (index + rows.length) = number + rows.length + index := fun index => by omega
  simp only [shownLines, List.mapIdx_append, behind]

/-- A report is its heading, an empty line, and the lines of its rows, each of
them shown by itself. -/
theorem render_eq_lines (row : Row) (rows : List Row) (title : Text) (language : Language) :
    render (row :: rows) title language =
      shown language (heading title language ++ ":") ++
        onNewLines ([] :: shownLines language 1 (row :: rows)) := by
  have rendered : render (row :: rows) title language = shown language (draft (row :: rows) title language) := by
    cases language <;> exact if_neg Bool.false_ne_true
  have drafted : draft (row :: rows) title language =
      (heading title language ++ ":") ++ onNewLines ([] :: numbered language 1 (row :: rows)) :=
    Text.joined_cons _ _ _
  have empty : shown language [] = [] := by cases language <;> rfl
  rw [rendered, drafted, shown_append_onNewLines, List.map_cons, empty, map_shown_numbered]

/-- Rows that are added to a report leave its text as it is and add their own
lines behind it. -/
theorem render_append (row : Row) (rows more : List Row) (title : Text) (language : Language) :
    render (row :: rows ++ more) title language =
      render (row :: rows) title language ++
        onNewLines (shownLines language ((row :: rows).length + 1) more) := by
  rw [List.cons_append, render_eq_lines, render_eq_lines, ← List.cons_append, shownLines_append,
    ← List.cons_append, onNewLines_append, List.append_assoc, Nat.add_comm 1]

end Report
end FeedDesk
