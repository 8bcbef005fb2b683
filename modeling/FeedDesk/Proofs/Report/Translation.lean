import FeedDesk.Proofs.Report.Layout
import FeedDesk.Report.Basic

namespace FeedDesk
namespace Report

/-!
# What the Arabic report does to data

The Arabic report should be the report that is put together from Arabic parts:
heading, labels, unit, regions and categories in Arabic, and all other values as
they are.  It is that report exactly if no stretch of data carries a label or
the unit.  The stretches are the heading with its colon, the names that begin a
line, and the value in each of the other fragments.
-/

/-! ## The report in given words -/

section Worded

variable (labels : Label → Text) (unit : Text)

/-- A fragment with its regions and categories in Arabic. -/
def wordedFragment (fragment : Fragment) : Text :=
  fragment.text labels unit (localRegion .arabic) (localCategory .arabic)

def wordedLine (number : Nat) (row : Row) : Text :=
  Text.ofNat number ++ ". " ++ Text.joined " " ((fragments row).map (wordedFragment labels unit))

def wordedLines : (number : Nat) → List Row → List Text
  | _, [] => []
  | number, row :: rows => wordedLine labels unit number row :: wordedLines (number + 1) rows

def worded (rows : List Row) (title : Text) : Text :=
  Text.joined "\n" ((heading title .arabic ++ ":") :: [] :: wordedLines labels unit 1 rows)

end Worded

/-- The report that is put together from Arabic parts. -/
def assembled (rows : List Row) (title : Text) : Text :=
  worded Label.arabic arabicUnit rows title

theorem draft_eq_worded (rows : List Row) (title : Text) :
    draft rows title .arabic = worded Label.english englishUnit rows title := by
  have lines : ∀ number rows,
      numbered .arabic number rows = wordedLines Label.english englishUnit number rows := by
    intro number rows
    induction rows generalizing number with
    | nil => rfl
    | cons row rows inductionHypothesis =>
        rw [numbered, wordedLines, inductionHypothesis]
        rfl
  rw [draft, worded, lines]

/-! ## The stretches of data -/

/-- The data of a fragment, unless it is one of the names that begin a line. -/
def Fragment.data? (regions categories : Text → Text) : Fragment → Option Text
  | verbatim _ => none
  | region name => some (regions name)
  | cost currency amount => some (currency ++ " " ++ amount.priceText)
  | category name => some (categories name)
  | labelled _ value => some value

/-- The names that begin a line. -/
def names (row : Row) : List Text :=
  (["month", "supplier", "product_name"] : List Text).filterMap (text? row)

/-- The stretches of a line: its names together, and then value by value. -/
def rowStretches (row : Row) : List Text :=
  Text.joined " " (names row) ::
    (fragments row).filterMap (Fragment.data? (localRegion .arabic) (localCategory .arabic))

def stretches (rows : List Row) (title : Text) : List Text :=
  (heading title .arabic ++ ":") :: rows.flatMap rowStretches

/-- The fragment is one that begins a line with a name. -/
def Fragment.IsName (fragment : Fragment) : Prop :=
  ∃ name, fragment = verbatim name

/-- Behind the names of a line no further names stand. -/
theorem exists_fragments_eq (row : Row) :
    ∃ others, fragments row = (names row).map Fragment.verbatim ++ others ∧
      ∀ fragment ∈ others, ¬ fragment.IsName := by
  let verbatim (column : Text) := (text? row column).map Fragment.verbatim
  obtain ⟨parts, split, made⟩ : ∃ parts : List (Option Fragment),
      fragments row =
        List.filterMap id ([verbatim "month", verbatim "supplier", verbatim "product_name"] ++ parts) ∧
      ∀ part ∈ parts, ∀ fragment ∈ part, ¬ fragment.IsName := by
    have made : ∀ {α : Type} {make : α → Fragment}, (∀ value, ¬ (make value).IsName) →
        ∀ value : Option α, ∀ fragment ∈ value.map make, ¬ fragment.IsName := by
      intro α make other value fragment same
      obtain ⟨given, _, rfl⟩ := Option.map_eq_some_iff.mp same
      exact other given
    -- The other parts are read off the definition, one for each remaining column.
    refine ⟨_, rfl, ?_⟩
    simp only [List.forall_mem_cons]
    refine ⟨?_, ?_, ?_, ?_, ?_, ?_, ?_, ?_, ?_, ?_, ?_, fun _ impossible => nomatch impossible⟩ <;>
      exact made (fun _ ⟨_, same⟩ => nomatch same) _
  refine ⟨parts.filterMap id, ?_, ?_⟩
  · rw [split, List.filterMap_append, names, List.map_filterMap]
    rfl
  · intro fragment listed
    obtain ⟨part, member, same⟩ := List.mem_filterMap.mp listed
    exact made part member fragment same

/-! ## What ends a line -/

/-- The text may follow a stretch, and is laid out. -/
structure Ending (english arabic : Text) (stretches : List Text) : Prop where
  closes : Closes english
  layout : ∀ before, Layout before english arabic stretches

section Lines

variable {english arabic : Text} {rest : List Text}

theorem Layout.plainText {before : Option Char} {text : Text} (plain : text.all isPlain = true)
    (layout : Layout (lastOf before text) english arabic rest) :
    Layout before (text ++ english) (text ++ arabic) rest := by
  induction text generalizing before with
  | nil => exact layout
  | cons char text inductionHypothesis =>
      rw [List.all_cons, Bool.and_eq_true] at plain
      exact Layout.plain plain.1 (inductionHypothesis plain.2 layout)

namespace Ending

theorem nil : Ending [] [] [] where
  closes := closes_nil
  layout := Layout.done

variable (ending : Ending english arabic rest)

include ending

theorem cons (char : Char) (closing : char ∈ closingChars) (plain : isPlain char = true) :
    Ending (char :: english) (char :: arabic) rest where
  closes := closes_of_mem_closingChars closing english
  layout _ := Layout.plain plain (ending.layout _)

theorem unit : Ending (englishUnit ++ english) (arabicUnit ++ arabic) rest where
  closes := closes_of_mem_closingChars (by decide) _
  layout _ := Layout.unit ending.closes.noWord (ending.layout _)

theorem stretch {last : Char} (free : Text.isWordChar last = false) (stretch : Text) :
    Layout (some last) (stretch ++ english) (stretch ++ arabic) (stretch :: rest) :=
  Layout.stretch stretch free ending.closes (ending.layout _)

theorem bracketed {left right : Char} (opens : left ∈ openingChars) (closing : right ∈ closingChars)
    (plain : [left, right].all isPlain = true) (other : left ∉ innerInitials) (name : Text) :
    Ending (' ' :: left :: (name ++ right :: english)) (' ' :: left :: (name ++ right :: arabic))
      (name :: rest) where
  closes := closes_blank other _
  layout _ := by
    have plainLeft := List.all_eq_true.mp plain left List.mem_cons_self
    have plainRight := List.all_eq_true.mp plain right (List.mem_cons_of_mem left List.mem_cons_self)
    exact Layout.plain rfl (Layout.plain plainLeft
      ((ending.cons right closing plainRight).stretch (isWordChar_of_mem_openingChars opens) name))

theorem priced (price : Text) :
    Ending (' ' :: '-' :: ' ' :: (price ++ (englishUnit ++ english)))
      (' ' :: '-' :: ' ' :: (price ++ (arabicUnit ++ arabic))) (price :: rest) where
  closes := closes_blank (by decide) _
  layout _ := Layout.plain rfl (Layout.plain rfl (Layout.plain rfl
    (ending.unit.stretch (isWordChar_of_mem_openingChars (by decide)) price)))

theorem labelled (label : Label) (value : Text) :
    Ending (' ' :: (label.mark ++ ' ' :: (value ++ english)))
      (' ' :: ((label.arabic ++ [':']) ++ ' ' :: (value ++ arabic))) (value :: rest) where
  closes := by
    obtain ⟨first, others, begins, _, upper⟩ := label.exists_mark_eq
    have lower : (innerInitials.all fun char => !Text.isAsciiUpper char) = true := by decide
    have other : first ∉ innerInitials := by
      intro small
      rw [(Bool.not_eq_true' _).mp (List.all_eq_true.mp lower first small)] at upper
      cases upper
    rw [begins]
    exact closes_blank other _
  layout _ := by
    have free : Text.isWordChar ' ' = false := isWordChar_of_mem_openingChars (by decide)
    exact Layout.plain rfl (Layout.label label free (Layout.plain rfl (ending.stretch free value)))

/-- A fragment behind its blank. -/
theorem fragment {regions categories : Text → Text} {fragment : Fragment} (other : ¬ fragment.IsName) :
    Ending (' ' :: fragment.text Label.english englishUnit regions categories ++ english)
      (' ' :: fragment.text Label.arabic arabicUnit regions categories ++ arabic)
      ((fragment.data? regions categories).toList ++ rest) := by
  cases fragment with
  | verbatim text => exact absurd ⟨text, rfl⟩ other
  | region name =>
      have region : Ending (' ' :: '(' :: (regions name ++ ')' :: english)) _ _ :=
        ending.bracketed (by decide) (by decide) rfl (by decide) (regions name)
      simpa [Fragment.text, Fragment.data?] using region
  | cost currency amount =>
      have cost := ending.priced (currency ++ " " ++ amount.priceText)
      simpa [Fragment.text, Fragment.data?] using cost
  | category name =>
      have category : Ending (' ' :: '[' :: (categories name ++ ']' :: english)) _ _ :=
        ending.bracketed (by decide) (by decide) rfl (by decide) (categories name)
      simpa [Fragment.text, Fragment.data?] using category
  | labelled label value =>
      have labelled := ending.labelled label value
      simpa [Fragment.text, Fragment.data?, Label.mark] using labelled

/-- All fragments of a line but its names. -/
theorem others {fragments : List Fragment} (other : ∀ fragment ∈ fragments, ¬ fragment.IsName) :
    Ending
      ((fragments.flatMap fun fragment => ' ' :: wordedFragment Label.english englishUnit fragment) ++ english)
      ((fragments.flatMap fun fragment => ' ' :: wordedFragment Label.arabic arabicUnit fragment) ++ arabic)
      (fragments.filterMap (Fragment.data? (localRegion .arabic) (localCategory .arabic)) ++ rest) := by
  induction fragments with
  | nil => exact ending
  | cons fragment fragments inductionHypothesis =>
      have further := inductionHypothesis fun next listed => other next (List.mem_cons_of_mem fragment listed)
      have data : ∀ data? : Fragment → Option Text, (fragment :: fragments).filterMap data? =
          (data? fragment).toList ++ fragments.filterMap data? := by
        intro data?
        rw [List.filterMap_cons]
        cases data? fragment <;> rfl
      rw [List.flatMap_cons, List.flatMap_cons, data, List.append_assoc, List.append_assoc, List.append_assoc]
      exact further.fragment (other fragment List.mem_cons_self)

end Ending

theorem isPlain_of_mem_ofNat {number : Nat} {char : Char} (member : char ∈ Text.ofNat number) :
    isPlain char = true := by
  have digit := Nat.isDigit_of_mem_toDigits (by decide) (by decide) member
  have fromZero : '0' ≤ char := of_decide_eq_true (Bool.and_eq_true_iff.mp digit).1
  have upToNine : char ≤ '9' := of_decide_eq_true (Bool.and_eq_true_iff.mp digit).2
  have notUpper : Text.isAsciiUpper char = false := by
    refine Bool.eq_false_iff.mpr fun upper => ?_
    have fromA : 'A' ≤ char := of_decide_eq_true (Bool.and_eq_true_iff.mp upper).1
    exact absurd (Char.le_trans fromA upToNine) (by decide)
  have notSlash : char ≠ '/' := by
    rintro rfl
    exact absurd fromZero (by decide)
  rw [isPlain, notUpper]
  exact bne_iff_ne.mpr notSlash

/-- A line is its number, the names and the other fragments, each behind its
blank.  Where there are no names, the blank behind the number is that of the
first other fragment. -/
theorem exists_opening (number : Nat) (listed : List Text) (others : List Fragment) :
    ∃ opening last, (opening ++ [last]).all isPlain = true ∧ last ∈ openingChars ∧
      ∀ labels unit,
        Text.ofNat number ++ ". " ++ Text.joined " " (listed ++ others.map (wordedFragment labels unit)) =
          opening ++ [last] ++ (Text.joined " " listed ++
            others.flatMap fun other => ' ' :: wordedFragment labels unit other) := by
  have plain : ∀ {mark : Text}, mark.all isPlain = true → (Text.ofNat number ++ mark).all isPlain = true := by
    intro mark plain
    rw [List.all_append, plain, Bool.and_true]
    exact List.all_eq_true.mpr fun char => isPlain_of_mem_ofNat
  cases listed with
  | cons name listed =>
      refine ⟨Text.ofNat number ++ ['.'], ' ', ?_, by decide, fun labels unit => ?_⟩
      · rw [List.append_assoc]
        exact plain (by decide)
      · simp [Text.joined_cons, List.flatMap_map]
  | nil =>
      cases others with
      | nil =>
          refine ⟨Text.ofNat number ++ ['.'], ' ', ?_, by decide, fun labels unit => ?_⟩
          · rw [List.append_assoc]
            exact plain (by decide)
          · simp
      | cons other others =>
          refine ⟨Text.ofNat number, '.', plain (by decide), by decide, fun labels unit => ?_⟩
          simp [Text.joined, Text.joined_cons, List.flatMap_map]

theorem Ending.line (ending : Ending english arabic rest) (number : Nat) (row : Row) :
    Ending ('\n' :: wordedLine Label.english englishUnit number row ++ english)
      ('\n' :: wordedLine Label.arabic arabicUnit number row ++ arabic) (rowStretches row ++ rest) := by
  obtain ⟨others, split, other⟩ := exists_fragments_eq row
  obtain ⟨opening, last, plain, opens, opened⟩ := exists_opening number (names row) others
  have worded : ∀ labels unit text, wordedLine labels unit number row ++ text =
      opening ++ [last] ++ (Text.joined " " (names row) ++
        ((others.flatMap fun other => ' ' :: wordedFragment labels unit other) ++ text)) := by
    intro labels unit text
    have verbatim : (names row).map (wordedFragment labels unit ∘ Fragment.verbatim) = names row :=
      List.map_id _
    rw [wordedLine, split, List.map_append, List.map_map, verbatim, opened,
      List.append_assoc (opening ++ [last]), List.append_assoc (Text.joined _ _)]
  have data : rowStretches row = Text.joined " " (names row) ::
      others.filterMap (Fragment.data? (localRegion .arabic) (localCategory .arabic)) := by
    rw [rowStretches, split, List.filterMap_append, List.filterMap_map]
    exact congrArg (_ :: · ++ _) (List.filterMap_eq_nil_iff.mpr fun _ _ => rfl)
  have free := isWordChar_of_mem_openingChars opens
  rw [List.cons_append, List.cons_append, worded, worded, data]
  refine ⟨closes_of_mem_closingChars (by decide) _, fun before => Layout.plain rfl ?_⟩
  refine Layout.plainText plain ?_
  rw [lastOf_append]
  exact (ending.others other).stretch free _

theorem Ending.lines (number : Nat) (rows : List Row) :
    Ending ((wordedLines Label.english englishUnit number rows).flatMap ("\n" ++ ·))
      ((wordedLines Label.arabic arabicUnit number rows).flatMap ("\n" ++ ·)) (rows.flatMap rowStretches) := by
  induction rows generalizing number with
  | nil => exact Ending.nil
  | cons row rows inductionHypothesis => exact (inductionHypothesis (number + 1)).line number row

end Lines

/-! ## The whole report -/

theorem worded_eq (labels : Label → Text) (unit : Text) (rows : List Row) (title : Text) :
    worded labels unit rows title =
      (heading title .arabic ++ ":") ++ '\n' :: (wordedLines labels unit 1 rows).flatMap ("\n" ++ ·) := by
  rw [worded, Text.joined_cons]
  rfl

theorem layout_worded (rows : List Row) (title : Text) :
    Layout none (worded Label.english englishUnit rows title) (assembled rows title)
      (stretches rows title) := by
  have lines := (Ending.lines 1 rows).cons '\n' (by decide) rfl
  rw [assembled, worded_eq, worded_eq]
  exact Layout.stretch _ rfl lines.closes (lines.layout _)

/-- The Arabic report of a table with rows is put together from Arabic parts
exactly if no stretch of data carries a label or the unit. -/
theorem render_arabic_eq_assembled_iff (row : Row) (rows : List Row) (title : Text) :
    render (row :: rows) title .arabic = assembled (row :: rows) title ↔
      ∀ stretch ∈ stretches (row :: rows) title, ¬ Carries stretch := by
  have rendered : render (row :: rows) title .arabic =
      translateFrom none (worded Label.english englishUnit (row :: rows) title) := by
    rw [← draft_eq_worded, render]
    exact if_neg Bool.false_ne_true
  rw [rendered]
  exact (layout_worded (row :: rows) title).settles.eq_iff

/-- A supplier whose name holds a label before a colon is renamed. -/
theorem render_arabic_supplier_max :
    let rows : List Row := [[("supplier", .string "Max: Feeds")]]
    render rows "Suppliers" .arabic = "الموردين:\n\n1. الحد الأقصى: Feeds" ∧
      assembled rows "Suppliers" = "الموردين:\n\n1. Max: Feeds" ∧
      render rows "Suppliers" .arabic ≠ assembled rows "Suppliers" := by
  decide +kernel

end Report
end FeedDesk
