import FeedDesk.Text.Blank

namespace FeedDesk
namespace Text

/-!
# Cutting and trimming put-together texts

A reply is put together from parts, and what is cut out of it is described by
the parts it is cut from.  The lemmas say on which side of a joint the front or
the back of a text ends, that a mark whose first character does not occur in a
part is not found there, that the first occurrence of a mark lies before every
other one, and what trimming leaves of a text with a known first or last
character that is kept.
-/

theorem prefix_append_cases {front left right : Text} (within : front <+: left ++ right) :
    front <+: left ∨ ∃ more, front = left ++ more ∧ more <+: right := by
  rcases List.prefix_or_prefix_of_prefix within (List.prefix_append left right) with short | long
  · exact Or.inl short
  · obtain ⟨more, rfl⟩ := long
    exact Or.inr ⟨more, rfl, (List.prefix_append_right_inj left).mp within⟩

theorem suffix_append_cases {back left right : Text} (within : back <:+ left ++ right) :
    back <:+ right ∨ ∃ more, back = more ++ right ∧ more <:+ left := by
  rcases List.suffix_or_suffix_of_suffix within (List.suffix_append left right) with short | long
  · exact Or.inl short
  · obtain ⟨more, rfl⟩ := long
    exact Or.inr ⟨more, rfl, List.suffix_append_self_iff.mp within⟩

/-- A text whose first character does not occur in the left part is found in
the right part. -/
theorem suffix_of_cons_suffix_append {first : Char} {back left right : Text}
    (within : first :: back <:+ left ++ right) (free : first ∉ left) : first :: back <:+ right := by
  rcases suffix_append_cases within with behind | ⟨more, same, inside⟩
  · exact behind
  · cases more with
    | nil =>
        rw [same]
        exact List.suffix_rfl
    | cons char more =>
        obtain rfl := (List.cons.inj same).1
        exact absurd (inside.subset List.mem_cons_self) free

/-- Where a front of characters of one class meets one of another class, it ends. -/
theorem append_inj_of_all {belongs : Char → Bool} {front back front' back' : Text}
    (all : ∀ char ∈ front, belongs char = true) (all' : ∀ char ∈ front', belongs char = true)
    (ends : back.head?.any belongs = false) (ends' : back'.head?.any belongs = false)
    (same : front ++ back = front' ++ back') : front = front' ∧ back = back' := by
  induction front generalizing front' with
  | nil =>
      cases front' with
      | nil => exact ⟨rfl, same⟩
      | cons char front' =>
          rw [List.nil_append] at same
          rw [same] at ends
          exact absurd (all' char List.mem_cons_self) (Bool.eq_false_iff.mp ends)
  | cons char front inductionHypothesis =>
      cases front' with
      | nil =>
          rw [List.nil_append] at same
          rw [← same] at ends'
          exact absurd (all char List.mem_cons_self) (Bool.eq_false_iff.mp ends')
      | cons char' front' =>
          obtain ⟨rfl, rest⟩ := List.cons.inj same
          obtain ⟨rfl, rfl⟩ := inductionHypothesis (fun other member => all other (List.mem_cons_of_mem char member))
            (fun other member => all' other (List.mem_cons_of_mem char member)) rest
          exact ⟨rfl, rfl⟩

/-! ## Cutting at a mark -/

theorem cut?_cons_of_ne {first char : Char} (mark text : Text) (different : first ≠ char) :
    cut? (first :: mark) (char :: text) =
      (cut? (first :: mark) text).map fun (before, after) => (char :: before, after) := by
  rw [cut?, strip?, if_neg different]

/-- A mark is not found in front where its first character does not occur. -/
theorem cut?_append_of_not_mem {first : Char} {mark front : Text} (text : Text) (free : first ∉ front) :
    cut? (first :: mark) (front ++ text) =
      (cut? (first :: mark) text).map fun (before, after) => (front ++ before, after) := by
  induction front with
  | nil =>
      rw [List.nil_append]
      cases cut? (first :: mark) text with
      | none => rfl
      | some parts => rfl
  | cons char front inductionHypothesis =>
      have different : first ≠ char := fun same => free (same ▸ List.mem_cons_self)
      rw [List.cons_append, cut?_cons_of_ne _ _ different,
        inductionHypothesis fun member => free (List.mem_cons_of_mem char member)]
      cases cut? (first :: mark) text with
      | none => rfl
      | some parts => rfl

theorem cut?_append_self {mark : Text} (nonempty : mark ≠ []) (text : Text) :
    cut? mark (mark ++ text) = some ([], text) := by
  cases mark with
  | nil => exact absurd rfl nonempty
  | cons first mark => rw [List.cons_append, cut?, ← List.cons_append, strip?_eq_some_iff.mpr rfl]

/-- The mark is found at its first occurrence. -/
theorem prefix_of_cut? {mark front back before after : Text}
    (found : cut? mark (front ++ (mark ++ back)) = some (before, after)) : before <+: front := by
  induction front generalizing before with
  | nil =>
      cases mark with
      | nil =>
          cases back with
          | nil => cases found; exact List.prefix_rfl
          | cons char back => cases found; exact List.prefix_rfl
      | cons first mark =>
          rw [List.nil_append, cut?_append_self (List.cons_ne_nil first mark)] at found
          cases found
          exact List.prefix_rfl
  | cons char front inductionHypothesis =>
      rw [List.cons_append, cut?] at found
      split at found
      · cases found
        exact List.nil_prefix
      · obtain ⟨⟨before', after'⟩, deeper, same⟩ := Option.map_eq_some_iff.mp found
        cases same
        exact List.cons_prefix_cons.mpr ⟨rfl, inductionHypothesis deeper⟩

/-! ## Trimming -/

variable {unwanted : Char → Bool}

/-- Only unwanted characters are dropped from the end. -/
theorem exists_trimEndBy_append (unwanted : Char → Bool) (text : Text) :
    ∃ trail, text = text.trimEndBy unwanted ++ trail ∧ ∀ char ∈ trail, unwanted char = true := by
  refine ⟨(text.reverse.takeWhile unwanted).reverse, ?_, fun char member => ?_⟩
  · rw [trimEndBy, ← List.reverse_append, List.takeWhile_append_dropWhile, List.reverse_reverse]
  · exact List.all_eq_true.mp List.all_takeWhile char (List.mem_reverse.mp member)

theorem trimEndBy_prefix (unwanted : Char → Bool) (text : Text) : text.trimEndBy unwanted <+: text := by
  obtain ⟨trail, same, _⟩ := exists_trimEndBy_append unwanted text
  exact ⟨trail, same.symm⟩

theorem trimEndBy_append_cons {front : Text} {char : Char} (back : Text) (wanted : unwanted char = false) :
    (front ++ char :: back).trimEndBy unwanted = front ++ char :: back.trimEndBy unwanted := by
  unfold trimEndBy
  rw [List.reverse_append, List.reverse_cons, List.append_assoc, List.dropWhile_append]
  split
  · rename_i nothing
    rw [List.isEmpty_iff] at nothing
    simp only [List.singleton_append, List.dropWhile_cons, wanted, Bool.false_eq_true, if_false, nothing,
      List.reverse_nil, List.reverse_cons, List.reverse_reverse]
  · simp only [List.reverse_append, List.reverse_reverse, List.reverse_cons, List.append_assoc,
      List.singleton_append]

theorem trimEndBy_eq_nil {text : Text} (all : ∀ char ∈ text, unwanted char = true) :
    text.trimEndBy unwanted = [] := by
  have dropped : (text.reverse ++ []).dropWhile unwanted = [].dropWhile unwanted :=
    List.dropWhile_append_of_pos fun char member => all char (List.mem_reverse.mp member)
  rw [List.append_nil] at dropped
  rw [trimEndBy, dropped]
  rfl

/-- Trimming first drops blanks in front, and what it drops at the end leaves
a front of that. -/
theorem trim_prefix_dropWhile (text : Text) : text.trim <+: text.dropWhile isBlankChar :=
  trimEndBy_prefix isBlankChar (text.dropWhile isBlankChar)

/-- Blanks at both ends are all that trimming drops. -/
theorem exists_append_trim (text : Text) : ∃ lead trail, text = lead ++ (text.trim ++ trail) ∧
    (∀ char ∈ lead, isBlankChar char = true) ∧ ∀ char ∈ trail, isBlankChar char = true := by
  obtain ⟨trail, same, trailBlank⟩ := exists_trimEndBy_append isBlankChar (text.dropWhile isBlankChar)
  refine ⟨text.takeWhile isBlankChar, trail, ?_, ?_, trailBlank⟩
  · calc text = text.takeWhile isBlankChar ++ text.dropWhile isBlankChar :=
          List.takeWhile_append_dropWhile.symm
      _ = text.takeWhile isBlankChar ++ (text.trim ++ trail) := congrArg _ same
  · exact fun char member => List.all_eq_true.mp List.all_takeWhile char member

theorem trim_eq {lead inner trail : Text} {first last : Char}
    (leadBlank : ∀ char ∈ lead, isBlankChar char = true) (firstSolid : isBlankChar first = false)
    (lastSolid : isBlankChar last = false) (trailBlank : ∀ char ∈ trail, isBlankChar char = true) :
    trim (lead ++ first :: (inner ++ last :: trail)) = first :: (inner ++ [last]) := by
  have front : (lead ++ first :: (inner ++ last :: trail)).dropWhile isBlankChar =
      (first :: inner) ++ last :: trail := by
    rw [List.dropWhile_append_of_pos leadBlank, List.dropWhile_cons, firstSolid]
    rfl
  change trimEndBy isBlankChar (List.dropWhile isBlankChar _) = _
  rw [front, trimEndBy_append_cons _ lastSolid, trimEndBy_eq_nil trailBlank, List.cons_append]

/-- Nothing is left of a text exactly if it is blank. -/
theorem isEmpty_trim (text : Text) : text.trim.isEmpty = text.isBlank := by
  induction text with
  | nil => rfl
  | cons char text inductionHypothesis =>
      cases blank : isBlankChar char with
      | true =>
          have dropped : trim (char :: text) = trim text := by
            simp only [trim, trimBy, List.dropWhile_cons, blank, if_true]
          rw [dropped, inductionHypothesis, isBlank, isBlank, List.all_cons, blank, Bool.true_and]
      | false =>
          have stays : trimEndBy isBlankChar ([] ++ char :: text) = char :: trimEndBy isBlankChar text :=
            trimEndBy_append_cons text blank
          rw [List.nil_append] at stays
          have kept : trim (char :: text) = char :: trimEndBy isBlankChar text := by
            rw [← stays]
            simp only [trim, trimBy, trimEndBy, List.dropWhile_cons, blank, Bool.false_eq_true, if_false]
          rw [kept, isBlank, List.all_cons, blank]
          rfl

theorem dropWhile_append_cons {front : Text} {char : Char} (back : Text) (wanted : unwanted char = false) :
    (front ++ char :: back).dropWhile unwanted = front.dropWhile unwanted ++ char :: back := by
  rw [List.dropWhile_append]
  split
  · rename_i nothing
    rw [List.isEmpty_iff] at nothing
    simp only [nothing, List.nil_append, List.dropWhile_cons, wanted, Bool.false_eq_true, if_false]
  · rfl

/-- Dropping in front respects fronts. -/
theorem dropWhile_prefix_dropWhile (unwanted : Char → Bool) {front text : Text} (within : front <+: text) :
    front.dropWhile unwanted <+: text.dropWhile unwanted := by
  obtain ⟨back, rfl⟩ := within
  rw [List.dropWhile_append]
  split
  · rename_i nothing
    rw [List.isEmpty_iff.mp nothing]
    exact List.nil_prefix
  · exact List.prefix_append _ _

/-! ## Joining -/

theorem joined_cons (separator text : Text) (texts : List Text) :
    joined separator (text :: texts) = text ++ texts.flatMap (separator ++ ·) := by
  induction texts generalizing text with
  | nil => exact (List.append_nil text).symm
  | cons next texts inductionHypothesis =>
      rw [joined, inductionHypothesis, List.flatMap_cons, List.append_assoc, List.append_assoc]

theorem not_mem_joined {char : Char} {separator : Text} {texts : List Text} (between : char ∉ separator)
    (each : ∀ text ∈ texts, char ∉ text) : char ∉ joined separator texts := by
  cases texts with
  | nil => exact List.not_mem_nil
  | cons text texts =>
      rw [joined_cons, List.mem_append, not_or]
      refine ⟨each text List.mem_cons_self, fun member => ?_⟩
      obtain ⟨other, listed, inside⟩ := List.mem_flatMap.mp member
      rcases List.mem_append.mp inside with separating | within
      · exact between separating
      · exact each other (List.mem_cons_of_mem text listed) within

end Text
end FeedDesk
