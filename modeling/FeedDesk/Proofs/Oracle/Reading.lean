import FeedDesk.Oracle.Suggestion
import FeedDesk.Proofs.Json.Reading
import FeedDesk.Proofs.Json.TextMembers

namespace FeedDesk
namespace Suggestion

open Json Json.Written

/-!
# Which texts read as a suggestion

A suggestion is an object with a member or an array of texts.  Its text thus
begins with a bracket or a brace and a quotation mark, and behind the text that
is quoted there a comma, a bracket or a colon follows.  Two kinds of text that
look like a suggestion from afar are excluded by this: a text that begins inside
of a quoted text, and a text that brings an object in behind something else.
-/

theorem exists_of_asText {value : Written} {text : Text} (read : asText value = some text) :
    ∃ pieces, value = .string pieces := by
  cases value with
  | string pieces => exact ⟨pieces, rfl⟩
  | null => cases read
  | boolean flag => cases read
  | numeral number => cases read
  | array items => cases read
  | object members => cases read

theorem exists_of_required {slot : Slot} {text : Text} (read : slot.required asText = some text) :
    ∃ pieces, slot = .given (.string pieces) := by
  cases slot with
  | given value =>
      obtain ⟨pieces, rfl⟩ := exists_of_asText read
      exact ⟨pieces, rfl⟩
  | absent => cases read
  | beyond => cases read

/-- The three slots of a suggestion: the first is given and holds the query,
and all that is given is text. -/
theorem exists_slots_of_ofWritten {value : Written} {suggestion : Suggestion}
    (read : ofWritten value = some suggestion) :
    ∃ pieces others, slots? fields value = some (.given (.string pieces) :: others) ∧
      chars? pieces = some suggestion.sql ∧
      ∀ item, .given item ∈ others → ∃ pieces, item = Written.string pieces := by
  obtain ⟨slots, found, read⟩ := Option.bind_eq_some_iff.mp read
  split at read
  · rename_i sql explanation template
    obtain ⟨query, first, read⟩ := Option.bind_eq_some_iff.mp read
    obtain ⟨_, second, read⟩ := Option.bind_eq_some_iff.mp read
    obtain ⟨_, third, same⟩ := Option.bind_eq_some_iff.mp read
    cases same
    obtain ⟨pieces, rfl⟩ := exists_of_required first
    refine ⟨pieces, [explanation, template], found, first, fun item member => ?_⟩
    rcases List.mem_cons.mp member with rfl | member
    · exact exists_of_asText second
    · rw [← List.mem_singleton.mp member] at third
      exact exists_of_asText third
  · cases read

/-- The values that are suggestions. -/
theorem ofWritten_cases {value : Written} {suggestion : Suggestion}
    (read : ofWritten value = some suggestion) :
    (∃ items, value = .array items ∧ items ≠ [] ∧ ∀ item ∈ items, ∃ pieces, item = .string pieces) ∨
      ∃ members, value = .object members ∧ members ≠ [] := by
  obtain ⟨pieces, others, found, _, texts⟩ := exists_slots_of_ofWritten read
  cases value with
  | null => cases found
  | boolean flag => cases found
  | numeral number => cases found
  | string pieces => cases found
  | object members =>
      refine Or.inr ⟨members, rfl, ?_⟩
      rintro rfl
      cases found
  | array items =>
      rw [slots?] at found
      split at found
      · have slots := Option.some.inj found
        refine Or.inl ⟨items, rfl, ?_, fun item member => ?_⟩
        · rintro rfl
          cases slots
        · have given : Slot.given item ∈ Slot.given (.string pieces) :: others := by
            rw [← slots]
            exact List.mem_append_left _ (List.mem_map_of_mem member)
          rcases List.mem_cons.mp given with same | other
          · exact ⟨pieces, Slot.given.inj same⟩
          · exact texts item other
      · cases found

/-- What stands at the front of every suggestion. -/
theorem exists_front_of_ofText? {text : Text} {suggestion : Suggestion}
    (read : ofText? text = some suggestion) :
    ∃ opener after inner name behind next others, skipSpace text = opener :: after ∧
      (opener = '[' ∨ opener = '\x7b') ∧ skipSpace after = '"' :: inner ∧
      pieces? inner = some (name, behind) ∧ skipSpace behind = next :: others ∧
      (next = ',' ∨ next = ']' ∨ next = ':') := by
  obtain ⟨value, written, read⟩ := Option.bind_eq_some_iff.mp read
  obtain ⟨rest, here, _⟩ := exists_value?_of_ofText? written
  rcases ofWritten_cases read with ⟨items, rfl, nonempty, texts⟩ | ⟨members, rfl, nonempty⟩
  · obtain ⟨after, bracket, ⟨_, empty⟩ | list⟩ := exists_of_value?_array here
    · exact absurd empty nonempty
    · cases length : text.length with
      | zero =>
          rw [length, items?] at list
          cases list
      | succ fuel =>
          rw [length] at list
          obtain ⟨item, others, behind, rfl, first, ends⟩ := items?_cases list
          obtain ⟨pieces, rfl⟩ := texts item List.mem_cons_self
          obtain ⟨inner, quote, name⟩ := exists_of_value?_string first
          rw [skipSpace_skipSpace] at quote
          rcases ends with ⟨more, comma, _⟩ | ⟨_, closed⟩
          · exact ⟨'[', after, inner, pieces, behind, ',', more, bracket, Or.inl rfl, quote, name, comma,
              Or.inl rfl⟩
          · exact ⟨'[', after, inner, pieces, behind, ']', rest, bracket, Or.inl rfl, quote, name, closed,
              Or.inr (Or.inl rfl)⟩
  · obtain ⟨after, brace, ⟨_, empty⟩ | list⟩ := exists_of_value?_object here
    · exact absurd empty nonempty
    · cases length : text.length with
      | zero =>
          rw [length, members?] at list
          cases list
      | succ fuel =>
          rw [length] at list
          obtain ⟨name, _, _, inner, behind, more, _, _, quote, named, colon, _⟩ := members?_cases list
          rw [skipSpace_skipSpace] at quote
          exact ⟨'\x7b', after, inner, name, behind, ':', more, brace, Or.inr rfl, quote, named, colon,
            Or.inr (Or.inr rfl)⟩

/-! ## Texts that begin inside of a quoted text -/

theorem isSpace_eq_false_of_isBlankChar {char : Char} (solid : Text.isBlankChar char = false) :
    isSpace char = false := by
  refine Bool.eq_false_iff.mpr fun space => ?_
  simp only [isSpace, Bool.or_eq_true, beq_iff_eq] at space
  rcases space with ((rfl | rfl) | rfl) | rfl <;> cases solid

/-- A quotation mark that blanks alone precede is not one of a quoted text. -/
theorem skipSpace_ne_of_guarded {text : Text} (guarded : Guarded text) (rest : Text) :
    skipSpace text ≠ '"' :: rest := by
  intro quote
  have split : text = text.takeWhile isSpace ++ '"' :: rest := by
    rw [← quote, skipSpace, List.takeWhile_append_dropWhile]
  have spaces : (text.takeWhile isSpace).all isSpace = true := List.all_takeWhile
  have space := List.all_eq_true.mp spaces '\\' (List.mem_of_getLast? (guarded _ _ split))
  cases space

/-- It is the closing one. -/
theorem prefix_of_skipSpace {inside behind front inner : Text} (guarded : Guarded inside)
    (within : front <+: inside ++ '"' :: behind) (quote : skipSpace front = '"' :: inner) :
    inner <+: behind := by
  have dropped := Text.dropWhile_prefix_dropWhile isSpace within
  rw [Text.dropWhile_append_cons _ (rfl : isSpace '"' = false)] at dropped
  change skipSpace front <+: skipSpace inside ++ '"' :: behind at dropped
  rw [quote] at dropped
  cases spaces : skipSpace inside with
  | nil =>
      rw [spaces] at dropped
      exact (List.cons_prefix_cons.mp dropped).2
  | cons char others =>
      rw [spaces, List.cons_append] at dropped
      obtain ⟨rfl, _⟩ := List.cons_prefix_cons.mp dropped
      exact absurd spaces (skipSpace_ne_of_guarded guarded others)

/-- The text that follows a closing quotation mark does not go on like a
suggestion behind a text, wherever it is cut short. -/
def Misleads (behind : Text) : Prop :=
  ∀ inner name rest next others, inner <+: behind → pieces? inner = some (name, rest) →
    skipSpace rest = next :: others → next ≠ ',' ∧ next ≠ ']' ∧ next ≠ ':'

theorem misleads_nil : Misleads [] := by
  intro inner name rest next others within read
  rw [List.prefix_nil.mp within] at read
  cases read

/-- A text that begins inside of a quoted text is no suggestion: the first
quotation mark that could open its first text is the closing one. -/
theorem ofText?_of_stray {inside behind text : Text} (guarded : Guarded inside) (misleads : Misleads behind)
    (within : text <+: (inside ++ '"' :: behind).dropWhile Text.isBlankChar) : ofText? text = none := by
  cases read : ofText? text with
  | none => rfl
  | some suggestion =>
      exfalso
      obtain ⟨opener, after, inner, name, rest, next, others, opens, mark, quote, named, follows, sign⟩ :=
        exists_front_of_ofText? read
      rw [Text.dropWhile_append_cons _ (rfl : Text.isBlankChar '"' = false)] at within
      cases solid : inside.dropWhile Text.isBlankChar with
      | nil =>
          rw [solid, List.nil_append] at within
          rcases List.prefix_cons_iff.mp within with rfl | ⟨_, rfl, _⟩
          · cases opens
          · rw [skipSpace_cons _ rfl] at opens
            obtain rfl := (List.cons.inj opens).1
            rcases mark with impossible | impossible <;> cases impossible
      | cons first more =>
          rw [solid, List.cons_append] at within
          have firstSolid : Text.isBlankChar first = false := by
            have head := List.head?_dropWhile_not Text.isBlankChar inside
            rw [solid] at head
            simpa using head
          rcases List.prefix_cons_iff.mp within with rfl | ⟨front, rfl, frontWithin⟩
          · cases opens
          · rw [skipSpace_cons _ (isSpace_eq_false_of_isBlankChar firstSolid)] at opens
            obtain ⟨rfl, rfl⟩ := List.cons.inj opens
            have guardedMore : Guarded more := by
              have split : Guarded (inside.takeWhile Text.isBlankChar ++ first :: more) := by
                rw [← solid, List.takeWhile_append_dropWhile]
                exact guarded
              refine split.right ?_
              rintro rfl
              rcases mark with impossible | impossible <;> cases impossible
            have inBehind := prefix_of_skipSpace guardedMore frontWithin quote
            obtain ⟨noComma, noBracket, noColon⟩ := misleads inner name rest next others inBehind named follows
            rcases sign with same | same | same
            · exact noComma same
            · exact noBracket same
            · exact noColon same

/-! ## Objects behind something else -/

/-- What a reader takes from the front of a text lies before the first brace,
if it holds none. -/
theorem exists_of_append_brace {front tail rest : Text} (taken : Text)
    (same : front ++ '\x7b' :: tail = taken ++ rest) (free : '\x7b' ∉ taken) : ∃ more, front = taken ++ more ∧ rest = more ++ '\x7b' :: tail := by
  rcases List.append_eq_append_iff.mp same with ⟨beyond, takenEq, behind⟩ | ⟨more, frontEq, behind⟩
  · cases beyond with
    | nil => exact ⟨[], by rw [takenEq, List.append_nil, List.append_nil], behind.symm⟩
    | cons char beyond =>
        obtain rfl := (List.cons.inj behind).1
        rw [takenEq] at free
        exact absurd (List.mem_append_right front List.mem_cons_self) free
  · exact ⟨more, frontEq, behind⟩

/-- A text that is read in front of an object ends in front of it, or else at
the quotation mark that opens the first name. -/
theorem pieces?_before_brace {front back rest : Text} {letter : Char} {pieces : List Piece}
    (free : '\x7b' ∉ front)
    (read : pieces? (front ++ '\x7b' :: '"' :: letter :: back) = some (pieces, rest)) :
    rest = letter :: back ∨ ∃ more, rest = more ++ '\x7b' :: '"' :: letter :: back ∧ '\x7b' ∉ more := by
  generalize whole : front ++ '\x7b' :: '"' :: letter :: back = text at read
  fun_induction pieces? text generalizing front pieces rest with
  | case1 => cases read
  | case2 others =>
      cases read
      obtain ⟨more, rfl, behind⟩ := exists_of_append_brace ['"'] whole (by decide)
      exact Or.inr ⟨more, behind, fun member => free (List.mem_append_right _ member)⟩
  | case3 first second third fourth others inductionHypothesis =>
      obtain ⟨_, digits, read⟩ := Option.bind_eq_some_iff.mp read
      obtain ⟨⟨more, ends⟩, deeper, same⟩ := Option.bind_eq_some_iff.mp read
      cases same
      have taken : '\x7b' ∉ ['\\', 'u', first, second, third, fourth] := by
        intro member
        rcases List.mem_cons.mp member with impossible | member
        · cases impossible
        · rcases List.mem_cons.mp member with impossible | member
          · cases impossible
          · exact not_mem_of_unit? digits rfl member
      obtain ⟨front, rfl, behind⟩ := exists_of_append_brace _ whole taken
      exact inductionHypothesis (fun member => free (List.mem_append_right _ member)) behind.symm deeper
  | case4 sign others _ inductionHypothesis =>
      obtain ⟨_, escape, read⟩ := Option.bind_eq_some_iff.mp read
      obtain ⟨⟨more, ends⟩, deeper, same⟩ := Option.bind_eq_some_iff.mp read
      cases same
      have taken : '\x7b' ∉ ['\\', sign] := by
        intro member
        rcases List.mem_cons.mp member with impossible | member
        · cases impossible
        · rw [← List.mem_singleton.mp member] at escape
          cases escape
      obtain ⟨front, rfl, behind⟩ := exists_of_append_brace _ whole taken
      exact inductionHypothesis (fun member => free (List.mem_append_right _ member)) behind.symm deeper
  | case5 => cases read
  | case6 char others _ _ _ _ inductionHypothesis =>
      obtain ⟨⟨more, ends⟩, deeper, same⟩ := Option.bind_eq_some_iff.mp read
      cases same
      cases front with
      | nil =>
          obtain ⟨rfl, rfl⟩ := List.cons.inj whole
          rw [pieces?] at deeper
          cases deeper
          exact Or.inl rfl
      | cons first front =>
          exact inductionHypothesis (fun member => free (List.mem_cons_of_mem _ member))
            (List.cons.inj whole).2 deeper

/-- Texts in an array end in front of an object. -/
theorem items?_before_brace {front back rest : Text} {letter : Char} {items : List Written} {fuel : Nat}
    (free : '\x7b' ∉ front) (solid : isSpace letter = false) (noComma : letter ≠ ',') (noBracket : letter ≠ ']')
    (read : items? fuel (front ++ '\x7b' :: '"' :: letter :: back) = some (items, rest))
    (texts : ∀ item ∈ items, ∃ pieces, item = Written.string pieces) :
    ∃ more, rest = more ++ '\x7b' :: '"' :: letter :: back := by
  induction fuel generalizing front items rest with
  | zero =>
      rw [items?] at read
      cases read
  | succ fuel inductionHypothesis =>
      obtain ⟨item, others, after, rfl, first, ends⟩ := items?_cases read
      obtain ⟨pieces, rfl⟩ := texts item List.mem_cons_self
      obtain ⟨inner, quote, named⟩ := exists_of_value?_string first
      have passed : ∀ text : Text, skipSpace (text ++ '\x7b' :: '"' :: letter :: back) =
          skipSpace text ++ '\x7b' :: '"' :: letter :: back := fun text =>
        Text.dropWhile_append_cons _ rfl
      have kept : ∀ {text : Text}, '\x7b' ∉ text → '\x7b' ∉ skipSpace text := fun absent member =>
        absent (List.dropWhile_subset _ member)
      rw [passed] at quote
      obtain ⟨inside, insideEq, rfl⟩ := exists_of_append_brace ['"'] quote (by decide)
      have insideFree : '\x7b' ∉ inside := fun member =>
        kept free (insideEq ▸ List.mem_append_right _ member)
      rcases pieces?_before_brace insideFree named with rfl | ⟨more, rfl, moreFree⟩
      · rw [skipSpace_cons _ solid] at ends
        rcases ends with ⟨_, comma, _⟩ | ⟨_, bracket⟩
        · exact absurd (List.cons.inj comma).1 noComma
        · exact absurd (List.cons.inj bracket).1 noBracket
      · rw [passed] at ends
        rcases ends with ⟨behind, comma, deeper⟩ | ⟨_, bracket⟩
        · obtain ⟨next, nextEq, rfl⟩ := exists_of_append_brace [','] comma (by decide)
          have nextFree : '\x7b' ∉ next := fun member =>
            kept moreFree (nextEq ▸ List.mem_append_right _ member)
          exact inductionHypothesis nextFree deeper fun item member =>
            texts item (List.mem_cons_of_mem _ member)
        · obtain ⟨next, _, rfl⟩ := exists_of_append_brace [']'] bracket (by decide)
          exact ⟨next, rfl⟩

/-- An object behind something other than blanks makes no suggestion. -/
theorem ofText?_of_brace_behind {first letter : Char} {front back : Text} (free : '\x7b' ∉ first :: front)
    (firstSolid : isSpace first = false) (solid : isSpace letter = false) (noComma : letter ≠ ',')
    (noBracket : letter ≠ ']') :
    ofText? (first :: (front ++ '\x7b' :: '"' :: letter :: back)) = none := by
  cases read : ofText? (first :: (front ++ '\x7b' :: '"' :: letter :: back)) with
  | none => rfl
  | some suggestion =>
      exfalso
      obtain ⟨value, written, read⟩ := Option.bind_eq_some_iff.mp read
      obtain ⟨rest, here, nothing⟩ := exists_value?_of_ofText? written
      have begins := skipSpace_cons (front ++ '\x7b' :: '"' :: letter :: back) firstSolid
      rcases ofWritten_cases read with ⟨items, rfl, nonempty, texts⟩ | ⟨members, rfl, _⟩
      · obtain ⟨after, bracket, ⟨_, empty⟩ | list⟩ := exists_of_value?_array here
        · exact nonempty empty
        · rw [begins] at bracket
          obtain ⟨rfl, rfl⟩ := List.cons.inj bracket
          rw [skipSpace, Text.dropWhile_append_cons _ (rfl : isSpace '\x7b' = false)] at list
          have absent : '\x7b' ∉ front.dropWhile isSpace := fun member =>
            free (List.mem_cons_of_mem _ (List.dropWhile_subset _ member))
          obtain ⟨more, rfl⟩ := items?_before_brace absent solid noComma noBracket list texts
          rw [skipSpace, Text.dropWhile_append_cons _ (rfl : isSpace '\x7b' = false)] at nothing
          exact absurd (List.append_eq_nil_iff.mp nothing).2 (List.cons_ne_nil _ _)
      · obtain ⟨after, brace, _⟩ := exists_of_value?_object here
        rw [begins] at brace
        obtain rfl := (List.cons.inj brace).1
        exact free List.mem_cons_self

end Suggestion
end FeedDesk
