import FeedDesk.Json.Record

namespace FeedDesk
namespace Json

open Written

/-!
# What a value says about its text

A value that has been read tells how its text begins: an object behind a brace,
an array behind a bracket, a text behind a quotation mark, each of them after
blanks at most.  The parts of a numeral, the first item of an array and the
first member of an object are traced to their places in the same way.
-/

variable {fuel : Nat} {text rest : Text}

theorem skipSpace_skipSpace (text : Text) : skipSpace (skipSpace text) = skipSpace text := by
  induction text with
  | nil => rfl
  | cons char text inductionHypothesis =>
      simp only [skipSpace, List.dropWhile_cons] at inductionHypothesis ⊢
      cases space : isSpace char with
      | true => simpa only [if_true] using inductionHypothesis
      | false => simp only [Bool.false_eq_true, if_false, List.dropWhile_cons, space]

theorem exists_value?_of_ofText? {value : Written} (read : Written.ofText? text = some value) :
    ∃ rest, value? (text.length + 1) text = some (value, rest) ∧ skipSpace rest = [] := by
  unfold Written.ofText? at read
  split at read
  · rename_i found rest here
    split at read
    · rename_i nothing
      cases read
      exact ⟨rest, here, List.isEmpty_iff.mp nothing⟩
    · cases read
  · cases read

/-- The parts of a numeral, one behind the other. -/
theorem numeral?_cases {number : Numeral} (read : numeral? text = some (number, rest)) :
    ∃ unsigned whole behindWhole places behindPlaces power,
      (text = '-' :: unsigned ∨ text = unsigned) ∧ whole? unsigned = some (whole, behindWhole) ∧
      places? behindWhole = some (places, behindPlaces) ∧ power? behindPlaces = some (power, rest) := by
  rw [numeral?.eq_def] at read
  split at read
  rename_i unsigned sign
  obtain ⟨⟨whole, behindWhole⟩, wholeRead, read⟩ := Option.bind_eq_some_iff.mp read
  obtain ⟨⟨places, behindPlaces⟩, placesRead, read⟩ := Option.bind_eq_some_iff.mp read
  obtain ⟨⟨power, behindPower⟩, powerRead, same⟩ := Option.bind_eq_some_iff.mp read
  cases same
  refine ⟨unsigned, whole, behindWhole, places, behindPlaces, power, ?_, wholeRead, placesRead, powerRead⟩
  split at sign
  · cases sign
    exact Or.inl rfl
  · cases sign
    exact Or.inr rfl

/-- The values that are written as one word. -/
def literals : List (Text × Written) :=
  [("null", .null), ("true", .boolean true), ("false", .boolean false)]

/-- What a value says about the front of its text.  A value is a text, an array
or an object only behind the mark that opens one, a literal stands there as it
is, and all else is a numeral. -/
theorem value?_front {value : Written} (read : value? (fuel + 1) text = some (value, rest)) :
    (∃ after pieces, skipSpace text = '"' :: after ∧ pieces? after = some (pieces, rest) ∧
      value = .string pieces) ∨
    (∃ after, skipSpace text = '[' :: after ∧
      ((skipSpace after = ']' :: rest ∧ value = .array []) ∨
        ∃ items, items? fuel (skipSpace after) = some (items, rest) ∧ value = .array items)) ∨
    (∃ after, skipSpace text = '\x7b' :: after ∧
      ((skipSpace after = '\x7d' :: rest ∧ value = .object []) ∨
        ∃ members, members? fuel (skipSpace after) = some (members, rest) ∧ value = .object members)) ∨
    (∃ literal, skipSpace text = literal ++ rest ∧ (literal, value) ∈ literals) ∨
    ∃ number, numeral? (skipSpace text) = some (number, rest) ∧ value = .numeral number := by
  rw [value?] at read
  split at read
  · cases read
  · rename_i after here
    obtain ⟨⟨pieces, others⟩, found, same⟩ := Option.map_eq_some_iff.mp read
    cases same
    exact Or.inl ⟨after, pieces, here, found, rfl⟩
  · rename_i after here
    refine Or.inr (Or.inl ⟨after, here, ?_⟩)
    split at read
    · rename_i others closed
      cases read
      exact Or.inl ⟨closed, rfl⟩
    · obtain ⟨⟨items, others⟩, found, same⟩ := Option.map_eq_some_iff.mp read
      cases same
      exact Or.inr ⟨items, found, rfl⟩
  · rename_i after here
    refine Or.inr (Or.inr (Or.inl ⟨after, here, ?_⟩))
    split at read
    · rename_i others closed
      cases read
      exact Or.inl ⟨closed, rfl⟩
    · obtain ⟨⟨members, others⟩, found, same⟩ := Option.map_eq_some_iff.mp read
      cases same
      exact Or.inr ⟨members, found, rfl⟩
  · rename_i here
    cases read
    exact Or.inr (Or.inr (Or.inr (Or.inl ⟨"null", here, List.mem_cons_self⟩)))
  · rename_i here
    cases read
    exact Or.inr (Or.inr (Or.inr (Or.inl ⟨"true", here, List.mem_cons_of_mem _ List.mem_cons_self⟩)))
  · rename_i here
    cases read
    exact Or.inr (Or.inr (Or.inr (Or.inl ⟨"false", here,
      List.mem_cons_of_mem _ (List.mem_cons_of_mem _ List.mem_cons_self)⟩)))
  · obtain ⟨⟨number, others⟩, found, same⟩ := Option.map_eq_some_iff.mp read
    cases same
    exact Or.inr (Or.inr (Or.inr (Or.inr ⟨number, found, rfl⟩)))

theorem exists_of_value?_string {pieces : List Piece}
    (read : value? fuel text = some (.string pieces, rest)) :
    ∃ after, skipSpace text = '"' :: after ∧ pieces? after = some (pieces, rest) := by
  cases fuel with
  | zero => rw [value?] at read; cases read
  | succ fuel =>
      rcases value?_front read with ⟨after, _, here, found, same⟩ | ⟨_, _, ⟨_, same⟩ | ⟨_, _, same⟩⟩ |
        ⟨_, _, ⟨_, same⟩ | ⟨_, _, same⟩⟩ | ⟨_, _, listed⟩ | ⟨_, _, same⟩
      case inl =>
        cases same
        exact ⟨after, here, found⟩
      case inr.inr.inr.inl => simp [literals] at listed
      all_goals cases same

theorem exists_of_value?_array {items : List Written}
    (read : value? (fuel + 1) text = some (.array items, rest)) :
    ∃ after, skipSpace text = '[' :: after ∧
      ((skipSpace after = ']' :: rest ∧ items = []) ∨ items? fuel (skipSpace after) = some (items, rest)) := by
  rcases value?_front read with ⟨_, _, _, _, same⟩ | ⟨after, here, ⟨closed, same⟩ | ⟨_, found, same⟩⟩ |
    ⟨_, _, ⟨_, same⟩ | ⟨_, _, same⟩⟩ | ⟨_, _, listed⟩ | ⟨_, _, same⟩
  case inr.inl.inl =>
    cases same
    exact ⟨after, here, Or.inl ⟨closed, rfl⟩⟩
  case inr.inl.inr =>
    cases same
    exact ⟨after, here, Or.inr found⟩
  case inr.inr.inr.inl => simp [literals] at listed
  all_goals cases same

theorem exists_of_value?_object {members : List (List Piece × Written)}
    (read : value? (fuel + 1) text = some (.object members, rest)) :
    ∃ after, skipSpace text = '\x7b' :: after ∧
      ((skipSpace after = '\x7d' :: rest ∧ members = []) ∨
        members? fuel (skipSpace after) = some (members, rest)) := by
  rcases value?_front read with ⟨_, _, _, _, same⟩ | ⟨_, _, ⟨_, same⟩ | ⟨_, _, same⟩⟩ |
    ⟨after, here, ⟨closed, same⟩ | ⟨_, found, same⟩⟩ | ⟨_, _, listed⟩ | ⟨_, _, same⟩
  case inr.inr.inl.inl =>
    cases same
    exact ⟨after, here, Or.inl ⟨closed, rfl⟩⟩
  case inr.inr.inl.inr =>
    cases same
    exact ⟨after, here, Or.inr found⟩
  case inr.inr.inr.inl => simp [literals] at listed
  all_goals cases same

/-- The first item of a list of items, what stands behind it, and the other
items, which stand behind a comma. -/
theorem items?_cases {items : List Written} (read : items? (fuel + 1) text = some (items, rest)) :
    ∃ item others after, items = item :: others ∧ value? fuel text = some (item, after) ∧
      ((∃ behind, skipSpace after = ',' :: behind ∧ items? fuel behind = some (others, rest)) ∨
        (others = [] ∧ skipSpace after = ']' :: rest)) := by
  rw [items?] at read
  obtain ⟨⟨item, after⟩, found, read⟩ := Option.bind_eq_some_iff.mp read
  dsimp only at read
  split at read
  · rename_i behind comma
    obtain ⟨⟨others, ends⟩, more, same⟩ := Option.bind_eq_some_iff.mp read
    cases same
    exact ⟨item, others, after, rfl, found, Or.inl ⟨behind, comma, more⟩⟩
  · rename_i behind closed
    cases read
    exact ⟨item, [], after, rfl, found, Or.inr ⟨rfl, closed⟩⟩
  · cases read

/-- The first member of a list of members in the same way: its name, a colon
and its value. -/
theorem members?_cases {members : List (List Piece × Written)}
    (read : members? (fuel + 1) text = some (members, rest)) :
    ∃ name value others after behind inner further, members = (name, value) :: others ∧
      skipSpace text = '"' :: after ∧ pieces? after = some (name, behind) ∧
      skipSpace behind = ':' :: inner ∧ value? fuel inner = some (value, further) ∧
      ((∃ next, skipSpace further = ',' :: next ∧ members? fuel next = some (others, rest)) ∨
        (others = [] ∧ skipSpace further = '\x7d' :: rest)) := by
  rw [members?] at read
  split at read
  · rename_i after here
    obtain ⟨⟨name, behind⟩, named, read⟩ := Option.bind_eq_some_iff.mp read
    dsimp only at read
    split at read
    · rename_i inner colon
      obtain ⟨⟨value, further⟩, found, read⟩ := Option.bind_eq_some_iff.mp read
      dsimp only at read
      split at read
      · rename_i next comma
        obtain ⟨⟨others, ends⟩, more, same⟩ := Option.bind_eq_some_iff.mp read
        cases same
        exact ⟨name, value, others, after, behind, inner, further, rfl, here, named, colon, found,
          Or.inl ⟨next, comma, more⟩⟩
      · rename_i closed
        cases read
        exact ⟨name, value, [], after, behind, inner, further, rfl, here, named, colon, found,
          Or.inr ⟨rfl, closed⟩⟩
      · cases read
    · cases read
  · cases read

end Json
end FeedDesk
