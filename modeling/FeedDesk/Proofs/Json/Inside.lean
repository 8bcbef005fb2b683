import FeedDesk.Proofs.Json.Outside

namespace FeedDesk
namespace Json

open Written

/-!
# Readers that begin inside of a quoted text

A reader that is set on the middle of a quoted text goes astray: what it takes
for the beginning of a text is the end of the one it is in.  What it then reads as
a text is what stands between two quoted texts, which holds a comma or a colon,
and at its end the reader is inside of a quoted text again.  So every text and
every name that such a reader finds gives itself away by one of these marks.
-/

/-- A text that begins inside of a quoted text, at any place but between a
backslash and the character it belongs to. -/
def Inside (away : Char) (text : Text) : Prop :=
  ∃ body rest, text = body ++ '"' :: rest ∧ Guarded body ∧ Outside away false rest

variable {away other char : Char} {ready : Bool} {text behind rest : Text}

namespace Outside

theorem of_char (outside : Outside away ready (char :: text)) (noQuote : char ≠ '"') :
    Bare away char ∧ Outside away (ready || separates char) text := by
  generalize whole : char :: text = all at outside
  cases outside with
  | nil => cases whole
  | bare plain deeper =>
      cases whole
      exact ⟨plain, deeper⟩
  | quoted _ _ => exact absurd (List.cons.inj whole).1 noQuote

theorem of_quote (outside : Outside away ready ('"' :: text)) : ready = true ∧ Inside away text := by
  generalize whole : '"' :: text = all at outside
  cases outside with
  | nil => cases whole
  | bare plain _ => exact absurd (List.cons.inj whole).1.symm plain.1
  | quoted guarded deeper => exact ⟨rfl, _, _, (List.cons.inj whole).2, guarded, deeper⟩

/-- The character that is kept away from outside stands inside of a quoted text. -/
theorem inside {front : Text} (outside : Outside away ready (front ++ away :: text)) (noQuote : away ≠ '"')
    (noBackslash : away ≠ '\\') : Inside away (away :: text) := by
  generalize whole : front ++ away :: text = all at outside
  induction outside generalizing front with
  | nil => exact absurd whole (List.append_ne_nil_of_right_ne_nil front (List.cons_ne_nil away text))
  | bare plain _ inductionHypothesis =>
      cases front with
      | nil => exact absurd (List.cons.inj whole).1.symm plain.2.2
      | cons _ front => exact inductionHypothesis (List.cons.inj whole).2
  | @quoted body after guarded deeper inductionHypothesis =>
      cases front with
      | nil => exact absurd (List.cons.inj whole).1 noQuote
      | cons _ front =>
          rcases List.append_eq_append_iff.mp (List.cons.inj whole).2 with
            ⟨between, rfl, remains⟩ | ⟨between, rfl, remains⟩
          · cases between with
            | nil => exact absurd (List.cons.inj remains).1 noQuote
            | cons _ between =>
                obtain ⟨rfl, rfl⟩ := List.cons.inj remains
                have single : '"' ∉ [away] := fun member => noQuote (List.mem_singleton.mp member).symm
                refine ⟨away :: between, after, rfl, ?_, deeper⟩
                exact (guarded_of_not_mem single).append (guarded.right noBackslash)
          · cases between with
            | nil => exact absurd (List.cons.inj remains).1.symm noQuote
            | cons _ between => exact inductionHypothesis (List.cons.inj remains).2.symm

end Outside

namespace Inside

theorem of_char (inside : Inside away (char :: text)) (bare : Bare other char) : Inside away text := by
  obtain ⟨body, rest, same, guarded, outside⟩ := inside
  cases body with
  | nil => exact absurd (List.cons.inj same).1 bare.1
  | cons first body =>
      obtain ⟨rfl, rfl⟩ := List.cons.inj same
      exact ⟨body, rest, rfl, Guarded.right (show Guarded ([] ++ char :: body) from guarded) bare.2.1, outside⟩

/-- An unguarded quotation mark is the closing one. -/
theorem of_quote (inside : Inside away ('"' :: text)) : Outside away false text := by
  obtain ⟨body, rest, same, guarded, outside⟩ := inside
  cases body with
  | nil =>
      obtain ⟨_, rfl⟩ := List.cons.inj same
      exact outside
  | cons first body =>
      obtain ⟨rfl, _⟩ := List.cons.inj same
      cases guarded [] body rfl

theorem of_skips (inside : Inside away (text ++ behind)) (skips : Skips other text rest) :
    Inside away (rest ++ behind) := by
  obtain ⟨taken, rfl, bare⟩ := skips
  induction taken with
  | nil => exact inside
  | cons char taken inductionHypothesis =>
      obtain ⟨here, others⟩ := List.forall_mem_cons.mp bare
      exact inductionHypothesis others (of_char inside here)

/-- Blanks and a character behind them. -/
theorem of_mark (inside : Inside away (text ++ behind)) (here : skipSpace text = char :: rest)
    (bare : Bare '\x60' char) : Inside away (rest ++ behind) :=
  (inside.of_skips (Skips.skipSpace (rfl : isSpace '\x60' = false) text)).of_skips
    (here ▸ Skips.cons bare (Skips.refl _ rest))

end Inside

/-! ## What is read astray -/

/-- A comma or a colon is among the pieces. -/
def Marked (pieces : List Piece) : Prop :=
  ∃ char, separates char = true ∧ .char char ∈ pieces

theorem pieces?_astray {pieces : List Piece} (read : pieces? text = some (pieces, rest))
    (outside : Outside away ready (text ++ behind)) :
    (ready = true ∨ Marked pieces) ∧ Inside away (rest ++ behind) := by
  fun_induction pieces? text generalizing ready pieces rest with
  | case1 => cases read
  | case2 others =>
      cases read
      obtain ⟨found, inside⟩ := outside.of_quote
      exact ⟨Or.inl found, inside⟩
  | case3 => exact absurd rfl (outside.of_char (by decide)).1.2.1
  | case4 => exact absurd rfl (outside.of_char (by decide)).1.2.1
  | case5 => cases read
  | case6 char others quote _ _ _ inductionHypothesis =>
      obtain ⟨⟨more, ends⟩, deeper, same⟩ := Option.bind_eq_some_iff.mp read
      cases same
      obtain ⟨found | ⟨mark, separating, member⟩, inside⟩ :=
        inductionHypothesis deeper (outside.of_char quote).2
      · rcases Bool.or_eq_true_iff.mp found with before | here
        · exact ⟨Or.inl before, inside⟩
        · exact ⟨Or.inr ⟨char, here, List.mem_cons_self⟩, inside⟩
      · exact ⟨Or.inr ⟨mark, separating, List.mem_cons_of_mem _ member⟩, inside⟩

/-- A text that is read from inside of a quoted one. -/
theorem quoted_astray {after : Text} {pieces : List Piece} (inside : Inside away (text ++ behind))
    (quote : skipSpace text = '"' :: after) (read : pieces? after = some (pieces, rest)) :
    Marked pieces ∧ Inside away (rest ++ behind) := by
  have closing := inside.of_skips (Skips.skipSpace (rfl : isSpace '\x60' = false) text)
  rw [quote] at closing
  obtain ⟨impossible | marked, again⟩ := pieces?_astray read closing.of_quote
  · cases impossible
  · exact ⟨marked, again⟩

/-- Every text and every name of the value, as far as they belong to itself or
to its items, is marked. -/
def Astray : Written → Prop
  | .string pieces => Marked pieces
  | .array items => ∀ pieces, .string pieces ∈ items → Marked pieces
  | .object members => ∀ member ∈ members, Marked member.1
  | _ => True

/-- What the readers find from inside of a quoted text, and where they end. -/
structure ReadersAstray (away : Char) (fuel : Nat) : Prop where
  value : ∀ {text rest behind : Text} {value : Written}, value? fuel text = some (value, rest) →
    Inside away (text ++ behind) → Astray value ∧ Inside away (rest ++ behind)
  items : ∀ {text rest behind : Text} {items : List Written}, items? fuel text = some (items, rest) →
    Inside away (text ++ behind) → (∀ item ∈ items, Astray item) ∧ Inside away (rest ++ behind)
  members : ∀ {text rest behind : Text} {members : List (List Piece × Written)},
    members? fuel text = some (members, rest) → Inside away (text ++ behind) →
      (∀ member ∈ members, Marked member.1) ∧ Inside away (rest ++ behind)

namespace ReadersAstray

variable {fuel : Nat}

theorem value_succ (below : ReadersAstray away fuel) {value : Written}
    (read : value? (fuel + 1) text = some (value, rest)) (inside : Inside away (text ++ behind)) :
    Astray value ∧ Inside away (rest ++ behind) := by
  have spaces : ∀ text, Skips '\x60' text (skipSpace text) := fun text => Skips.skipSpace rfl text
  rcases value?_front read with ⟨after, pieces, quote, found, rfl⟩ |
    ⟨after, bracket, ⟨closed, rfl⟩ | ⟨items, found, rfl⟩⟩ |
    ⟨after, brace, ⟨closed, rfl⟩ | ⟨members, found, rfl⟩⟩ | ⟨literal, here, listed⟩ | ⟨number, found, rfl⟩
  · exact quoted_astray inside quote found
  · refine ⟨fun _ member => absurd member List.not_mem_nil, ?_⟩
    exact (inside.of_mark bracket (by decide)).of_mark closed (by decide)
  · have front := (inside.of_mark bracket (by decide)).of_skips (spaces after)
    obtain ⟨astray, again⟩ := below.items found front
    exact ⟨fun pieces member => astray _ member, again⟩
  · refine ⟨fun _ member => absurd member List.not_mem_nil, ?_⟩
    exact (inside.of_mark brace (by decide)).of_mark closed (by decide)
  · have front := (inside.of_mark brace (by decide)).of_skips (spaces after)
    exact below.members found front
  · refine ⟨?_, (inside.of_skips (spaces text)).of_skips (here ▸ Skips.literal listed rest)⟩
    simp only [literals, List.mem_cons, Prod.mk.injEq, List.not_mem_nil, or_false] at listed
    rcases listed with ⟨_, rfl⟩ | ⟨_, rfl⟩ | ⟨_, rfl⟩ <;> trivial
  · exact ⟨trivial, (inside.of_skips (spaces text)).of_skips (Skips.numeral? found)⟩

theorem items_succ (below : ReadersAstray away fuel) {items : List Written}
    (read : items? (fuel + 1) text = some (items, rest)) (inside : Inside away (text ++ behind)) :
    (∀ item ∈ items, Astray item) ∧ Inside away (rest ++ behind) := by
  obtain ⟨item, others, after, rfl, first, ends⟩ := items?_cases read
  obtain ⟨astray, again⟩ := below.value first inside
  rcases ends with ⟨next, comma, more⟩ | ⟨rfl, closed⟩
  · obtain ⟨others, further⟩ := below.items more (again.of_mark comma (by decide))
    exact ⟨List.forall_mem_cons.mpr ⟨astray, others⟩, further⟩
  · refine ⟨fun other member => ?_, again.of_mark closed (by decide)⟩
    rwa [List.mem_singleton.mp member]

theorem members_succ (below : ReadersAstray away fuel) {members : List (List Piece × Written)}
    (read : members? (fuel + 1) text = some (members, rest)) (inside : Inside away (text ++ behind)) :
    (∀ member ∈ members, Marked member.1) ∧ Inside away (rest ++ behind) := by
  obtain ⟨name, value, others, after, _, inner, further, rfl, quote, named, colon, first, ends⟩ :=
    members?_cases read
  obtain ⟨marked, behindName⟩ := quoted_astray inside quote named
  obtain ⟨_, again⟩ := below.value first (behindName.of_mark colon (by decide))
  rcases ends with ⟨next, comma, more⟩ | ⟨rfl, closed⟩
  · obtain ⟨others, further⟩ := below.members more (again.of_mark comma (by decide))
    exact ⟨List.forall_mem_cons.mpr ⟨marked, others⟩, further⟩
  · refine ⟨fun other member => ?_, again.of_mark closed (by decide)⟩
    rwa [List.mem_singleton.mp member]

end ReadersAstray

theorem readersAstray (away : Char) (fuel : Nat) : ReadersAstray away fuel := by
  induction fuel with
  | zero =>
      constructor
      · intro text rest behind value read
        rw [value?] at read
        cases read
      · intro text rest behind items read
        rw [items?] at read
        cases read
      · intro text rest behind members read
        rw [members?] at read
        cases read
  | succ fuel below => exact ⟨below.value_succ, below.items_succ, below.members_succ⟩

/-- A value that makes up a text from inside of a quoted one. -/
theorem astray_of_ofText? {value : Written} (read : Written.ofText? text = some value)
    (inside : Inside away (text ++ behind)) : Astray value := by
  obtain ⟨_, found, _⟩ := exists_value?_of_ofText? read
  exact ((readersAstray away _).value found inside).1

end Json
end FeedDesk
