import FeedDesk.Json.Record
import FeedDesk.Proofs.Json.Quoted

namespace FeedDesk
namespace Json

open Written

/-!
# Objects whose members are texts

The compact writing of an object with text members is read back member by
member.  As long as its closing brace is missing nothing is read, wherever the
writing stops.
-/

/-- A reader that passes over blanks stays where there is none. -/
theorem skipSpace_cons {char : Char} (text : Text) (solid : isSpace char = false) :
    skipSpace (char :: text) = char :: text := by
  rw [skipSpace, List.dropWhile_cons, solid]
  rfl

theorem quoted_append (text rest : Text) : quoted text ++ rest = '"' :: (escaped text ++ '"' :: rest) := by
  rw [quoted_eq, List.cons_append, List.append_assoc, List.singleton_append]

/-- A quoted text at the front of a text that may be cut short: nothing has
been written, or the reader finds no end, or the quoted text is complete. -/
theorem quoted_prefix_cases {front text after : Text} (within : front <+: quoted text ++ after) :
    front = [] ∨ (∃ inner, front = '"' :: inner ∧ pieces? inner = none) ∨
      ∃ rest, front = quoted text ++ rest ∧ rest <+: after := by
  rw [quoted_append] at within
  rcases List.prefix_cons_iff.mp within with rfl | ⟨inner, rfl, inside⟩
  · exact Or.inl rfl
  · rcases Text.prefix_append_cases inside with short | ⟨more, rfl, behind⟩
    · exact Or.inr (Or.inl ⟨inner, rfl, pieces?_of_prefix_escaped short⟩)
    · rcases List.prefix_cons_iff.mp behind with rfl | ⟨rest, rfl, remains⟩
      · refine Or.inr (Or.inl ⟨_, rfl, ?_⟩)
        rw [List.append_nil]
        exact pieces?_of_prefix_escaped List.prefix_rfl
      · exact Or.inr (Or.inr ⟨rest, (quoted_append text rest).symm, remains⟩)

theorem value?_quoted (fuel : Nat) (text rest : Text) :
    value? (fuel + 1) (quoted text ++ rest) = some (Written.string (text.map pieceOf), rest) := by
  rw [quoted_append, value?, skipSpace_cons _ rfl]
  simp only [pieces?_escaped, Option.map_some]

/-- Members that are texts. -/
def textMembers (members : List (Text × Text)) : List (Text × Json) :=
  members.map fun (name, value) => (name, .string value)

/-- The members as they are read. -/
def readMembers (members : List (Text × Text)) : List (List Piece × Written) :=
  members.map fun (name, value) => (name.map pieceOf, .string (value.map pieceOf))

theorem compactMembers_singleton (name value : Text) :
    compactMembers (textMembers [(name, value)]) = quoted name ++ ':' :: (quoted value ++ []) := by
  rw [List.append_nil]
  rfl

theorem compactMembers_cons (name value : Text) (next : Text × Text) (members : List (Text × Text)) :
    compactMembers (textMembers ((name, value) :: next :: members)) =
      quoted name ++ ':' :: (quoted value ++ ',' :: compactMembers (textMembers (next :: members))) := by
  change quoted name ++ ':' :: quoted value ++ ',' :: compactMembers (textMembers (next :: members)) = _
  rw [List.append_assoc, List.cons_append]

/-- The reader behind the name of a member. -/
theorem members?_name (fuel : Nat) (name rest : Text) :
    members? (fuel + 1) (quoted name ++ ':' :: rest) =
      (value? fuel rest).bind fun (value, rest) =>
        match skipSpace rest with
        | ',' :: rest => (members? fuel rest).bind fun (members, rest) =>
            some ((name.map pieceOf, value) :: members, rest)
        | '\x7d' :: rest => some ([(name.map pieceOf, value)], rest)
        | _ => none := by
  rw [quoted_append, members?, skipSpace_cons _ rfl]
  change (pieces? (escaped name ++ '"' :: ':' :: rest)).bind _ = _
  rw [pieces?_escaped]
  rfl

/-- The reader behind a member. -/
theorem members?_member (fuel : Nat) (name value rest : Text) :
    members? (fuel + 2) (quoted name ++ ':' :: (quoted value ++ rest)) =
      match skipSpace rest with
      | ',' :: rest => (members? (fuel + 1) rest).bind fun (members, rest) =>
          some ((name.map pieceOf, .string (value.map pieceOf)) :: members, rest)
      | '\x7d' :: rest => some ([(name.map pieceOf, .string (value.map pieceOf))], rest)
      | _ => none := by
  rw [members?_name, value?_quoted]
  rfl

/-- The members are read up to the closing brace. -/
theorem members?_compactMembers {members : List (Text × Text)} (nonempty : members ≠ []) {fuel : Nat}
    (enough : members.length < fuel) (rest : Text) :
    members? fuel (compactMembers (textMembers members) ++ '\x7d' :: rest) =
      some (readMembers members, rest) := by
  induction members generalizing fuel with
  | nil => exact absurd rfl nonempty
  | cons member others inductionHypothesis =>
      obtain ⟨name, value⟩ := member
      rw [List.length_cons] at enough
      obtain ⟨less, rfl⟩ : ∃ less, fuel = less + 2 := ⟨fuel - 2, by omega⟩
      cases others with
      | nil =>
          rw [compactMembers_singleton, List.append_assoc, List.cons_append, List.append_nil,
            members?_member]
          rfl
      | cons next others =>
          have deeperEnough : (next :: others).length < less + 1 := by omega
          have deeper := inductionHypothesis (List.cons_ne_nil _ _) deeperEnough
          rw [compactMembers_cons, List.append_assoc, List.cons_append, List.append_assoc, List.cons_append,
            members?_member]
          simp only [skipSpace_cons _ (rfl : isSpace ',' = false), deeper]
          rfl

/-- A member may be cut short anywhere; if its value is complete, what stands
behind it decides. -/
theorem members?_of_prefix_member {fuel : Nat} {name value front after : Text}
    (within : front <+: quoted name ++ ':' :: (quoted value ++ after))
    (behindValue : ∀ less rest, rest <+: after →
      members? (less + 2) (quoted name ++ ':' :: (quoted value ++ rest)) = none) :
    members? fuel front = none := by
  cases fuel with
  | zero => rw [members?]
  | succ fuel =>
      rcases quoted_prefix_cases within with rfl | ⟨inner, rfl, unread⟩ | ⟨rest, rfl, behind⟩
      · rw [members?]
        rfl
      · rw [members?, skipSpace_cons _ rfl]
        simp only [unread]
        rfl
      · rcases List.prefix_cons_iff.mp behind with rfl | ⟨rest, rfl, valueFront⟩
        · rw [quoted_append, members?, skipSpace_cons _ rfl]
          simp only [pieces?_escaped]
          rfl
        · cases fuel with
          | zero =>
              rw [members?_name, value?]
              rfl
          | succ less =>
              rcases quoted_prefix_cases valueFront with rfl | ⟨inner, rfl, unread⟩ | ⟨rest, rfl, remains⟩
              · rw [members?_name, value?]
                rfl
              · rw [members?_name, value?, skipSpace_cons _ rfl]
                simp only [unread]
                rfl
              · exact behindValue less rest remains

/-- Without the closing brace nothing is read. -/
theorem members?_of_prefix {members : List (Text × Text)} {fuel : Nat} {front : Text}
    (within : front <+: compactMembers (textMembers members)) : members? fuel front = none := by
  induction members generalizing fuel front with
  | nil =>
      rw [List.prefix_nil.mp within]
      cases fuel with
      | zero => rw [members?]
      | succ fuel =>
          rw [members?]
          rfl
  | cons member others inductionHypothesis =>
      obtain ⟨name, value⟩ := member
      cases others with
      | nil =>
          rw [compactMembers_singleton] at within
          refine members?_of_prefix_member within fun less rest remains => ?_
          rw [List.prefix_nil.mp remains, members?_member]
          rfl
      | cons next others =>
          rw [compactMembers_cons] at within
          refine members?_of_prefix_member within fun less rest remains => ?_
          rw [members?_member]
          rcases List.prefix_cons_iff.mp remains with rfl | ⟨rest, rfl, inside⟩
          · rfl
          · simp only [skipSpace_cons _ (rfl : isSpace ',' = false), inductionHypothesis inside]
            rfl

/-! ## Whole objects -/

theorem compact_object (members : List (Text × Json)) :
    compact (.object members) = '\x7b' :: (compactMembers members ++ ['\x7d']) := rfl

theorem exists_compactMembers_eq_cons {members : List (Text × Text)} (nonempty : members ≠ []) :
    ∃ rest, compactMembers (textMembers members) = '"' :: rest := by
  cases members with
  | nil => exact absurd rfl nonempty
  | cons member others =>
      obtain ⟨name, value⟩ := member
      cases others with
      | nil => exact ⟨_, rfl⟩
      | cons next others => exact ⟨_, rfl⟩

theorem value?_object (fuel : Nat) (rest : Text) :
    value? (fuel + 1) ('\x7b' :: '"' :: rest) =
      (members? fuel ('"' :: rest)).map fun (members, rest) => (.object members, rest) := by
  rw [value?, skipSpace_cons _ rfl]
  simp only [skipSpace_cons _ (rfl : isSpace '"' = false)]
  rfl

/-- The object is read, and what follows it is left. -/
theorem value?_compact_object {members : List (Text × Text)} (nonempty : members ≠ []) {fuel : Nat}
    (enough : members.length < fuel) (rest : Text) :
    value? (fuel + 1) (compact (.object (textMembers members)) ++ rest) =
      some (.object (readMembers members), rest) := by
  obtain ⟨others, front⟩ := exists_compactMembers_eq_cons nonempty
  have read := members?_compactMembers nonempty enough rest
  rw [front, List.cons_append] at read
  rw [compact_object, front, List.cons_append, List.append_assoc, List.singleton_append, List.cons_append,
    value?_object, read]
  rfl

theorem length_le_length_compactMembers (members : List (Text × Text)) :
    members.length ≤ (compactMembers (textMembers members)).length := by
  induction members with
  | nil => exact Nat.zero_le _
  | cons member others inductionHypothesis =>
      obtain ⟨name, value⟩ := member
      cases others with
      | nil =>
          rw [compactMembers_singleton]
          simp only [List.length_append, List.length_cons, List.length_nil]
          omega
      | cons next others =>
          rw [compactMembers_cons]
          simp only [List.length_append, List.length_cons] at inductionHypothesis ⊢
          omega

/-- The object is a value of its own, and nothing but blanks may follow it. -/
theorem ofText?_compact_object {members : List (Text × Text)} (nonempty : members ≠ []) (rest : Text) :
    Written.ofText? (compact (.object (textMembers members)) ++ rest) =
      if (skipSpace rest).isEmpty then some (.object (readMembers members)) else none := by
  have long := length_le_length_compactMembers members
  rw [Written.ofText?, value?_compact_object nonempty]
  rw [compact_object]
  simp only [List.length_append, List.length_cons]
  omega

/-- A front of the writing that lacks the closing brace is no value. -/
theorem ofText?_of_prefix_object {members : List (Text × Text)} {front : Text}
    (within : front <+: '\x7b' :: compactMembers (textMembers members)) :
    Written.ofText? front = none := by
  rcases List.prefix_cons_iff.mp within with rfl | ⟨front, rfl, inside⟩
  · rfl
  · cases front with
    | nil => rfl
    | cons char front =>
        have nonempty : members ≠ [] := by
          rintro rfl
          exact absurd (List.prefix_nil.mp inside) (List.cons_ne_nil char front)
        obtain ⟨others, same⟩ := exists_compactMembers_eq_cons nonempty
        obtain ⟨rfl, _⟩ := List.cons_prefix_cons.mp (same ▸ inside)
        rw [Written.ofText?, value?_object, members?_of_prefix inside]
        rfl

end Json
end FeedDesk
