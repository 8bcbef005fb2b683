import FeedDesk.Json.Written
import FeedDesk.Proofs.Text.Cutting

namespace FeedDesk
namespace Json

open Written

/-!
# Quoted texts and how they are read

Every text can be quoted, and reading the quoted text gives the text again.
Two more things are known of it.  A quoted text that is cut short cannot be
read at all.  And between the quotes every quotation mark stands behind a
backslash, so a reader that begins somewhere inside finds no quotation mark of
its own before it has come to the closing one.  The same is true of every text that
is read as a quoted one, however it is written.
-/

/-- The text as it stands between the quotes. -/
def escaped (text : Text) : Text :=
  text.flatMap escapeChar

theorem quoted_eq (text : Text) : quoted text = '"' :: (escaped text ++ ['"']) := rfl

theorem escaped_cons (char : Char) (text : Text) :
    escaped (char :: text) = escapeChar char ++ escaped text := rfl

/-- The piece that is read for a character. -/
def pieceOf (char : Char) : Piece :=
  match char with
  | '\n' | '\r' | '\t' | '\x08' | '\x0c' => .char char
  | char => if char.toNat < 0x20 then .unit char.toNat else .char char

/-- The ways in which a character is written: by itself, by one letter behind a
backslash, or by its four digits. -/
theorem escapeChar_cases (char : Char) :
    (escapeChar char = [char] ∧ char ≠ '"' ∧ char ≠ '\\' ∧ ¬ char.toNat < 0x20 ∧ pieceOf char = .char char) ∨
      (∃ letter, escapeChar char = ['\\', letter] ∧ letter ≠ 'u' ∧ escaped? letter = some char ∧
        pieceOf char = .char char) ∨
      (escapeChar char = '\\' :: 'u' :: hexText char.toNat ∧ char.toNat < 0x20 ∧
        pieceOf char = .unit char.toNat) := by
  unfold escapeChar pieceOf
  split
  case h_8 quote backslash _ _ _ _ _ =>
    by_cases control : char.toNat < 0x20
    · refine Or.inr (Or.inr ⟨if_pos control, control, ?_⟩)
      simp only [control, if_true]
    · refine Or.inl ⟨if_neg control, quote, backslash, control, ?_⟩
      simp only [control, if_false]
  all_goals exact Or.inr (Or.inl ⟨_, rfl, by decide, rfl, rfl⟩)

theorem exists_hexText {code : Nat} (control : code < 0x20) :
    ∃ first second third fourth, hexText code = [first, second, third, fourth] ∧
      unit? first second third fourth = some code := by
  refine ⟨_, _, _, _, rfl, ?_⟩
  revert code
  decide

theorem pieces?_escapeChar (char : Char) (rest : Text) :
    pieces? (escapeChar char ++ rest) =
      (pieces? rest).map fun (pieces, rest) => (pieceOf char :: pieces, rest) := by
  rcases escapeChar_cases char with ⟨written, quote, backslash, control, piece⟩ |
    ⟨letter, written, notUnit, read, piece⟩ | ⟨written, control, piece⟩
  · rw [written, piece, List.singleton_append, pieces?]
    · have plain : (decide (char.toNat < 32) || char == '\\') = false := by
        simp only [control, backslash, decide_false, beq_eq_false_iff_ne, ne_eq, not_false_eq_true,
          Bool.false_or]
      rw [plain]
      cases pieces? rest <;> rfl
    · exact quote
    · exact fun _ _ _ _ _ same => absurd same backslash
    · exact fun _ _ same => absurd same backslash
  · rw [written, piece, List.cons_append, List.singleton_append, pieces?]
    · rw [read]
      cases pieces? rest <;> rfl
    · exact fun _ _ _ _ _ same => absurd same notUnit
  · obtain ⟨first, second, third, fourth, digits, code⟩ := exists_hexText control
    rw [written, piece, digits]
    simp only [List.cons_append, List.nil_append]
    rw [pieces?, code]
    cases pieces? rest <;> rfl

/-- A quoted text is read up to its closing quote. -/
theorem pieces?_escaped (text rest : Text) :
    pieces? (escaped text ++ '"' :: rest) = some (text.map pieceOf, rest) := by
  induction text with
  | nil => rfl
  | cons char text inductionHypothesis =>
      rw [escaped_cons, List.append_assoc, pieces?_escapeChar, inductionHypothesis]
      rfl

theorem chars?_pieceOf_cons (char : Char) (pieces : List Piece) :
    chars? (pieceOf char :: pieces) = (chars? pieces).map (char :: ·) := by
  rcases escapeChar_cases char with ⟨_, _, _, _, piece⟩ | ⟨_, _, _, _, piece⟩ | ⟨_, control, piece⟩
  · rw [piece, chars?]
  · rw [piece, chars?]
  · have leading : isLeadingUnit char.toNat = false := by
      simp only [isLeadingUnit, Bool.and_eq_false_iff, decide_eq_false_iff_not]
      omega
    have trailing : isTrailingUnit char.toNat = false := by
      simp only [isTrailingUnit, Bool.and_eq_false_iff, decide_eq_false_iff_not]
      omega
    rw [piece, chars?.eq_def (.unit char.toNat :: pieces)]
    split
    case h_1 impossible => cases impossible
    case h_2 impossible => cases impossible
    case h_3 same =>
      cases same
      rw [leading, trailing]
      simp only [Bool.false_eq_true, if_false, Char.ofNat_toNat]
    case h_4 same =>
      cases same
      rw [leading, trailing]
      simp only [Bool.or_self, Bool.false_eq_true, if_false, Char.ofNat_toNat]

theorem chars?_map_pieceOf (text : Text) : chars? (text.map pieceOf) = some text := by
  induction text with
  | nil => rfl
  | cons char text inductionHypothesis =>
      rw [List.map_cons, chars?_pieceOf_cons, inductionHypothesis]
      rfl

/-! ## Quoted texts that are cut short -/

theorem pieces?_of_short_unit {digits : Text} (short : digits.length < 4) :
    pieces? ('\\' :: 'u' :: digits) = none := by
  rw [pieces?]
  · rfl
  · rintro first second third fourth rest _ rfl
    simp only [List.length_cons] at short
    omega

theorem pieces?_of_prefix_escapeChar {char : Char} {front : Text} (within : front <+: escapeChar char)
    (short : front ≠ escapeChar char) : pieces? front = none := by
  rcases escapeChar_cases char with ⟨written, _⟩ | ⟨letter, written, _⟩ | ⟨written, control, _⟩
  · rw [written] at within short
    rcases List.prefix_cons_iff.mp within with rfl | ⟨front, rfl, rest⟩
    · rfl
    · rw [List.prefix_nil.mp rest] at short
      exact absurd rfl short
  · rw [written] at within short
    rcases List.prefix_cons_iff.mp within with rfl | ⟨front, rfl, behind⟩
    · rfl
    · rcases List.prefix_cons_iff.mp behind with rfl | ⟨front, rfl, rest⟩
      · rfl
      · rw [List.prefix_nil.mp rest] at short
        exact absurd rfl short
  · rw [written] at within short
    rcases List.prefix_cons_iff.mp within with rfl | ⟨front, rfl, behind⟩
    · rfl
    · rcases List.prefix_cons_iff.mp behind with rfl | ⟨digits, rfl, digitsPrefix⟩
      · rfl
      · apply pieces?_of_short_unit
        rcases Nat.lt_or_eq_of_le digitsPrefix.length_le with less | equal
        · exact less
        · exact absurd (by rw [digitsPrefix.eq_of_length equal]) short

/-- Without its closing quote a quoted text is not read. -/
theorem pieces?_of_prefix_escaped {text front : Text} (within : front <+: escaped text) :
    pieces? front = none := by
  induction text generalizing front with
  | nil =>
      rw [List.prefix_nil.mp within]
      rfl
  | cons char text inductionHypothesis =>
      rw [escaped_cons] at within
      rcases Text.prefix_append_cases within with short | ⟨more, rfl, inside⟩
      · by_cases whole : front = escapeChar char
        · rw [whole, ← List.append_nil (escapeChar char), pieces?_escapeChar]
          rfl
        · exact pieces?_of_prefix_escapeChar short whole
      · rw [pieces?_escapeChar, inductionHypothesis inside]
        rfl

/-! ## Quotation marks between the quotes -/

/-- Every quotation mark of the text stands behind a backslash. -/
def Guarded (text : Text) : Prop :=
  ∀ before after, text = before ++ '"' :: after → before.getLast? = some '\\'

theorem quote_not_mem_hexText (code : Nat) : '"' ∉ hexText code := by
  have digit : ∀ value < 16, Nat.digitChar value ≠ '"' := by decide
  intro member
  obtain ⟨value, listed, same⟩ := List.mem_map.mp member
  refine digit value ?_ same
  simp only [List.mem_cons, List.not_mem_nil, or_false] at listed
  omega

theorem getLast?_of_escapeChar_eq {char : Char} {lead trail : Text}
    (split : escapeChar char = lead ++ '"' :: trail) : lead.getLast? = some '\\' := by
  have member : '"' ∈ escapeChar char := by
    rw [split]
    exact List.mem_append_right lead List.mem_cons_self
  rcases escapeChar_cases char with ⟨written, quote, _⟩ | ⟨letter, written, _⟩ | ⟨written, _⟩
  · rw [written, List.mem_singleton] at member
    exact absurd member.symm quote
  · rw [written] at split
    cases lead with
    | nil => exact absurd (List.cons.inj split).1 (by decide)
    | cons first lead =>
        obtain ⟨rfl, rest⟩ := List.cons.inj split
        rcases List.append_eq_singleton_iff.mp rest.symm with ⟨rfl, _⟩ | ⟨_, impossible⟩
        · rfl
        · exact absurd impossible (List.cons_ne_nil _ _)
  · rw [written] at member
    rcases List.mem_cons.mp member with impossible | member
    · exact absurd impossible (by decide)
    · rcases List.mem_cons.mp member with impossible | member
      · exact absurd impossible (by decide)
      · exact absurd member (quote_not_mem_hexText _)

theorem Guarded.append {front back : Text} (left : Guarded front) (right : Guarded back) :
    Guarded (front ++ back) := by
  intro before after split
  rcases List.append_eq_append_iff.mp split with ⟨between, rfl, remains⟩ | ⟨between, frontEq, remains⟩
  · rw [List.getLast?_append, right between after remains]
    rfl
  · cases between with
    | nil =>
        have impossible := right [] after (by rw [List.nil_append, remains, List.nil_append])
        cases impossible
    | cons quote between =>
        obtain rfl := (List.cons.inj remains).1
        exact left before between frontEq

theorem guarded_of_not_mem {text : Text} (absent : '"' ∉ text) : Guarded text := by
  rintro before after rfl
  exact absurd (List.mem_append_right before List.mem_cons_self) absent

theorem guarded_escaped (text : Text) : Guarded (escaped text) := by
  induction text with
  | nil => exact guarded_of_not_mem List.not_mem_nil
  | cons char text inductionHypothesis =>
      have here : Guarded (escapeChar char) := fun _ _ => getLast?_of_escapeChar_eq
      exact here.append inductionHypothesis

/-- What follows a character other than the backslash is guarded by itself. -/
theorem Guarded.right {front back : Text} {char : Char} (guarded : Guarded (front ++ char :: back))
    (other : char ≠ '\\') : Guarded back := by
  intro before after split
  have last := guarded (front ++ char :: before) after (by rw [split, List.append_assoc, List.cons_append])
  rw [List.getLast?_append, List.getLast?_cons] at last
  cases ends : before.getLast? with
  | none =>
      rw [ends] at last
      exact absurd (Option.some.inj last) other
  | some final =>
      rw [ends] at last
      exact last

theorem guarded_escape (letter : Char) : Guarded ['\\', letter] := by
  intro before after split
  rcases List.cons_eq_append_iff.mp split with ⟨_, impossible⟩ | ⟨before, rfl, letterEq⟩
  · exact absurd (List.cons.inj impossible).1 (by decide)
  · rcases List.append_eq_singleton_iff.mp letterEq.symm with ⟨rfl, _⟩ | ⟨_, impossible⟩
    · rfl
    · exact absurd impossible (List.cons_ne_nil _ _)

/-- Only digits stand among the digits of a code unit. -/
theorem not_mem_of_unit? {char first second third fourth : Char} {code : Nat}
    (read : unit? first second third fourth = some code) (noDigit : hexValue? char = none) :
    char ∉ [first, second, third, fourth] := by
  obtain ⟨_, firstDigit, read⟩ := Option.bind_eq_some_iff.mp read
  obtain ⟨_, secondDigit, read⟩ := Option.bind_eq_some_iff.mp read
  obtain ⟨_, thirdDigit, read⟩ := Option.bind_eq_some_iff.mp read
  obtain ⟨_, fourthDigit, _⟩ := Option.bind_eq_some_iff.mp read
  intro member
  simp only [List.mem_cons, List.not_mem_nil, or_false] at member
  rcases member with rfl | rfl | rfl | rfl
  · exact Option.some_ne_none _ (firstDigit.symm.trans noDigit)
  · exact Option.some_ne_none _ (secondDigit.symm.trans noDigit)
  · exact Option.some_ne_none _ (thirdDigit.symm.trans noDigit)
  · exact Option.some_ne_none _ (fourthDigit.symm.trans noDigit)

/-- What is read as a quoted text is guarded up to the closing quote. -/
theorem exists_guarded_of_pieces? {text rest : Text} {pieces : List Piece}
    (read : pieces? text = some (pieces, rest)) : ∃ body, text = body ++ '"' :: rest ∧ Guarded body := by
  fun_induction pieces? text generalizing pieces rest with
  | case1 => cases read
  | case2 others =>
      cases read
      exact ⟨[], rfl, guarded_of_not_mem List.not_mem_nil⟩
  | case3 first second third fourth others inductionHypothesis =>
      obtain ⟨_, digits, read⟩ := Option.bind_eq_some_iff.mp read
      obtain ⟨⟨more, ends⟩, deeper, same⟩ := Option.bind_eq_some_iff.mp read
      cases same
      obtain ⟨body, rfl, guarded⟩ := inductionHypothesis deeper
      have unitGuarded := (guarded_escape 'u').append (guarded_of_not_mem (not_mem_of_unit? digits rfl))
      exact ⟨['\\', 'u', first, second, third, fourth] ++ body, rfl, unitGuarded.append guarded⟩
  | case4 letter others _ inductionHypothesis =>
      obtain ⟨_, _, read⟩ := Option.bind_eq_some_iff.mp read
      obtain ⟨⟨more, ends⟩, deeper, same⟩ := Option.bind_eq_some_iff.mp read
      cases same
      obtain ⟨body, rfl, guarded⟩ := inductionHypothesis deeper
      exact ⟨['\\', letter] ++ body, rfl, (guarded_escape letter).append guarded⟩
  | case5 => cases read
  | case6 char others quote _ _ _ inductionHypothesis =>
      obtain ⟨⟨more, ends⟩, deeper, same⟩ := Option.bind_eq_some_iff.mp read
      cases same
      obtain ⟨body, rfl, guarded⟩ := inductionHypothesis deeper
      have bare : '"' ∉ [char] := fun member => quote (List.mem_singleton.mp member).symm
      exact ⟨[char] ++ body, rfl, (guarded_of_not_mem bare).append guarded⟩

end Json
end FeedDesk
