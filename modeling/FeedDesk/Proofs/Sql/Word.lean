import FeedDesk.Sql.Command
import Mathlib.Data.List.TakeWhile

namespace FeedDesk
namespace Sql

/-!
# The names of savepoints are words

A savepoint is named by a word of the statement that opens it.  Whether a text
can be read as one word is told by its characters alone: the first is no blank
and begins a word, and the others may stand inside one.  Such a text is read as
the same word wherever a statement ends with it.  Hence a savepoint that was
opened by one statement can be released by another one.
-/

/-- The text is read as one word. -/
def IsWord : Text → Prop
  | [] => False
  | first :: rest =>
    Text.isBlankChar first = false ∧ Token.isWordStart first = true ∧ rest.all Token.isWordPart = true

/-! ## The words of a statement -/

namespace Token

theorem isWord_of_first? {char : Char} {text word rest : Text} (solid : Text.isBlankChar char = false)
    (found : first? char text = some (.word word, rest)) : IsWord word := by
  unfold first? at found
  split at found
  · obtain ⟨_, _, impossible⟩ := Option.map_eq_some_iff.mp found
    cases impossible
  · split at found
    · cases found
    · split at found
      · cases found
      · split at found
        · rename_i starts
          have shape : IsWord (char :: text.takeWhile isWordPart) := ⟨solid, starts, List.all_takeWhile⟩
          dsimp only at found
          split at found
          · rename_i alone _
            split at found
            · obtain ⟨_, _, found⟩ := Option.bind_eq_some_iff.mp found
              obtain ⟨_, _, impossible⟩ := Option.bind_eq_some_iff.mp found
              cases impossible
            · cases found
              exact shape
          · cases found
            exact shape
        · cases found

theorem isWord_of_all? {fuel offset : Nat} {text : Text} {tokens : List Placed}
    (read : all? fuel offset text = some tokens) {placed : Placed} (member : placed ∈ tokens) {word : Text}
    (same : placed.token = .word word) : IsWord word := by
  induction fuel generalizing offset text tokens with
  | zero =>
      cases text with
      | nil =>
          cases read
          cases member
      | cons char text => cases read
  | succ fuel inductionHypothesis =>
      cases text with
      | nil =>
          cases read
          cases member
      | cons char text =>
          rw [all?] at read
          split at read
          · exact inductionHypothesis read member
          · rename_i solid
            obtain ⟨⟨token, rest⟩, found, read⟩ := Option.bind_eq_some_iff.mp read
            obtain ⟨later, deeper, joined⟩ := Option.bind_eq_some_iff.mp read
            cases joined
            rcases List.mem_cons.mp member with rfl | behind
            · change token = .word word at same
              rw [same] at found
              exact isWord_of_first? (Bool.eq_false_iff.mpr solid) found
            · exact inductionHypothesis deeper behind

end Token

theorem exists_placed_of_words? {tokens : List Placed} {words : List Text} (read : words? tokens = some words)
    {word : Text} (member : word ∈ words) : ∃ placed ∈ tokens, placed.token = .word word := by
  induction tokens generalizing words with
  | nil =>
      cases read
      cases member
  | cons placed tokens inductionHypothesis =>
      obtain ⟨offset, token⟩ := placed
      cases token with
      | word first =>
          obtain ⟨others, deeper, rfl⟩ := Option.map_eq_some_iff.mp read
          rcases List.mem_cons.mp member with rfl | later
          · exact ⟨_, List.mem_cons_self, rfl⟩
          · obtain ⟨found, listed, same⟩ := inductionHypothesis deeper later
            exact ⟨found, List.mem_cons_of_mem _ listed, same⟩
      | quoted text => cases read
      | blob bytes => cases read
      | number text => cases read
      | placeholder place => cases read
      | symbol char => cases read

theorem eq_of_lastName? {words : List Text} {name : Text} (found : lastName? words = some name) :
    words = [name] := by
  unfold lastName? at found
  split at found
  · cases found
    rfl
  · cases found

/-- Only the word `SAVEPOINT` with one name behind it opens a savepoint. -/
theorem mem_of_control?_savepoint {words : List Text} {name : Text}
    (read : control? words = some (.control (.savepoint name))) : name ∈ words := by
  cases words with
  | nil => cases read
  | cons verb words =>
      unfold control? at read
      dsimp only at read
      split at read
      · split at read
        · cases read
        · split at read <;> cases read
      · split at read
        · split at read <;> cases read
        · split at read
          · split at read
            · cases read
            · obtain ⟨_, _, read⟩ := Option.bind_eq_some_iff.mp read
              obtain ⟨_, _, impossible⟩ := Option.map_eq_some_iff.mp read
              cases impossible
          · split at read
            · obtain ⟨found, only, same⟩ := Option.map_eq_some_iff.mp read
              cases same
              rw [eq_of_lastName? only]
              exact List.mem_cons_of_mem verb List.mem_cons_self
            · split at read
              · obtain ⟨_, _, impossible⟩ := Option.map_eq_some_iff.mp read
                cases impossible
              · cases read

theorem mem_of_withoutEnd {tokens : List Placed} {placed : Placed} (member : placed ∈ withoutEnd tokens) :
    placed ∈ tokens :=
  List.mem_reverse.mp ((List.dropWhile_suffix _).subset (List.mem_reverse.mp member))

namespace Command

/-- What is read as a command about transactions consists of words. -/
theorem words_of_control {text : Text} {control : Control} (read : ofText text = .ok (.control control)) :
    ∃ words, control? words = some (.control control) ∧ ∀ word ∈ words, IsWord word := by
  unfold ofText at read
  split at read
  · rename_i command found
    cases read
    obtain ⟨tokens, cut, parsed⟩ := Option.bind_eq_some_iff.mp found
    obtain ⟨all, tokenized, rfl⟩ := Option.map_eq_some_iff.mp cut
    unfold ofTokens? at parsed
    split at parsed
    · rename_i offset first rest shape
      split at parsed
      · split at parsed <;> cases parsed
      · split at parsed
        · cases parsed
        · obtain ⟨words, plain, known⟩ := Option.bind_eq_some_iff.mp parsed
          refine ⟨words, known, fun word member => ?_⟩
          obtain ⟨placed, listed, same⟩ := exists_placed_of_words? plain member
          exact Token.isWord_of_all? tokenized (mem_of_withoutEnd listed) same
    · cases parsed
  · cases read

theorem isWord_of_savepoint {text name : Text} (read : ofText text = .ok (.control (.savepoint name))) :
    IsWord name := by
  obtain ⟨words, known, spelled⟩ := words_of_control read
  exact spelled name (mem_of_control?_savepoint known)

end Command

/-! ## Releasing a savepoint of a given name -/

namespace Token

theorem first?_of_isWord {first : Char} {rest : Text} (word : IsWord (first :: rest)) :
    first? first rest = some (.word (first :: rest), []) := by
  obtain ⟨_, starts, parts⟩ := word
  -- Quotes, digits and placeholders are looked for first, but they all lie below the letters.
  have table : ∀ code < 0x40, isWordStart (Char.ofNat code) = false := by decide
  have high : 0x40 ≤ first.toNat := by
    refine Nat.not_lt.mp fun low => ?_
    have other := table first.toNat low
    rw [Char.ofNat_toNat, starts] at other
    cases other
  have different : ∀ other : Char, other.toNat < 0x40 → (first == other) = false := by
    refine fun other low => beq_eq_false_iff_ne.mpr fun same => ?_
    rw [same] at high
    exact Nat.not_le.mpr low high
  have quote := different '\'' (by decide)
  have place := different '?' (by decide)
  have digit : Text.isAsciiDigit first = false := by
    refine Bool.eq_false_iff.mpr fun digit => ?_
    have low : first.toNat ≤ 0x39 := of_decide_eq_true (Bool.and_eq_true_iff.mp digit).2
    exact absurd (Nat.le_trans high low) (by decide)
  have whole : rest.takeWhile isWordPart = rest := List.takeWhile_eq_self_iff.mpr (List.all_eq_true.mp parts)
  have nothing : rest.dropWhile isWordPart = [] := List.dropWhile_eq_nil_iff.mpr (List.all_eq_true.mp parts)
  unfold first?
  rw [quote, place, digit, starts]
  dsimp only
  rw [whole, nothing]
  cases rest <;> rfl

theorem ofText?_release {name : Text} (word : IsWord name) :
    ∃ offset, ofText? ("RELEASE " ++ name) = some [⟨0, .word "RELEASE"⟩, ⟨offset, .word name⟩] := by
  cases name with
  | nil => cases word
  | cons first rest =>
      have verb : first? 'R' ("ELEASE " ++ first :: rest) = some (.word "RELEASE", ' ' :: first :: rest) := rfl
      have last := first?_of_isWord word
      obtain ⟨solid, _, _⟩ := word
      apply Exists.intro
      change all? (rest.length + 9) 0 ('R' :: ("ELEASE " ++ first :: rest)) = _
      rw [all?, if_neg (by decide), verb]
      change (all? (rest.length + 8) _ (' ' :: first :: rest)).bind _ = _
      rw [all?, if_pos (by decide), all?, if_neg (Bool.eq_false_iff.mp solid), last]
      rfl

end Token

theorem Command.ofText_release {name : Text} (word : IsWord name) :
    ofText ("RELEASE " ++ name) = .ok (.control (.release name)) := by
  obtain ⟨offset, tokens⟩ := Token.ofText?_release word
  rw [ofText, tokens]
  rfl

end Sql
end FeedDesk
