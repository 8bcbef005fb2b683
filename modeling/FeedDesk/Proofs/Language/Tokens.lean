import FeedDesk.Language.Arabizi
import FeedDesk.Proofs.Text.Cutting
import FeedDesk.Proofs.Text.LetterCase
import Mathlib.Data.List.Basic

namespace FeedDesk

/-!
# The tokens of a text

A text is cut at every character that is no basic letter or digit, and what is
left between the cuts are the maximal runs of basic letters and digits.  A run
with a letter in it is a token.

Everything about tokens follows from one equation: a separator cuts a text into
two that have their tokens to themselves.  It holds of the lower case as well,
although lower case looks at the neighbours of a sigma, because a sigma is no
basic letter in any form.  So words may be put in another order, written in
another case, divided by other marks and mixed with numbers: the tokens are the
same but for their order.
-/

namespace Text

/-- The maximal runs of a class of characters, in order. -/
inductive Runs (inside : Char → Bool) : Text → List Text → Prop
  | done : Runs inside [] []
  | outside {char : Char} {text : Text} {runs : List Text} (separates : inside char = false)
      (behind : Runs inside text runs) : Runs inside (char :: text) runs
  | run {run text : Text} {runs : List Text} (nonempty : run ≠ []) (all : ∀ char ∈ run, inside char = true)
      (maximal : text.head?.any inside = false) (behind : Runs inside text runs) :
      Runs inside (run ++ text) (run :: runs)

/-! ## Cutting at separators -/

section Split

theorem splitBy_ne_nil (separates : Char → Bool) (text : Text) : splitBy separates text ≠ [] := by
  cases text with
  | nil => exact List.cons_ne_nil _ _
  | cons char text =>
      rw [splitBy]
      split
      · exact List.cons_ne_nil _ _
      · split <;> exact List.cons_ne_nil _ _

variable {separates : Char → Bool}

theorem splitBy_append_cons (front : Text) {char : Char} (back : Text) (cuts : separates char = true) :
    splitBy separates (front ++ char :: back) = splitBy separates front ++ splitBy separates back := by
  induction front with
  | nil =>
      have here : splitBy separates (char :: back) = [] :: splitBy separates back := by
        rw [splitBy.eq_def]
        exact if_pos cuts
      exact here
  | cons first front inductionHypothesis =>
      obtain ⟨run, runs, whole⟩ := List.exists_cons_of_ne_nil (splitBy_ne_nil separates front)
      rw [List.cons_append, splitBy, splitBy, inductionHypothesis, whole, List.cons_append]
      split <;> rfl

theorem splitBy_of_inside {text : Text} (inside : ∀ char ∈ text, separates char = false) :
    splitBy separates text = [text] := by
  induction text with
  | nil => rfl
  | cons char text inductionHypothesis =>
      rw [List.forall_mem_cons] at inside
      rw [splitBy, inside.1, inductionHypothesis inside.2]
      rfl

/-- What is left between the cuts does not depend on the separators. -/
theorem splitBy_map {change : Char → Char} (fixes : ∀ char, separates char = false → change char = char)
    (keeps : ∀ char, separates (change char) = separates char) (text : Text) :
    splitBy separates (text.map change) = splitBy separates text := by
  induction text with
  | nil => rfl
  | cons char text inductionHypothesis =>
      rw [List.map_cons, splitBy, splitBy, inductionHypothesis, keeps]
      cases cuts : separates char with
      | true => rfl
      | false => rw [fixes char cuts]

end Split

/-- Inside characters in front of a text that begins outside are a run, if there
are any. -/
theorem Runs.in_front {inside : Char → Bool} {run text : Text} {runs : List Text}
    (all : ∀ char ∈ run, inside char = true) (maximal : text.head?.any inside = false)
    (behind : Runs inside text runs) : Runs inside (run ++ text) ([run].filter (fun run => !run.isEmpty) ++ runs) := by
  cases run with
  | nil => exact behind
  | cons char run => exact .run (List.cons_ne_nil char run) all maximal behind

/-- Cutting gives the runs between the separators, and empty texts besides. -/
theorem runs_splitBy (inside : Char → Bool) (text : Text) :
    Runs inside text ((splitBy (fun char => !inside char) text).filter fun run => !run.isEmpty) := by
  induction counted : text.length using Nat.strongRecOn generalizing text with
  | ind size inductionHypothesis =>
      have parts : text.takeWhile inside ++ text.dropWhile inside = text := List.takeWhile_append_dropWhile
      have all : ∀ char ∈ text.takeWhile inside, inside char = true := by
        intro char member
        exact List.all_eq_true.mp List.all_takeWhile char member
      have first : splitBy (fun char => !inside char) (text.takeWhile inside) = [text.takeWhile inside] :=
        splitBy_of_inside fun char member => by rw [all char member]; rfl
      cases rest : text.dropWhile inside with
      | nil =>
          rw [rest, List.append_nil] at parts
          have whole := Runs.in_front all rfl .done
          simp only [List.append_nil, ← first] at whole
          rwa [parts] at whole
      | cons char behind =>
          have outside : inside char = false := by
            have stopped := List.head?_dropWhile_not inside text
            rwa [rest] at stopped
          have maximal : (char :: behind).head?.any inside = false := outside
          have cuts : (!inside char) = true := by rw [outside]; rfl
          rw [rest] at parts
          have shorter : behind.length < size := by
            rw [← counted, ← parts, List.length_append, List.length_cons]
            omega
          have later := Runs.outside outside (inductionHypothesis _ shorter behind rfl)
          have whole := Runs.in_front all maximal later
          rwa [← first, ← List.filter_append, ← splitBy_append_cons _ _ cuts, parts] at whole

end Text

namespace Language
namespace Arabizi

open Text

/-- The tokens of a text that is in lower case. -/
def tokensIn (text : Text) : List Text :=
  (text.splitBy fun char => !isAsciiAlphanumeric char).filter fun token => token.any isAsciiLetter

/-- A run with a letter is not empty, so tokens are found among the runs. -/
theorem tokens_eq_filter_runs (text : Text) :
    tokens text = (((lower text).splitBy fun char => !isAsciiAlphanumeric char).filter fun run =>
      !run.isEmpty).filter fun run => run.any isAsciiLetter := by
  rw [List.filter_filter]
  refine List.filter_congr fun run _ => ?_
  cases run with
  | nil => rfl
  | cons char run => exact (Bool.and_true _).symm

theorem tokensIn_append_cons (front : Text) {char : Char} (back : Text)
    (separates : isAsciiAlphanumeric char = false) :
    tokensIn (front ++ char :: back) = tokensIn front ++ tokensIn back := by
  unfold tokensIn
  rw [splitBy_append_cons front back (by rw [separates]; rfl), List.filter_append]

theorem tokensIn_append_gap (front : Text) {gap : Text} (back : Text) (nonempty : gap ≠ [])
    (separates : ∀ char ∈ gap, isAsciiAlphanumeric char = false) :
    tokensIn (front ++ (gap ++ back)) = tokensIn front ++ tokensIn back := by
  induction gap generalizing front with
  | nil => exact absurd rfl nonempty
  | cons char gap inductionHypothesis =>
      rw [List.forall_mem_cons] at separates
      rw [List.cons_append, tokensIn_append_cons front _ separates.1]
      cases gap with
      | nil => rfl
      | cons next gap =>
          have rest := inductionHypothesis [] (List.cons_ne_nil next gap) separates.2
          rw [List.nil_append] at rest
          rw [rest]
          rfl

theorem isAsciiAlphanumeric_medial (char : Char) :
    isAsciiAlphanumeric (medial char) = isAsciiAlphanumeric char := by
  unfold medial
  split
  · rename_i final
    rw [final]
    decide
  · rfl

/-- Tokens are found in the lower cases of the characters. -/
theorem tokens_eq (text : Text) : tokens text = tokensIn (lowerEach text) := by
  have fixes : ∀ char, (!isAsciiAlphanumeric char) = false → medial char = char := by
    intro char inside
    refine if_neg fun final => ?_
    rw [final] at inside
    exact absurd inside (by decide)
  have keeps : ∀ char, (!isAsciiAlphanumeric (medial char)) = !isAsciiAlphanumeric char := by
    intro char
    rw [isAsciiAlphanumeric_medial]
  have same : text.lower.map medial = (lowerEach text).map medial := sameUpToSigma_lower text
  unfold tokens tokensIn
  rw [← splitBy_map fixes keeps text.lower, same, splitBy_map fixes keeps]

/-- A character whose lower case holds no basic letter or digit. -/
def Separates (char : Char) : Prop :=
  ∀ written ∈ lowerOne char, isAsciiAlphanumeric written = false

instance (char : Char) : Decidable (Separates char) :=
  List.decidableBAll (fun written => isAsciiAlphanumeric written = false) (lowerOne char)

/-- What stands on the two sides of a separator has its tokens to itself. -/
theorem tokens_append_cons (front : Text) {char : Char} (back : Text) (separates : Separates char) :
    tokens (front ++ char :: back) = tokens front ++ tokens back := by
  rw [tokens_eq, tokens_eq, tokens_eq, lowerEach_append, lowerEach_cons,
    tokensIn_append_gap _ _ (lowerOne_ne_nil char) separates]

/-- A word between two separators adds its tokens to those of the text. -/
theorem tokens_insert (front word back : Text) {first second : Char} (firstSeparates : Separates first)
    (secondSeparates : Separates second) :
    (tokens (front ++ first :: (word ++ second :: back))).Perm
      (tokens word ++ tokens (front ++ first :: back)) := by
  rw [tokens_append_cons _ _ firstSeparates, tokens_append_cons _ _ secondSeparates,
    tokens_append_cons _ _ firstSeparates]
  exact List.perm_append_comm_assoc _ _ _

theorem tokens_gap_append {gap : Text} (separate : ∀ char ∈ gap, Separates char) (text : Text) :
    tokens (gap ++ text) = tokens text := by
  induction gap with
  | nil => rfl
  | cons char gap inductionHypothesis =>
      rw [List.forall_mem_cons] at separate
      have cut := tokens_append_cons [] (gap ++ text) separate.1
      rw [List.nil_append] at cut
      rw [List.cons_append, cut, inductionHypothesis separate.2]
      rfl

/-- Pieces that are divided by a gap have their tokens to themselves. -/
theorem tokens_joined {gap : Text} (nonempty : gap ≠ []) (separate : ∀ char ∈ gap, Separates char)
    (pieces : List Text) : tokens (joined gap pieces) = pieces.flatMap tokens := by
  obtain ⟨char, others, rfl⟩ := List.exists_cons_of_ne_nil nonempty
  rw [List.forall_mem_cons] at separate
  induction pieces with
  | nil => rfl
  | cons piece pieces inductionHypothesis =>
      cases pieces with
      | nil => exact (List.append_nil _).symm
      | cons next pieces =>
          rw [joined, List.append_assoc, List.cons_append, tokens_append_cons _ _ separate.1,
            tokens_gap_append separate.2, inductionHypothesis]
          rfl

/-! ## Texts of the same words -/

theorem tokens_eq_of_sameButForCase {left right : Text} (same : SameButForCase left right) :
    tokens left = tokens right := by
  refine same.congr tokens fun text => ?_
  unfold tokens
  rw [lower_asciiLower]

/-- Lower case leaves a digit alone, and it is no letter. -/
theorem lowerOne_of_digit {char : Char} (digit : isAsciiDigit char = true) :
    lowerOne char = [char] ∧ isAsciiLetter char = false := by
  have table : ∀ code < 0x3A, isAsciiDigit (Char.ofNat code) = true →
      lowerOne (Char.ofNat code) = [Char.ofNat code] ∧ isAsciiLetter (Char.ofNat code) = false := by
    decide +kernel
  have code : 0x30 ≤ char.toNat ∧ char.toNat ≤ 0x39 := by
    simp only [isAsciiDigit, Bool.and_eq_true, decide_eq_true_eq, Char.le_def, UInt32.le_iff_toNat_le] at digit
    exact digit
  have here := table char.toNat (Nat.lt_succ_of_le code.2)
  rw [Char.ofNat_toNat] at here
  exact here digit

/-- A bare number has no token. -/
theorem tokens_of_digits {number : Text} (digits : ∀ char ∈ number, isAsciiDigit char = true) :
    tokens number = [] := by
  have same : lowerEach number = number := by
    unfold lowerEach
    rw [List.flatMap_congr fun char member => (lowerOne_of_digit (digits char member)).1]
    exact (List.flatMap_pure_eq_map id number).trans (List.map_id number)
  have inside : ∀ char ∈ number, (!isAsciiAlphanumeric char) = false := by
    intro char member
    rw [isAsciiAlphanumeric, digits char member, Bool.or_true]
    rfl
  have letterless : number.any isAsciiLetter = false :=
    List.any_eq_false.mpr fun char member => Bool.eq_false_iff.mp (lowerOne_of_digit (digits char member)).2
  rw [tokens_eq, same, tokensIn, splitBy_of_inside inside, List.filter_singleton, letterless]
  rfl

/-- The same words: in another order, in another case, and with more or fewer
numbers among them. -/
inductive SameWords : List Text → List Text → Prop
  | nil : SameWords [] []
  | recased {word other : Text} {words others : List Text} (same : SameButForCase word other)
      (behind : SameWords words others) : SameWords (word :: words) (other :: others)
  | swapped (first second : Text) (words : List Text) :
      SameWords (first :: second :: words) (second :: first :: words)
  | numbered {number : Text} (digits : ∀ char ∈ number, isAsciiDigit char = true) (words : List Text) :
      SameWords (number :: words) words
  | symm {words others : List Text} (same : SameWords words others) : SameWords others words
  | trans {words between others : List Text} (same : SameWords words between)
      (next : SameWords between others) : SameWords words others

theorem SameWords.perm_tokens {words others : List Text} (same : SameWords words others) :
    (words.flatMap tokens).Perm (others.flatMap tokens) := by
  induction same with
  | nil => exact List.Perm.refl _
  | recased same _ inductionHypothesis =>
      rw [List.flatMap_cons, List.flatMap_cons, tokens_eq_of_sameButForCase same]
      exact inductionHypothesis.append_left _
  | swapped first second words =>
      simp only [List.flatMap_cons]
      exact List.perm_append_comm_assoc _ _ _
  | numbered digits words =>
      rw [List.flatMap_cons, tokens_of_digits digits]
      exact List.Perm.refl _
  | symm _ inductionHypothesis => exact inductionHypothesis.symm
  | trans _ _ first second => exact first.trans second

end Arabizi
end Language
end FeedDesk
