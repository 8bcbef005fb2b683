import FeedDesk.Proofs.Language.Tokens

namespace FeedDesk
namespace Language
namespace Arabizi

open Text

/-!
# What words do to the verdict

The verdict counts tokens: the known words, the tokens that speak for Arabic,
and all of them.  Counts do not see the order of the tokens.  A known word is
counted three times over, and since two fifths are less than one it never lowers
the share of the speaking tokens.  A token that does not speak is counted only
once, among all of them, so it can only lower that share.

What is added is a list of words here, because a list of one word is no easier;
and it is added to the tokens of a text, in whatever way the text itself is
changed.
-/

/-- The token is one of those that speak for Arabic. -/
def speaks (token : Text) : Bool :=
  isKnownWord token || hasSoundDigit token

theorem judge_eq_arabic_iff {tokens : List Text} :
    judge tokens = some .arabic ↔
      0 < tokens.countP isKnownWord ∧ leastHits ≤ tokens.countP speaks ∧
        2 * tokens.length ≤ 5 * tokens.countP speaks := by
  have speaking : (tokens.countP fun token => isKnownWord token || hasSoundDigit token) = tokens.countP speaks := rfl
  rw [judge, speaking]
  by_cases none : tokens.isEmpty = true
  · rw [if_pos none, List.isEmpty_iff.mp none]
    simp
  · rw [if_neg none]
    dsimp only
    split
    · rename_i wordless
      simp [wordless]
    · rename_i spoken
      split
      · rename_i enough
        exact iff_of_true rfl ⟨Nat.pos_of_ne_zero spoken, enough⟩
      · rename_i few
        simp [few]

theorem judge_perm {tokens others : List Text} (same : tokens.Perm others) : judge tokens = judge others := by
  have nothing : tokens.isEmpty = others.isEmpty := same.isEmpty_eq
  unfold judge
  rw [nothing, same.length_eq, same.countP_eq, same.countP_eq]

section Added

variable {added tokens : List Text}

/-- Known words leave a verdict for Arabic as it is. -/
theorem judge_append_of_known (known : ∀ word ∈ added, isKnownWord word = true)
    (arabic : judge tokens = some .arabic) : judge (added ++ tokens) = some .arabic := by
  have speaking : ∀ word ∈ added, speaks word = true := by
    intro word member
    rw [speaks, known word member, Bool.true_or]
  have allKnown := List.countP_eq_length.mpr known
  have allSpeak := List.countP_eq_length.mpr speaking
  obtain ⟨words, hits, share⟩ := judge_eq_arabic_iff.mp arabic
  rw [judge_eq_arabic_iff, List.countP_append, List.countP_append, List.length_append, allKnown, allSpeak]
  omega

/-- Words that do not speak for Arabic do not make a verdict for it. -/
theorem judge_of_append_silent (silent : ∀ word ∈ added, isKnownWord word = false ∧ hasSoundDigit word = false)
    (arabic : judge (added ++ tokens) = some .arabic) : judge tokens = some .arabic := by
  have noneKnown : added.countP isKnownWord = 0 :=
    List.countP_eq_zero.mpr fun word member => Bool.eq_false_iff.mp (silent word member).1
  have noneSpeak : added.countP speaks = 0 := by
    refine List.countP_eq_zero.mpr fun word member => ?_
    rw [speaks, (silent word member).1, (silent word member).2]
    exact Bool.false_ne_true
  rw [judge_eq_arabic_iff, List.countP_append, List.countP_append, List.length_append, noneKnown,
    noneSpeak] at arabic
  rw [judge_eq_arabic_iff]
  omega

end Added

/-- Without a known word there is no verdict for Arabic. -/
theorem judge_ne_arabic_of_unknown {tokens : List Text} (unknown : ∀ word ∈ tokens, isKnownWord word = false) :
    judge tokens ≠ some .arabic := by
  intro arabic
  have none : tokens.countP isKnownWord = 0 :=
    List.countP_eq_zero.mpr fun word member => Bool.eq_false_iff.mp (unknown word member)
  exact absurd none (Nat.ne_of_gt (judge_eq_arabic_iff.mp arabic).1)

/-- The verdict on a text depends on its tokens alone, which are the maximal runs
of basic letters and digits of its lower case that hold a letter, and not on
their order.  So it is the same for texts of the same words, whatever divides
the words.  Known words that are added leave a verdict for Arabic as it is;
words that are neither known nor begin with a letter and hold a sound digit do
not bring it about; and without a known word there is none. -/
theorem verdict_by_words :
    (∀ text, ∃ runs, Runs isAsciiAlphanumeric (lower text) runs ∧
      tokens text = runs.filter fun run => run.any isAsciiLetter) ∧
    (∀ text other, (tokens text).Perm (tokens other) → identify text = identify other) ∧
    (∀ words others gap mark, SameWords words others → gap ≠ [] → (∀ char ∈ gap, Separates char) →
      mark ≠ [] → (∀ char ∈ mark, Separates char) →
        identify (joined gap words) = identify (joined mark others)) ∧
    (∀ text longer added, (tokens longer).Perm (added ++ tokens text) →
      (∀ word ∈ added, isKnownWord word = true) →
        identify text = some .arabic → identify longer = some .arabic) ∧
    (∀ text longer added, (tokens longer).Perm (added ++ tokens text) →
      (∀ word ∈ added, isKnownWord word = false ∧ hasSoundDigit word = false) →
        identify text ≠ some .arabic → identify longer ≠ some .arabic) ∧
    ∀ text, (∀ word ∈ tokens text, isKnownWord word = false) → identify text ≠ some .arabic := by
  refine ⟨fun text => ⟨_, runs_splitBy isAsciiAlphanumeric (lower text), ?_⟩, fun text other => judge_perm, ?_, ?_,
    ?_, fun text => judge_ne_arabic_of_unknown⟩
  · exact tokens_eq_filter_runs text
  · intro words others gap mark same gapSome gapSeparates markSome markSeparates
    apply judge_perm
    rw [tokens_joined gapSome gapSeparates, tokens_joined markSome markSeparates]
    exact same.perm_tokens
  · intro text longer added more known arabic
    rw [identify, judge_perm more]
    exact judge_append_of_known known arabic
  · intro text longer added more silent other arabic
    rw [identify, judge_perm more] at arabic
    exact other (judge_of_append_silent silent arabic)

/-- Questions about cattle and their price, and one that holds product codes. -/
theorem verdict_by_words_questions :
    SameWords ["wein", "el", "ba2ar"] ["7", "WEIN", "ba2ar", "el"] ∧
      identify "wein el ba2ar" = identify "7? WEIN? ba2ar? el" ∧
      isKnownWord "kam" = true ∧ identify "wein kam el ba2ar" = some .arabic ∧
      isKnownWord "price" = false ∧ hasSoundDigit "price" = false ∧
      identify "wein el baqar" ≠ some .arabic ∧ identify "wein price el baqar" ≠ some .arabic ∧
      (∀ word ∈ tokens "Compare a2 and a3 barley", isKnownWord word = false) ∧
      identify "Compare a2 and a3 barley" ≠ some .arabic := by
  obtain ⟨_, _, rewritten, known, silent, unknown⟩ := verdict_by_words
  have blank : Separates ' ' := by decide +kernel
  have mark : Separates '?' := by decide +kernel
  have marks : ∀ char ∈ String.toList "? ", Separates char :=
    List.forall_mem_cons.mpr ⟨mark, List.forall_mem_singleton.mpr blank⟩
  have words : SameWords ["wein", "el", "ba2ar"] ["7", "WEIN", "ba2ar", "el"] := by
    have capitals : SameButForCase "wein" "WEIN" := by decide +kernel
    have seven : ∀ char ∈ String.toList "7", isAsciiDigit char = true := List.forall_mem_singleton.mpr rfl
    have number : SameWords ["7", "WEIN", "ba2ar", "el"] ["WEIN", "ba2ar", "el"] := .numbered seven _
    exact (SameWords.recased capitals (.swapped _ _ _)).trans number.symm
  have same := rewritten _ _ " " "? " words (by decide) (List.forall_mem_singleton.mpr blank) (by decide) marks
  have arabic : identify "wein el ba2ar" = some .arabic := by decide +kernel
  have other : identify "wein el baqar" ≠ some .arabic := by decide +kernel
  have kam : tokens "kam" = ["kam"] := by decide +kernel
  have price : tokens "price" = ["price"] := by decide +kernel
  have more := tokens_insert "wein" "kam" "el ba2ar" blank blank
  have less := tokens_insert "wein" "price" "el baqar" blank blank
  rw [kam] at more
  rw [price] at less
  have codes : ∀ word ∈ tokens "Compare a2 and a3 barley", isKnownWord word = false := by decide +kernel
  refine ⟨words, same, by decide, ?_, by decide, by decide, other, ?_, codes, unknown _ codes⟩
  · exact known _ _ _ more (by decide) arabic
  · exact silent _ _ _ less (by decide) other

end Arabizi
end Language
end FeedDesk
