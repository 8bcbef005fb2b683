import FeedDesk.Proofs.Text.Folding

namespace FeedDesk
namespace Text

/-!
# Words that stand by themselves

The search for a word goes on behind an occurrence that is attached to other
letters, so in general it may pass over a later one that overlaps it.  That
cannot happen to a word whose inner gaps never restart it, and for such words
the search decides exactly whether the word stands somewhere with no letter
or number touching it.
-/

/-- The word stands somewhere in the text and neither neighbour is a letter or
a number. -/
def StandsIn (word text : Text) : Prop :=
  ∃ before after, text = before ++ word ++ after ∧ standsAlone before.getLast? after.head? = true

theorem standsAlone_iff {before after : Option Char} :
    standsAlone before after = true ↔
      before.any isAlphanumeric = false ∧ after.any isAlphanumeric = false := by
  rw [standsAlone, Bool.and_eq_true, Bool.not_eq_true', Bool.not_eq_true']

/-- No second occurrence begins inside the word behind a gap. -/
def Unbroken (word : Text) : Prop :=
  ∀ count < word.length, 0 < count →
    (word.take count).getLast?.any isAlphanumeric = false → ¬ word.drop count <+: word

instance (word : Text) : Decidable (Unbroken word) :=
  inferInstanceAs (Decidable (∀ count < word.length, 0 < count →
    (word.take count).getLast?.any isAlphanumeric = false → ¬ word.drop count <+: word))

/-- The two occurrences overlap, so the second one begins behind a letter. -/
theorem Unbroken.overlap {word : Text} (unbroken : Unbroken word) {char : Char}
    {front rest after : Text} (short : front.length < word.length - 1)
    (first : char :: (front ++ (word ++ after)) = word ++ rest) :
    (char :: front).getLast?.any isAlphanumeric = true := by
  have split : (char :: front) ++ (word ++ after) = word ++ rest := first
  have lengths : (char :: front).length < word.length := by
    rw [List.length_cons]
    omega
  have frontEq : word.take (char :: front).length = char :: front := by
    have taken := congrArg (List.take (char :: front).length) split
    rw [List.take_left, List.take_append_of_le_length (Nat.le_of_lt lengths)] at taken
    exact taken.symm
  have dropped := congrArg (List.drop (char :: front).length) split
  rw [List.drop_left, List.drop_append_of_le_length (Nat.le_of_lt lengths)] at dropped
  cases letter : (char :: front).getLast?.any isAlphanumeric with
  | true => rfl
  | false =>
      refine absurd ?_ (unbroken _ lengths (Nat.succ_pos _) ?_)
      · refine List.prefix_of_prefix_length_le ⟨rest, dropped.symm⟩ (List.prefix_append word after) ?_
        rw [List.length_drop]
        omega
      · rw [frontEq]
        exact letter

/-- What the search finds when some characters are to be passed over first. -/
theorem hasWordFrom_iff {word : Text} (nonempty : word ≠ []) (unbroken : Unbroken word)
    {skipped : Nat} {before : Option Char} {text : Text} :
    hasWordFrom word skipped before text = true ↔
      ∃ front after, text = front ++ (word ++ after) ∧ skipped ≤ front.length ∧
        standsAlone (front.getLast?.or before) after.head? = true := by
  induction text generalizing skipped before with
  | nil =>
      rw [hasWordFrom]
      constructor
      · intro impossible
        cases impossible
      · rintro ⟨front, after, split, _⟩
        have empty := (List.append_eq_nil_iff.mp (List.append_eq_nil_iff.mp split.symm).2).1
        exact absurd empty nonempty
  | cons char text inductionHypothesis =>
      have moved : ∀ (front : Text) (after : Option Char),
          standsAlone (front.getLast?.or (some char)) after =
            standsAlone ((char :: front).getLast?.or before) after := by
        intro front after
        cases front with
        | nil => rfl
        | cons next front => rw [List.getLast?_cons_cons, List.getLast?_cons, Option.some_or, Option.some_or]
      cases skipped with
      | succ skipped =>
          rw [hasWordFrom, inductionHypothesis]
          constructor
          · rintro ⟨front, after, rfl, enough, alone⟩
            exact ⟨char :: front, after, rfl, Nat.succ_le_succ enough, (moved front _).symm.trans alone⟩
          · rintro ⟨front, after, split, enough, alone⟩
            cases front with
            | nil => exact absurd enough (Nat.not_succ_le_zero _)
            | cons other front =>
                cases split
                exact ⟨front, after, rfl, Nat.le_of_succ_le_succ enough, (moved front _).trans alone⟩
      | zero =>
          rw [hasWordFrom]
          cases stripped : strip? word (char :: text) with
          | none =>
              simp only [inductionHypothesis]
              constructor
              · rintro ⟨front, after, rfl, _, alone⟩
                exact ⟨char :: front, after, rfl, Nat.zero_le _, (moved front _).symm.trans alone⟩
              · rintro ⟨front, after, split, _, alone⟩
                cases front with
                | nil =>
                    have here : char :: text = word ++ after := split
                    rw [strip?_eq_some_iff.mpr here] at stripped
                    cases stripped
                | cons other front =>
                    cases split
                    exact ⟨front, after, rfl, Nat.zero_le _, (moved front _).trans alone⟩
          | some rest =>
              have here := strip?_eq_some_iff.mp stripped
              simp only [Bool.or_eq_true, inductionHypothesis]
              constructor
              · rintro (alone | ⟨front, after, rfl, _, alone⟩)
                · exact ⟨[], rest, here, Nat.zero_le _, alone⟩
                · exact ⟨char :: front, after, rfl, Nat.zero_le _, (moved front _).symm.trans alone⟩
              · rintro ⟨front, after, split, _, alone⟩
                cases front with
                | nil =>
                    have same : after = rest := List.append_cancel_left (split.symm.trans here)
                    exact Or.inl (same ▸ alone)
                | cons other front =>
                    cases split
                    rw [← moved] at alone
                    by_cases enough : word.length - 1 ≤ front.length
                    · exact Or.inr ⟨front, after, rfl, enough, alone⟩
                    · have letter := unbroken.overlap (Nat.lt_of_not_le enough) here
                      rw [moved front after.head?] at alone
                      rw [List.getLast?_cons, Option.some_or] at alone
                      rw [List.getLast?_cons] at letter
                      rw [(standsAlone_iff.mp alone).1] at letter
                      cases letter

theorem hasWord_iff {word text : Text} (nonempty : word ≠ []) (unbroken : Unbroken word) :
    hasWord word text = true ↔ StandsIn word text := by
  rw [hasWord, hasWordFrom_iff nonempty unbroken]
  constructor
  · rintro ⟨before, after, split, _, alone⟩
    rw [Option.or_none] at alone
    exact ⟨before, after, by rw [split, List.append_assoc], alone⟩
  · rintro ⟨before, after, split, alone⟩
    refine ⟨before, after, by rw [split, List.append_assoc], Nat.zero_le _, ?_⟩
    rw [Option.or_none]
    exact alone

/-- Whether a word without sigmas stands by itself may be decided on the lower
cases of the single characters. -/
theorem standsIn_lower_iff {word text : Text} (free : Sigmaless word) :
    StandsIn word text.lower ↔ StandsIn word (lowerEach text) := by
  have moved : ∀ {left right : Text}, SameUpToSigma left right → StandsIn word left →
      StandsIn word right := by
    rintro left right same ⟨before, after, split, alone⟩
    rcases same.exists_append free split with ⟨front, back, split, frontSame, backSame⟩
    refine ⟨front, back, split, ?_⟩
    rw [standsAlone_iff] at alone ⊢
    exact ⟨frontSame.any_getLast? ▸ alone.1, backSame.any_head? ▸ alone.2⟩
  exact ⟨moved (sameUpToSigma_lower text), moved (sameUpToSigma_lower text).symm⟩

end Text
end FeedDesk
