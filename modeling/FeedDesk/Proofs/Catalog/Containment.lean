import FeedDesk.Catalog.Evaluation
import FeedDesk.Proofs.Text.Lowered

namespace FeedDesk

/-!
# Patterns that mean containment

The condition that a column contains a value is put to the store as a pattern.
The value is lower-cased and every character with a meaning of its own is
escaped, so that the pattern is read as the characters of the value between two
runs of anything.  Such a pattern is matched by exactly the texts that hold the
value.  The store compares basic letters without regard to case; that adds no
match, since neither the pattern nor the lowered column holds a basic capital.
-/

namespace Like

theorem anyEnd_iff {test : Text → Bool} {text : Text} :
    anyEnd test text = true ↔ ∃ back, back <:+ text ∧ test back = true := by
  induction text with
  | nil =>
      rw [anyEnd]
      constructor
      · intro holds
        exact ⟨[], List.suffix_rfl, holds⟩
      · rintro ⟨back, ending, holds⟩
        rwa [List.suffix_nil.mp ending] at holds
  | cons char text inductionHypothesis =>
      rw [anyEnd, Bool.or_eq_true, inductionHypothesis]
      constructor
      · rintro (holds | ⟨back, ending, holds⟩)
        · exact ⟨char :: text, List.suffix_rfl, holds⟩
        · exact ⟨back, ending.trans (List.suffix_cons char text), holds⟩
      · rintro ⟨back, ending, holds⟩
        rcases List.suffix_cons_iff.mp ending with rfl | shorter
        · exact Or.inl holds
        · exact Or.inr ⟨back, shorter, holds⟩

/-! ## Reading a pattern -/

theorem parts?_cons {escape : Option Char} {char : Char} (other : escape ≠ some char) (rest : Text) :
    parts? escape (char :: rest) = (parts? escape rest).map
      ((if char = '%' then .anything else if char = '_' then .oneChar else .exactly char) :: ·) := by
  cases rest with
  | nil => exact if_neg other
  | cons next rest => exact if_neg other

/-- A character that is escaped where it must be stands for itself. -/
theorem parts?_escapedChar (char : Char) (rest : Text) :
    parts? (some '\\') ((if Pattern.isSpecial char then ['\\', char] else [char]) ++ rest) =
      (parts? (some '\\') rest).map (.exactly char :: ·) := by
  cases special : Pattern.isSpecial char with
  | true => rfl
  | false =>
      simp only [Pattern.isSpecial, Bool.or_eq_false_iff, beq_eq_false_iff_ne, ne_eq] at special
      obtain ⟨⟨notPercent, notLine⟩, notEscape⟩ := special
      have other : some '\\' ≠ some char := fun same => notEscape (Option.some.inj same).symm
      rw [if_neg Bool.false_ne_true, List.singleton_append, parts?_cons other]
      simp only [notPercent, notLine, if_false]

theorem parts?_escape_append (value rest : Text) :
    parts? (some '\\') (Pattern.escape value ++ rest) =
      (parts? (some '\\') rest).map (value.map .exactly ++ ·) := by
  induction value with
  | nil =>
      change parts? (some '\\') rest = _
      cases parts? (some '\\') rest <;> rfl
  | cons char value inductionHypothesis =>
      rw [Pattern.escape, List.flatMap_cons, List.append_assoc, parts?_escapedChar]
      change (parts? (some '\\') (Pattern.escape value ++ rest)).map _ = _
      rw [inductionHypothesis]
      cases parts? (some '\\') rest <;> rfl

/-- The pattern is the value between two runs of anything. -/
theorem parts?_containing (value : Text) :
    parts? (some '\\') (Pattern.containing value) =
      some (.anything :: (value.lower.map .exactly ++ [.anything])) := by
  have escaped := parts?_escape_append value.lower ['%']
  have ends : parts? (some '\\') ['%'] = some [.anything] := rfl
  rw [ends, Option.map_some] at escaped
  rw [Pattern.containing, parts?_cons (by decide), escaped]
  rfl

theorem null_not_mem_containing {value : Text} (free : '\x00' ∉ value) :
    '\x00' ∉ Pattern.containing value := by
  intro member
  rcases List.mem_cons.mp member with impossible | member
  · cases impossible
  · rcases List.mem_append.mp member with inside | last
    · obtain ⟨char, listed, written⟩ := List.mem_flatMap.mp inside
      have same : char = '\x00' := by
        split at written
        · rcases List.mem_cons.mp written with impossible | written
          · cases impossible
          · exact (List.mem_singleton.mp written).symm
        · exact (List.mem_singleton.mp written).symm
      exact Text.null_not_mem_lower free (same ▸ listed)
    · cases List.mem_singleton.mp last

/-! ## Matching -/

theorem matchParts_anything (parts : List Part) (text : Text) :
    matchParts (.anything :: parts) text = true ↔ ∃ back, back <:+ text ∧ matchParts parts back = true := by
  rw [matchParts, anyEnd_iff]

theorem matchParts_anything_last (text : Text) : matchParts [.anything] text = true :=
  (matchParts_anything [] text).mpr ⟨[], List.nil_suffix, rfl⟩

/-- Characters that stand for themselves match a front of the text, up to the
case of basic letters. -/
theorem matchParts_exactly_append (value : Text) (parts : List Part) (text : Text) :
    matchParts (value.map .exactly ++ parts) text = true ↔
      ∃ front back, text = front ++ back ∧ front.asciiLower = value.asciiLower ∧
        matchParts parts back = true := by
  induction value generalizing text with
  | nil =>
      constructor
      · intro holds
        exact ⟨[], text, rfl, rfl, holds⟩
      · rintro ⟨front, back, rfl, none, holds⟩
        rw [List.map_eq_nil_iff.mp none]
        exact holds
  | cons char value inductionHypothesis =>
      cases text with
      | nil =>
          constructor
          · intro impossible
            cases impossible
          · rintro ⟨front, back, nothing, same, _⟩
            rw [(List.append_eq_nil_iff.mp nothing.symm).1] at same
            cases same
      | cons other text =>
          rw [List.map_cons, List.cons_append, matchParts, Bool.and_eq_true, inductionHypothesis, sameLetter,
            beq_iff_eq]
          constructor
          · rintro ⟨letter, front, back, rfl, same, holds⟩
            refine ⟨other :: front, back, rfl, ?_, holds⟩
            change Text.asciiLowerChar other :: front.asciiLower =
              Text.asciiLowerChar char :: Text.asciiLower value
            rw [letter, same]
          · rintro ⟨front, back, split, same, holds⟩
            cases front with
            | nil => cases same
            | cons first front =>
                obtain ⟨rfl, rfl⟩ := List.cons.inj split
                obtain ⟨letter, same⟩ := List.cons.inj same
                exact ⟨letter.symm, front, back, rfl, same, holds⟩

theorem matchParts_between (value text : Text) :
    matchParts (.anything :: (value.map .exactly ++ [.anything])) text = true ↔
      value.asciiLower <:+: text.asciiLower := by
  rw [matchParts_anything]
  constructor
  · rintro ⟨back, ⟨lead, rfl⟩, holds⟩
    obtain ⟨front, rest, rfl, same, _⟩ := (matchParts_exactly_append value [.anything] back).mp holds
    refine ⟨Text.asciiLower lead, rest.asciiLower, ?_⟩
    rw [← same, List.append_assoc]
    simp only [Text.asciiLower, List.map_append]
  · rintro ⟨lead, rest, split⟩
    rw [List.append_assoc] at split
    obtain ⟨before, behind, rfl, _, inside⟩ := List.map_eq_append_iff.mp split.symm
    obtain ⟨front, after, rfl, same, _⟩ := List.map_eq_append_iff.mp inside
    refine ⟨front ++ after, List.suffix_append before _, ?_⟩
    exact (matchParts_exactly_append value [.anything] _).mpr
      ⟨front, after, rfl, same, matchParts_anything_last after⟩

theorem untilNull_eq_self {text : Text} (free : '\x00' ∉ text) : untilNull text = text := by
  have passed : ∀ char ∈ text, (char != '\x00') = true := fun char member =>
    bne_iff_ne.mpr fun same => free (same ▸ member)
  have whole : (text ++ []).takeWhile (· != '\x00') = text ++ [].takeWhile (· != '\x00') :=
    List.takeWhile_append_of_pos passed
  rwa [List.append_nil, List.takeWhile_nil, List.append_nil] at whole

/-- Null characters keep their places. -/
theorem untilNull_asciiLower (text : Text) : untilNull text.asciiLower = (untilNull text).asciiLower := by
  have same : (fun char => char != '\x00') ∘ Text.asciiLowerChar = fun char => char != '\x00' := by
    funext char
    rw [Function.comp, Bool.eq_iff_iff, bne_iff_ne, bne_iff_ne]
    exact not_congr Text.asciiLowerChar_eq_null_iff
  rw [untilNull, Text.asciiLower, List.takeWhile_map, same]
  rfl

/-- A lowered text matches the pattern of a value exactly if it holds the value
before its first null character. -/
theorem holds_containing_iff {value : Text} (free : '\x00' ∉ value) (text : Text) :
    holds (some '\\') (Pattern.containing value) text.asciiLower = true ↔
      value.lower <:+: (untilNull text).asciiLower := by
  rw [holds, untilNull_eq_self (null_not_mem_containing free), parts?_containing]
  change matchParts _ _ = true ↔ _
  rw [matchParts_between, Text.asciiLower_lower, untilNull_asciiLower, Text.asciiLower_asciiLower]

end Like

namespace Filter

variable {column : Column} {value : Text} {record : Record}

/-- A known value is looked through, up to its first null character. -/
theorem holds_contains_of_text {text : Text} (free : '\x00' ∉ value)
    (short : (Pattern.containing value).byteLength ≤ Like.patternLimit)
    (known : record.cell column = .text text) :
    (contains column value).holds record =
      .ok (Text.contains value.lower (Like.untilNull text).asciiLower) := by
  have same : Like.holds (some '\\') (Pattern.containing value) text.asciiLower =
      Text.contains value.lower (Like.untilNull text).asciiLower := by
    rw [Bool.eq_iff_iff, Like.holds_containing_iff free, Text.contains_iff]
  rw [holds, known]
  dsimp only
  rw [like, if_neg (Nat.not_lt.mpr short), same]

/-- What is no text, and so what is unknown, contains nothing. -/
theorem holds_contains_of_not_text (short : (Pattern.containing value).byteLength ≤ Like.patternLimit)
    (other : ∀ text, record.cell column ≠ .text text) : (contains column value).holds record = .ok false := by
  rw [holds]
  cases cell : record.cell column with
  | text text => exact absurd cell (other text)
  | null => exact if_neg (Nat.not_lt.mpr short)
  | integer number => exact if_neg (Nat.not_lt.mpr short)
  | real number => exact if_neg (Nat.not_lt.mpr short)

/-- The condition that a column contains a value binds one pattern.  Read with
its escapes the pattern is the lowered value between two runs of anything, so no
character of the value is a wildcard.  A lowered text matches it exactly if the
lowered value is a part of it, and an unknown column never does. -/
theorem contains_means_containment (value : Text) (free : '\x00' ∉ value)
    (short : (Pattern.containing value).byteLength ≤ Like.patternLimit) :
    (∀ (name : Text) (place : Nat),
        (contains name value).parameter? = some (.text (Pattern.containing value)) ∧
          (contains name value).condition place = "LOWER(" ++ name ++ ") LIKE ?" ++ Text.ofNat place ++
            " ESCAPE '\\'") ∧
      Like.parts? (some '\\') (Pattern.containing value) =
        some (.anything :: (value.lower.map .exactly ++ [.anything])) ∧
      (∀ text : Text, '\x00' ∉ text →
        (Like.holds (some '\\') (Pattern.containing value) text.asciiLower = true ↔
          value.lower <:+: text.asciiLower)) ∧
      ∀ (record : Record) (column : Column),
        (record.cell column = .null → (contains column value).holds record = .ok false) ∧
          ∀ text : Text, record.cell column = .text text → '\x00' ∉ text →
            ∃ held, (contains column value).holds record = .ok held ∧
              (held = true ↔ value.lower <:+: text.asciiLower) := by
  refine ⟨fun name place => ⟨rfl, rfl⟩, Like.parts?_containing value, fun text textFree => ?_,
    fun record column => ⟨fun unknown => ?_, fun text known textFree => ?_⟩⟩
  · rw [Like.holds_containing_iff free, Like.untilNull_eq_self textFree]
  · refine holds_contains_of_not_text short fun text same => ?_
    rw [unknown] at same
    cases same
  · refine ⟨_, holds_contains_of_text free short known, ?_⟩
    rw [Like.untilNull_eq_self textFree, Text.contains_iff]

theorem contains_means_containment_wildcards :
    '\x00' ∉ (show Text from "50%_Ä\\") ∧ (Pattern.containing "50%_Ä\\").byteLength ≤ Like.patternLimit ∧
      Like.holds (some '\\') (Pattern.containing "50%_Ä\\") (Text.asciiLower "At 50%_ä\\ OFF") = true ∧
      Like.holds (some '\\') (Pattern.containing "50%_Ä\\") (Text.asciiLower "At 50 x ä\\ OFF") = false := by
  have free : '\x00' ∉ (show Text from "50%_Ä\\") := by decide
  have short : (Pattern.containing "50%_Ä\\").byteLength ≤ Like.patternLimit := by decide +kernel
  have matched := (contains_means_containment "50%_Ä\\" free short).2.2.1
  refine ⟨free, short, (matched _ (by decide)).mpr ?_, Bool.eq_false_iff.mpr fun holds => ?_⟩
  · rw [← Text.contains_iff]
    decide +kernel
  · have inside := (matched _ (by decide)).mp holds
    rw [← Text.contains_iff] at inside
    revert inside
    decide +kernel

end Filter
end FeedDesk
