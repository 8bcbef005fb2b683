namespace FeedDesk
namespace Blocks

/-!
# Words in a row of blocks

A text is often the concatenation of blocks, one for every item of a row: what
the pieces of a gloss write, or the lower-case forms of single characters.  A
word that stands somewhere in such a text need not respect the blocks.  Either
it lies inside one of them, or it begins in one block, runs through the blocks
between and ends in a later one.
-/

variable {α β : Type} {block : α → List β}

/-- A cut with something behind it falls inside, or directly before, the block
that holds the next item. -/
theorem exists_block_after {row : List α} {before after : List β}
    (same : row.flatMap block = before ++ after) (more : after ≠ []) :
    ∃ left item right lead trail, row = left ++ item :: right ∧ block item = lead ++ trail ∧
      trail ≠ [] ∧ before = left.flatMap block ++ lead ∧ after = trail ++ right.flatMap block := by
  induction row generalizing before with
  | nil => exact absurd (List.append_eq_nil_iff.mp same.symm).2 more
  | cons item row inductionHypothesis =>
      rw [List.flatMap_cons] at same
      rcases List.append_eq_append_iff.mp same with ⟨between, split, remains⟩ | ⟨rest, split, remains⟩
      · rcases inductionHypothesis remains with
          ⟨left, other, right, lead, trail, rowEq, inside, nonempty, front, back⟩
        refine ⟨item :: left, other, right, lead, trail, by rw [rowEq, List.cons_append], inside, nonempty,
          ?_, back⟩
        rw [split, front, List.flatMap_cons, List.append_assoc]
      · cases rest with
        | nil =>
            have moved : row.flatMap block = [] ++ after := remains.symm
            rcases inductionHypothesis moved with
              ⟨left, other, right, lead, trail, rowEq, inside, nonempty, front, back⟩
            refine ⟨item :: left, other, right, lead, trail, by rw [rowEq, List.cons_append], inside,
              nonempty, ?_, back⟩
            rw [List.append_nil] at split
            rw [List.flatMap_cons, List.append_assoc, ← front, List.append_nil, split]
        | cons next rest =>
            exact ⟨[], item, row, before, next :: rest, rfl, split, List.cons_ne_nil _ _, rfl, remains⟩

/-- A cut with something before it falls inside, or directly behind, the block
that holds the item before. -/
theorem exists_block_before {row : List α} {before after : List β}
    (same : row.flatMap block = before ++ after) (more : before ≠ []) :
    ∃ left item right lead trail, row = left ++ item :: right ∧ block item = lead ++ trail ∧
      lead ≠ [] ∧ before = left.flatMap block ++ lead ∧ after = trail ++ right.flatMap block := by
  induction row generalizing before with
  | nil => exact absurd (List.append_eq_nil_iff.mp same.symm).1 more
  | cons item row inductionHypothesis =>
      rw [List.flatMap_cons] at same
      rcases List.append_eq_append_iff.mp same with ⟨between, split, remains⟩ | ⟨rest, split, remains⟩
      · by_cases empty : between = []
        · subst empty
          rw [List.append_nil] at split
          refine ⟨[], item, row, before, [], rfl, ?_, more, rfl, remains.symm⟩
          rw [split, List.append_nil]
        · rcases inductionHypothesis remains empty with
            ⟨left, other, right, lead, trail, rowEq, inside, nonempty, front, back⟩
          refine ⟨item :: left, other, right, lead, trail, by rw [rowEq, List.cons_append], inside,
            nonempty, ?_, back⟩
          rw [split, front, List.flatMap_cons, List.append_assoc]
      · exact ⟨[], item, row, before, rest, rfl, split, more, rfl, remains⟩

/-- How a word lies over the blocks of a row, given what stands before and
after it. -/
inductive Cover (block : α → List β) (row : List α) (before word after : List β) : Prop
  | inside (left : List α) (item : α) (right : List α) (lead trail : List β)
      (row_eq : row = left ++ item :: right) (block_eq : block item = lead ++ word ++ trail)
      (before_eq : before = left.flatMap block ++ lead)
      (after_eq : after = trail ++ right.flatMap block)
  | across (left : List α) (first : α) (middle : List α) (last : α) (right : List α)
      (lead head tail trail : List β) (row_eq : row = left ++ first :: (middle ++ last :: right))
      (first_eq : block first = lead ++ head) (head_ne : head ≠ [])
      (last_eq : block last = tail ++ trail) (tail_ne : tail ≠ [])
      (word_eq : word = head ++ (middle.flatMap block ++ tail))
      (before_eq : before = left.flatMap block ++ lead)
      (after_eq : after = trail ++ right.flatMap block)

/-- Every word that is not empty is covered in one of the two ways. -/
theorem cover {row : List α} {before word after : List β}
    (same : row.flatMap block = before ++ word ++ after) (nonempty : word ≠ []) :
    Cover block row before word after := by
  rw [List.append_assoc] at same
  have more : word ++ after ≠ [] := fun empty => nonempty (List.append_eq_nil_iff.mp empty).1
  rcases exists_block_after same more with
    ⟨left, first, rest, lead, head, rowEq, firstBlock, headNe, front, remains⟩
  have endsInside : ∀ trail, head = word ++ trail → after = trail ++ rest.flatMap block →
      Cover block row before word after := by
    intro trail split behind
    exact .inside left first rest lead trail rowEq (by rw [firstBlock, split, List.append_assoc]) front
      behind
  rcases List.append_eq_append_iff.mp remains.symm with ⟨others, split, behind⟩ | ⟨trail, split, behind⟩
  · by_cases empty : others = []
    · subst empty
      rw [List.append_nil] at split
      exact endsInside [] (by rw [split, List.append_nil]) behind.symm
    · rcases exists_block_before behind empty with
        ⟨middle, last, right, tail, trail, restEq, lastBlock, tailNe, middleBlocks, back⟩
      exact .across left first middle last right lead head tail trail (by rw [rowEq, restEq]) firstBlock
        headNe lastBlock tailNe (by rw [split, middleBlocks]) front back
  · exact endsInside trail split behind

/-- Two letters that lie in two parts are divided between them. -/
theorem eq_of_pair_eq_append {first second : β} {head middle tail : List β}
    (same : [first, second] = head ++ (middle ++ tail)) (headNe : head ≠ []) (tailNe : tail ≠ []) :
    head = [first] ∧ middle = [] ∧ tail = [second] := by
  rcases List.exists_cons_of_ne_nil headNe with ⟨char, others, rfl⟩
  rw [List.cons_append] at same
  have charEq := (List.cons.inj same).1
  have behind := (List.cons.inj same).2
  rcases List.append_eq_singleton_iff.mp behind.symm with ⟨othersEq, behind⟩ | ⟨_, empty⟩
  · rcases List.append_eq_singleton_iff.mp behind with ⟨middleEq, tailEq⟩ | ⟨_, empty⟩
    · exact ⟨by rw [charEq, othersEq], middleEq, tailEq⟩
    · exact absurd empty tailNe
  · exact absurd (List.append_eq_nil_iff.mp empty).2 tailNe

end Blocks
end FeedDesk
