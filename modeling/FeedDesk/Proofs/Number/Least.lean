import FeedDesk.Number.Mean
import FeedDesk.Proofs.Number.Rounding

namespace FeedDesk
namespace Binary64

/-!
# The least of some numbers

Finite numbers are compared by their positions.  The two zeros share a position,
so two numbers of one position are equal only where one of the zeros has been
given up.  The least of some finite numbers is one of them, and no other stands
below it.
-/

variable {left right value : Binary64}

theorem le_iff (leftFinite : left.isFinite = true) (rightFinite : right.isFinite = true) :
    left.le right = true ↔ left.position ≤ right.position := by
  rw [le, isNaN_of_isFinite leftFinite, isNaN_of_isFinite rightFinite]
  exact decide_eq_true_iff

theorem lt_iff (leftFinite : left.isFinite = true) (rightFinite : right.isFinite = true) :
    left.lt right = true ↔ left.position < right.position := by
  rw [lt, isNaN_of_isFinite leftFinite, isNaN_of_isFinite rightFinite]
  exact decide_eq_true_iff

theorem le_self (finite : value.isFinite = true) : value.le value = true :=
  (le_iff finite finite).mpr (Int.le_refl _)

theorem withOneZero_withOneZero (value : Binary64) : value.withOneZero.withOneZero = value.withOneZero := by
  unfold withOneZero
  by_cases zeroed : value.isZero = true
  · rw [if_pos zeroed]
    rfl
  · rw [if_neg zeroed, if_neg zeroed]

/-- With one zero a number is told by its position. -/
theorem eq_of_position_eq (leftOne : left.withOneZero = left) (rightOne : right.withOneZero = right)
    (same : left.position = right.position) : left = right := by
  have unsigned : ∀ {value : Binary64}, value.withOneZero = value → value.magnitude = 0 → value = zero := by
    intro value one none
    have zeroed : value.isZero = true := beq_iff_eq.mpr none
    rw [withOneZero, if_pos zeroed] at one
    exact one.symm
  have sizes : left.magnitude = right.magnitude := by
    unfold position at same
    split at same <;> split at same <;> omega
  by_cases none : left.magnitude = 0
  · rw [unsigned leftOne none, unsigned rightOne (sizes.symm.trans none)]
  · have signs : left.negative = right.negative := by
      unfold position at same
      cases leftSign : left.negative <;> cases rightSign : right.negative <;>
        simp only [leftSign, rightSign, if_true, Bool.false_eq_true, if_false] at same ⊢ <;> omega
    cases left
    cases right
    exact congrArg₂ Binary64.mk signs sizes

theorem le_trans {middle : Binary64} (leftFinite : left.isFinite = true) (middleFinite : middle.isFinite = true)
    (rightFinite : right.isFinite = true) (first : left.le middle = true) (second : middle.le right = true) :
    left.le right = true := by
  rw [le_iff leftFinite middleFinite] at first
  rw [le_iff middleFinite rightFinite] at second
  exact (le_iff leftFinite rightFinite).mpr (Int.le_trans first second)

/-- The lesser of two numbers, the first one if neither is. -/
def lesser (first second : Binary64) : Binary64 :=
  if second.lt first then second else first

theorem lesser_eq_or_eq (first second : Binary64) : lesser first second = first ∨ lesser first second = second := by
  unfold lesser
  split
  · exact Or.inr rfl
  · exact Or.inl rfl

theorem lesser_le (leftFinite : left.isFinite = true) (rightFinite : right.isFinite = true) :
    (lesser left right).le left = true ∧ (lesser left right).le right = true := by
  unfold lesser
  by_cases below : right.lt left = true
  · have order := (lt_iff rightFinite leftFinite).mp below
    rw [if_pos below]
    exact ⟨(le_iff rightFinite leftFinite).mpr (Int.le_of_lt order), le_self rightFinite⟩
  · have order := Int.not_lt.mp (mt (lt_iff rightFinite leftFinite).mpr below)
    rw [if_neg below]
    exact ⟨le_self leftFinite, (le_iff leftFinite rightFinite).mpr order⟩

/-- Of a number and those that follow the lesser ones are kept, and the last one
that is kept is the least. -/
theorem foldl_lesser {start : Binary64} {values : List Binary64}
    (finite : ∀ value ∈ start :: values, value.isFinite = true) :
    values.foldl lesser start ∈ start :: values ∧
      ∀ value ∈ start :: values, (values.foldl lesser start).le value = true := by
  induction values generalizing start with
  | nil =>
      refine ⟨List.mem_singleton_self start, fun value member => ?_⟩
      rw [List.mem_singleton.mp member]
      exact le_self (finite start List.mem_cons_self)
  | cons other values inductionHypothesis =>
      have kept : lesser start other ∈ start :: other :: values := by
        rcases lesser_eq_or_eq start other with same | same
        · rw [same]
          exact List.mem_cons_self
        · rw [same]
          exact List.mem_cons_of_mem start List.mem_cons_self
      have remaining : ∀ value ∈ lesser start other :: values, value ∈ start :: other :: values := by
        intro value member
        rcases List.mem_cons.mp member with rfl | behind
        · exact kept
        · exact List.mem_cons_of_mem start (List.mem_cons_of_mem other behind)
      have startFinite := finite start List.mem_cons_self
      have otherFinite := finite other (List.mem_cons_of_mem start List.mem_cons_self)
      have keptFinite := finite _ kept
      obtain ⟨member, least⟩ := inductionHypothesis fun value inside => finite value (remaining value inside)
      have leastFinite := finite _ (remaining _ member)
      have belowKept := least (lesser start other) List.mem_cons_self
      obtain ⟨belowStart, belowOther⟩ := lesser_le startFinite otherFinite
      rw [List.foldl_cons]
      refine ⟨remaining _ member, fun value inside => ?_⟩
      rcases List.mem_cons.mp inside with rfl | inside
      · exact le_trans leastFinite keptFinite startFinite belowKept belowStart
      · rcases List.mem_cons.mp inside with rfl | behind
        · exact le_trans leastFinite keptFinite otherFinite belowKept belowOther
        · exact least value (List.mem_cons_of_mem _ behind)

/-- There is a least one among some finite numbers. -/
theorem exists_least? {values : List Binary64} (nonempty : values ≠ [])
    (finite : ∀ value ∈ values, value.isFinite = true) :
    ∃ least ∈ values, least? values = some least ∧ ∀ value ∈ values, least.le value = true := by
  cases values with
  | nil => exact absurd rfl nonempty
  | cons value values =>
      obtain ⟨member, least⟩ := foldl_lesser finite
      exact ⟨_, member, rfl, least⟩

end Binary64
end FeedDesk
