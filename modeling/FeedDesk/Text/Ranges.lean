namespace FeedDesk

/-!
A character class of a standard is given by a list of ranges of code points in ascending order.
Membership stops at the first range that begins above the code point, so the order is used only
to answer sooner.
-/

/-- Closed ranges of code points, in ascending order. -/
abbrev Ranges := List (Nat × Nat)

namespace Ranges

def covers : Ranges → Nat → Bool
  | [], _ => false
  | (first, last) :: ranges, code =>
    if code < first then false
    else if code ≤ last then true
    else covers ranges code

theorem exists_of_covers {ranges : Ranges} {code : Nat} (member : ranges.covers code = true) :
    ∃ range ∈ ranges, range.1 ≤ code ∧ code ≤ range.2 := by
  induction ranges with
  | nil => simp [covers] at member
  | cons range ranges ih =>
    obtain ⟨first, last⟩ := range
    rw [covers] at member
    split at member
    · simp at member
    · rename_i above
      split at member
      · rename_i below
        exact ⟨(first, last), List.mem_cons_self, by omega, below⟩
      · obtain ⟨other, inside, bounds⟩ := ih member
        exact ⟨other, List.mem_cons_of_mem _ inside, bounds⟩

end Ranges
end FeedDesk
