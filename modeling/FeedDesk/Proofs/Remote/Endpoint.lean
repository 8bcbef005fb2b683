import FeedDesk.Proofs.Text.Cutting
import FeedDesk.Remote.Translator

namespace FeedDesk
namespace Remote
namespace Translator

/-!
# The address of the translator

Every address is one without a closing slash, and some slashes behind it.  What
is posted to depends on these two parts alone: the path is looked for first, and
the slashes are dropped only after that.  So a path with slashes behind it is
not seen, and is appended once more when they are gone.

The addresses that lead to a base address with its path are therefore the base
itself with slashes, and the path as it is.  An address with slashes behind its
path is not among them.
-/

/-- The address with some slashes behind it. -/
def closedBy (slashes : Nat) (address : Text) : Text :=
  address ++ List.replicate slashes '/'

/-- The address ends neither in a slash nor in the path. -/
structure IsBase (base : Text) : Prop where
  noSlash : ¬ ['/'] <:+ base
  noEnding : ¬ ending <:+ base

instance (base : Text) : Decidable (IsBase base) :=
  decidable_of_iff (¬ ['/'] <:+ base ∧ ¬ ending <:+ base)
    ⟨fun ⟨noSlash, noEnding⟩ => ⟨noSlash, noEnding⟩, fun isBase => ⟨isBase.noSlash, isBase.noEnding⟩⟩

variable {base address : Text} {slashes : Nat}

/-! ## Slashes behind an address -/

theorem exists_eq_closedBy (address : Text) :
    ∃ slashes, address = closedBy slashes (address.trimEndBy (· == '/')) := by
  obtain ⟨trail, same, all⟩ := Text.exists_trimEndBy_append (· == '/') address
  refine ⟨trail.length, ?_⟩
  rw [closedBy, ← List.eq_replicate_of_mem fun char member => beq_iff_eq.mp (all char member)]
  exact same

theorem trimEndBy_closedBy (noSlash : ¬ ['/'] <:+ address) :
    (closedBy slashes address).trimEndBy (· == '/') = address := by
  have dropped : Text.trimEndBy (· == '/') (List.replicate slashes '/') = [] :=
    Text.trimEndBy_eq_nil fun char member => beq_iff_eq.mpr (List.eq_of_mem_replicate member)
  rcases List.eq_nil_or_concat address with rfl | ⟨front, last, spelled⟩
  · exact dropped
  · rw [List.concat_eq_append] at spelled
    subst spelled
    have different : (last == '/') = false := by
      refine beq_eq_false_iff_ne.mpr fun same => noSlash ?_
      rw [same]
      exact List.suffix_append front ['/']
    have kept : Text.trimEndBy (· == '/') (front ++ last :: List.replicate slashes '/') =
        front ++ last :: Text.trimEndBy (· == '/') (List.replicate slashes '/') :=
      Text.trimEndBy_append_cons _ different
    rw [closedBy, List.append_assoc, List.singleton_append, kept, dropped]

theorem slash_suffix_closedBy_succ (slashes : Nat) (address : Text) :
    ['/'] <:+ closedBy (slashes + 1) address := by
  rw [closedBy, List.replicate_succ', ← List.append_assoc]
  exact List.suffix_append _ _

/-- The path does not end in a slash, and no address that ends in it does. -/
theorem not_slash_suffix_of_ending_suffix (ends : ending <:+ address) : ¬ ['/'] <:+ address := by
  intro slash
  have within : ['/'] <:+ ending := List.suffix_of_suffix_length_le slash ends (by decide)
  exact absurd within (by decide)

theorem ending_suffix_closedBy_iff : ending <:+ closedBy slashes address ↔ slashes = 0 ∧ ending <:+ address := by
  cases slashes with
  | zero =>
      rw [closedBy, List.replicate_zero, List.append_nil]
      exact (and_iff_right rfl).symm
  | succ slashes =>
      refine iff_of_false (fun ends => ?_) fun ⟨noSlashes, _⟩ => Nat.succ_ne_zero slashes noSlashes
      exact not_slash_suffix_of_ending_suffix ends (slash_suffix_closedBy_succ slashes address)

/-! ## What is posted to -/

theorem endpoint_of_ending_suffix (ends : ending <:+ address) : endpoint address = address :=
  if_pos (List.isSuffixOf_iff_suffix.mpr ends)

theorem endpoint_of_not_ending_suffix (noEnding : ¬ ending <:+ address) :
    endpoint address = address.trimEndBy (· == '/') ++ ending :=
  if_neg (mt List.isSuffixOf_iff_suffix.mp noEnding)

/-- The path is kept only where it stands at the very end. -/
theorem endpoint_closedBy (noSlash : ¬ ['/'] <:+ address) :
    endpoint (closedBy slashes address) =
      if slashes = 0 ∧ ending <:+ address then address else address ++ ending := by
  split
  · rename_i kept
    obtain ⟨rfl, ends⟩ := kept
    rw [closedBy, List.replicate_zero, List.append_nil]
    exact endpoint_of_ending_suffix ends
  · rename_i lost
    rw [endpoint_of_not_ending_suffix (mt ending_suffix_closedBy_iff.mp lost), trimEndBy_closedBy noSlash]

theorem ending_suffix_endpoint (address : Text) : ending <:+ endpoint address := by
  by_cases ends : ending <:+ address
  · rw [endpoint_of_ending_suffix ends]
    exact ends
  · rw [endpoint_of_not_ending_suffix ends]
    exact List.suffix_append _ ending

/-- Only the base itself, with any slashes behind it, and the path as it is lead
to the path of a base. -/
theorem endpoint_eq_iff (isBase : IsBase base) :
    endpoint address = base ++ ending ↔ (∃ slashes, address = closedBy slashes base) ∨ address = base ++ ending := by
  constructor
  · intro leads
    by_cases ends : ending <:+ address
    · rw [endpoint_of_ending_suffix ends] at leads
      exact Or.inr leads
    · rw [endpoint_of_not_ending_suffix ends] at leads
      -- The path was appended, so the rest is the base, and only slashes were dropped from it.
      obtain ⟨slashes, same⟩ := exists_eq_closedBy address
      rw [List.append_cancel_right leads] at same
      exact Or.inl ⟨slashes, same⟩
  · rintro (⟨slashes, rfl⟩ | rfl)
    · rw [endpoint_closedBy isBase.noSlash]
      exact if_neg fun kept => isBase.noEnding kept.2
    · exact endpoint_of_ending_suffix (List.suffix_append base ending)

/-- The slashes behind the path hide it. -/
theorem endpoint_closedBy_ending (base : Text) (slashes : Nat) :
    endpoint (closedBy slashes (base ++ ending)) =
      if slashes = 0 then base ++ ending else base ++ ending ++ ending := by
  have ends : ending <:+ base ++ ending := List.suffix_append base ending
  rw [endpoint_closedBy (not_slash_suffix_of_ending_suffix ends)]
  simp only [ends, and_true]

/-- A base address, with any slashes behind it, leads to its path, and what has
been led to stays.  The path leads to itself exactly if no slash stands behind
it; behind any slashes it is appended a second time.  Nothing else leads to the
path of the base. -/
theorem path_appended_once_iff (isBase : IsBase base) (slashes : Nat) :
    endpoint (closedBy slashes base) = base ++ ending ∧
      (endpoint (closedBy slashes (base ++ ending)) = base ++ ending ↔ slashes = 0) ∧
      (slashes ≠ 0 → endpoint (closedBy slashes (base ++ ending)) = base ++ ending ++ ending) ∧
      (∀ address, endpoint address = base ++ ending →
        (∃ others, address = closedBy others base) ∨ address = base ++ ending) ∧
      ∀ address, endpoint (endpoint address) = endpoint address := by
  have twice (closed : slashes ≠ 0) :
      endpoint (closedBy slashes (base ++ ending)) = base ++ ending ++ ending := by
    rw [endpoint_closedBy_ending, if_neg closed]
  refine ⟨(endpoint_eq_iff isBase).mpr (Or.inl ⟨slashes, rfl⟩), ⟨fun once => ?_, fun unclosed => ?_⟩, twice,
    fun address => (endpoint_eq_iff isBase).mp, fun address => ?_⟩
  · refine Decidable.byContradiction fun closed => ?_
    rw [twice closed] at once
    exact absurd (List.append_right_eq_self.mp once) (by decide)
  · rw [endpoint_closedBy_ending, if_pos unclosed]
  · exact endpoint_of_ending_suffix (ending_suffix_endpoint address)

/-- A base address inside of which the path stands already. -/
def nested : Text := "http://localhost:5000/translate/v1"

theorem path_appended_once_iff_nested :
    IsBase nested ∧ endpoint (closedBy 2 nested) = nested ++ ending ∧
      endpoint (closedBy 0 (nested ++ ending)) = nested ++ ending ∧
      endpoint (closedBy 2 (nested ++ ending)) = nested ++ ending ++ ending := by
  have isBase : IsBase nested := by decide
  obtain ⟨once, _, twice, _⟩ := path_appended_once_iff isBase 2
  obtain ⟨_, unclosed, _⟩ := path_appended_once_iff isBase 0
  exact ⟨isBase, once, unclosed.mpr rfl, twice (by decide)⟩

/-- One slash behind the path of a service is enough. -/
theorem path_appended_twice :
    IsBase "http://localhost:5000" ∧
      closedBy 1 ("http://localhost:5000" ++ ending) = String.toList "http://localhost:5000/translate/" ∧
      endpoint "http://localhost:5000/translate/" = String.toList "http://localhost:5000/translate/translate" ∧
      endpoint "http://localhost:5000/translate/" ≠ "http://localhost:5000" ++ ending := by
  decide

end Translator
end Remote
end FeedDesk
