import FeedDesk.Sql.Transaction
import Mathlib.Data.List.TakeWhile
import Mathlib.Logic.Basic

namespace FeedDesk
namespace Sql
namespace Transaction

/-!
# Which statements move a transaction

Savepoints are looked for by name from the innermost outward, and releasing one
closes all that lie inside it.  The savepoints of one name can therefore be
released exactly as often as the name is held, and this number is how a
transaction shows which savepoints it holds.  A statement that is carried out
and leaves another transaction changes either whether the transaction is open
or one of these numbers.
-/

variable {transaction next : Transaction} {name : Text}

/-- Names are the same without regard to case. -/
def sameName (name other : Text) : Bool :=
  other.asciiLower == name.asciiLower

theorem sameName_self (name : Text) : sameName name name = true :=
  beq_self_eq_true _

/-- How often savepoints of the name can be released. -/
def depth (transaction : Transaction) (name : Text) : Nat :=
  transaction.savepoints.countP (sameName name)

/-- The statement is carried out and leaves another transaction. -/
def Moves (transaction : Transaction) : Control → Prop
  | .begin => transaction.isOpen = false
  | .commit => transaction.isOpen = true
  | .rollback => transaction.isOpen = true
  | .savepoint _ => True
  | .release name => transaction.outward name ≠ []
  | .rollbackTo name => transaction.outward name ≠ [] ∧ transaction.outward name ≠ transaction.savepoints

/-- The savepoints inside those that a name leads to. -/
def inward (transaction : Transaction) (name : Text) : List Text :=
  transaction.savepoints.takeWhile fun other => !sameName name other

theorem inward_append_outward (transaction : Transaction) (name : Text) :
    transaction.inward name ++ transaction.outward name = transaction.savepoints :=
  List.takeWhile_append_dropWhile

theorem depth_eq_countP_outward (transaction : Transaction) (name : Text) :
    transaction.depth name = (transaction.outward name).countP (sameName name) := by
  have passed : (transaction.inward name).countP (sameName name) = 0 := by
    refine List.countP_eq_zero.mpr fun other member same => ?_
    have different := List.mem_takeWhile_imp member
    rw [same] at different
    cases different
  rw [depth, ← transaction.inward_append_outward name, List.countP_append, passed, Nat.zero_add]

theorem sameName_of_outward {first : Text} {outer : List Text}
    (found : transaction.outward name = first :: outer) : sameName name first = true := by
  have stopped := List.head?_dropWhile_not (fun other : Text => other.asciiLower != name.asciiLower)
    transaction.savepoints
  rw [outward] at found
  rw [found] at stopped
  exact (Bool.not_eq_false' _).mp stopped

theorem release_of_depth_eq_zero (closed : transaction.depth name = 0) :
    transaction.after (.release name) = .error (.unknownSavepoint name) := by
  rw [depth_eq_countP_outward] at closed
  cases found : transaction.outward name with
  | nil => rw [after, found]
  | cons first outer =>
      rw [found, List.countP_cons_of_pos (sameName_of_outward found)] at closed
      cases closed

theorem release_of_depth_eq_succ {further : Nat} (deep : transaction.depth name = further + 1) :
    ∃ next, transaction.after (.release name) = .ok next ∧ next.depth name = further := by
  rw [depth_eq_countP_outward] at deep
  cases found : transaction.outward name with
  | nil =>
      rw [found] at deep
      cases deep
  | cons first outer =>
      rw [found, List.countP_cons_of_pos (sameName_of_outward found)] at deep
      refine ⟨{ transaction with savepoints := outer }, ?_, Nat.succ.inj deep⟩
      rw [after, found]

/-- Of the savepoints that only one of two transactions holds, the innermost is
deeper in that one. -/
theorem exists_depth_ne (next : Transaction) {inner : List Text}
    (longer : transaction.savepoints = inner ++ next.savepoints) (nonempty : inner ≠ []) :
    ∃ name ∈ transaction.savepoints, transaction.depth name ≠ next.depth name := by
  obtain ⟨first, rest, rfl⟩ := List.exists_cons_of_ne_nil nonempty
  refine ⟨first, longer ▸ List.mem_cons_self, ?_⟩
  rw [depth, longer, List.countP_append, List.countP_cons_of_pos (sameName_self first), depth]
  omega

/-- A transaction that was moved is not open as it was, or differs in the depth
of a savepoint. -/
theorem exists_after_of_moves {control : Control} (moves : transaction.Moves control) :
    ∃ next, transaction.after control = .ok next ∧ (transaction.isOpen ≠ next.isOpen ∨
      ∃ name ∈ transaction.savepoints ++ next.savepoints, transaction.depth name ≠ next.depth name) := by
  have fewer : ∀ {inner outer : List Text}, transaction.savepoints = inner ++ outer → inner ≠ [] →
      ∃ name ∈ transaction.savepoints ++ outer,
        transaction.depth name ≠ depth { transaction with savepoints := outer } name := by
    intro inner outer longer nonempty
    obtain ⟨name, member, different⟩ := exists_depth_ne { transaction with savepoints := outer } longer nonempty
    exact ⟨name, List.mem_append_left _ member, different⟩
  cases control with
  | begin =>
      have closed : transaction.isOpen = false := moves
      refine ⟨{ isBegun := true }, by rw [after, closed]; rfl, Or.inl ?_⟩
      rw [closed]
      exact Bool.false_ne_true
  | commit =>
      have opened : transaction.isOpen = true := moves
      refine ⟨{}, by rw [after, if_pos opened], Or.inl ?_⟩
      rw [opened]
      exact Bool.false_ne_true.symm
  | rollback =>
      have opened : transaction.isOpen = true := moves
      refine ⟨{}, by rw [after, if_pos opened], Or.inl ?_⟩
      rw [opened]
      exact Bool.false_ne_true.symm
  | savepoint name =>
      let next := { transaction with savepoints := name :: transaction.savepoints }
      have longer : next.savepoints = [name] ++ transaction.savepoints := rfl
      obtain ⟨other, member, different⟩ := exists_depth_ne transaction longer (List.cons_ne_nil _ _)
      exact ⟨next, rfl, Or.inr ⟨other, List.mem_append_right _ member, different.symm⟩⟩
  | release name =>
      obtain ⟨first, outer, found⟩ := List.exists_cons_of_ne_nil (show transaction.outward name ≠ [] from moves)
      have longer : transaction.savepoints = (transaction.inward name ++ [first]) ++ outer := by
        rw [← transaction.inward_append_outward name, found, List.append_assoc, List.singleton_append]
      refine ⟨{ transaction with savepoints := outer }, by rw [after, found], Or.inr ?_⟩
      exact fewer longer (List.append_ne_nil_of_right_ne_nil _ (List.cons_ne_nil _ _))
  | rollbackTo name =>
      obtain ⟨known, different⟩ :
        transaction.outward name ≠ [] ∧ transaction.outward name ≠ transaction.savepoints := moves
      obtain ⟨first, outer, found⟩ := List.exists_cons_of_ne_nil known
      refine ⟨{ transaction with savepoints := first :: outer }, by rw [after, found], Or.inr ?_⟩
      refine fewer (found ▸ (transaction.inward_append_outward name).symm) fun nothing => different ?_
      rw [← transaction.inward_append_outward name, nothing, List.nil_append]

theorem after_of_not_moves {control : Control} (stays : ¬transaction.Moves control) :
    transaction.after control = .ok transaction ∨ ∃ error, transaction.after control = .error error := by
  cases control with
  | begin =>
      have opened : transaction.isOpen = true := (Bool.not_eq_false _).mp stays
      exact Or.inr ⟨.transactionOpen, by rw [after, if_pos opened]⟩
  | commit =>
      have closed : ¬transaction.isOpen = true := stays
      exact Or.inr ⟨.noTransaction "commit", by rw [after, if_neg closed]⟩
  | rollback =>
      have closed : ¬transaction.isOpen = true := stays
      exact Or.inr ⟨.noTransaction "rollback", by rw [after, if_neg closed]⟩
  | savepoint name => exact absurd trivial stays
  | release name =>
      have unknown : transaction.outward name = [] := not_not.mp stays
      exact Or.inr ⟨.unknownSavepoint name, by rw [after, unknown]⟩
  | rollbackTo name =>
      cases found : transaction.outward name with
      | nil => exact Or.inr ⟨.unknownSavepoint name, by rw [after, found]⟩
      | cons first outer =>
          have same : transaction.outward name = transaction.savepoints := by
            refine not_not.mp fun different => stays ⟨?_, different⟩
            rw [found]
            exact List.cons_ne_nil _ _
          refine Or.inl ?_
          rw [after, found]
          rw [found] at same
          dsimp only
          rw [same]

theorem eq_of_not_isOpen (closed : ¬transaction.isOpen = true) : transaction = {} := by
  obtain ⟨isBegun, savepoints⟩ := transaction
  cases isBegun with
  | true => exact absurd rfl closed
  | false =>
      cases savepoints with
      | nil => rfl
      | cons name savepoints => exact absurd rfl closed

/-- Savepoints that are there afterwards were there before or have just been opened. -/
theorem mem_savepoints_after {control : Control} (done : transaction.after control = .ok next)
    {name : Text} (member : name ∈ next.savepoints) :
    name ∈ transaction.savepoints ∨ control = .savepoint name := by
  have outward : ∀ {name other : Text}, other ∈ transaction.outward name → other ∈ transaction.savepoints :=
    fun found => (List.dropWhile_suffix _).subset found
  cases control with
  | begin =>
      rw [after] at done
      split at done
      · cases done
      · cases done
        cases member
  | commit =>
      rw [after] at done
      split at done
      · cases done
        cases member
      · cases done
  | rollback =>
      rw [after] at done
      split at done
      · cases done
        cases member
      · cases done
  | savepoint opened =>
      cases done
      rcases List.mem_cons.mp member with rfl | old
      · exact Or.inr rfl
      · exact Or.inl old
  | release closed =>
      rw [after] at done
      split at done
      · cases done
      · rename_i found
        cases done
        exact Or.inl (outward (found ▸ List.mem_cons_of_mem _ member))
  | rollbackTo kept =>
      rw [after] at done
      split at done
      · cases done
      · cases done
        exact Or.inl (outward member)

end Transaction
end Sql
end FeedDesk
