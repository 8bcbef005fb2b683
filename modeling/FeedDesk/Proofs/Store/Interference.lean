import FeedDesk.Proofs.Desk.Advice
import FeedDesk.Proofs.Store.Documented
import FeedDesk.Proofs.Store.SmallEngine

namespace FeedDesk

open Sql

/-!
# What a statement leaves behind

No statement that a desk executes changes the tables of its engine, but a
connection also holds a transaction, and statements may open and close it.
States are compared here by what can be learnt from them: the answers to any
sequence of statements, counts and imports.  Two states answer alike only if a
transaction is open on both or on neither, and if the savepoints of every name
can be released equally often.  So a statement goes unnoticed exactly if it does
not move the transaction.  Settings are set aside, because it is not known what
they change.
-/

/-! ## What can be learnt from a state -/

inductive Operation
  | execute (statement : Statement)
  | statistics
  | add (fixture : Fixture)

/-- What an operation gives. -/
inductive Observation
  | rows (answer : Except ErrorChain (List Row))
  | statistics (answer : Except ErrorChain Statistics)
  | added (answer : Except ErrorChain ImportSummary)

namespace Engine

variable {State : Type}

def perform (engine : Engine State) (state : State) : Operation → Observation × State
  | .execute statement =>
    let (answer, next) := engine.execute state statement
    (.rows answer, next)
  | .statistics => (.statistics (engine.statistics state), state)
  | .add fixture =>
    let (answer, next) := engine.add state fixture
    (.added answer, next)

/-- What operations give that are done one after another. -/
def observe (engine : Engine State) : State → List Operation → List Observation
  | _, [] => []
  | state, operation :: operations =>
    let (observation, next) := engine.perform state operation
    observation :: engine.observe next operations

/-- No sequence of operations tells the states apart. -/
def Alike (engine : Engine State) (first second : State) : Prop :=
  ∀ operations, engine.observe first operations = engine.observe second operations

variable {engine : Engine State} {account : Account State} {state first second : State} {statement : Statement}
  {control : Control}

namespace Alike

theorem answer (alike : engine.Alike first second) (statement : Statement) :
    (engine.execute first statement).1 = (engine.execute second statement).1 := by
  have observed := (List.cons.inj (alike [.execute statement])).1
  exact Observation.rows.inj observed

theorem step (alike : engine.Alike first second) (statement : Statement) :
    engine.Alike (engine.execute first statement).2 (engine.execute second statement).2 := fun operations =>
  (List.cons.inj (alike (.execute statement :: operations))).2

/-- A statement that begins a transaction tells whether one is open. -/
theorem isOpen_eq (alike : engine.Alike first second) (documented : engine.Documented account)
    (firstReachable : engine.Reachable account first) (secondReachable : engine.Reachable account second) :
    (account.transaction first).isOpen = (account.transaction second).isOpen := by
  have firstCloses := documented.begin_eq_ok_iff firstReachable
  have secondCloses := documented.begin_eq_ok_iff secondReachable
  rw [alike.answer, secondCloses] at firstCloses
  rw [Bool.eq_iff_iff, ← Bool.not_eq_false, ← Bool.not_eq_false, firstCloses]

theorem depth_ne_zero_iff (alike : engine.Alike first second) (documented : engine.Documented account)
    (firstReachable : engine.Reachable account first) (secondReachable : engine.Reachable account second)
    {sql name : Text} (known : account.control? sql = some (.release name)) :
    (account.transaction first).depth name ≠ 0 ↔ (account.transaction second).depth name ≠ 0 := by
  rw [← documented.release_eq_ok_iff firstReachable known, ← documented.release_eq_ok_iff secondReachable known,
    alike.answer]

/-- Savepoints of a name are released on both sides until one side has none left. -/
theorem depth_eq (alike : engine.Alike first second) (documented : engine.Documented account)
    (firstReachable : engine.Reachable account first) (secondReachable : engine.Reachable account second)
    {sql name : Text} (known : account.control? sql = some (.release name)) :
    (account.transaction first).depth name = (account.transaction second).depth name := by
  generalize deep : (account.transaction first).depth name = depth
  induction depth generalizing first second with
  | zero =>
      have held := alike.depth_ne_zero_iff documented firstReachable secondReachable known
      rw [deep] at held
      exact (not_not.mp fun other => held.mpr other rfl).symm
  | succ depth inductionHypothesis =>
      have held := alike.depth_ne_zero_iff documented firstReachable secondReachable known
      rw [deep] at held
      obtain ⟨further, other⟩ := Nat.exists_eq_succ_of_ne_zero (held.mp (Nat.succ_ne_zero depth))
      have firstDepth := documented.depth_release firstReachable known deep
      have secondDepth := documented.depth_release secondReachable known other
      have same := inductionHypothesis (alike.step ⟨sql, []⟩) (firstReachable.executed ⟨sql, []⟩)
        (secondReachable.executed ⟨sql, []⟩) firstDepth
      rw [secondDepth] at same
      rw [other, same]

end Alike

/-! ## Which statements are noticed -/

namespace Documented

/-- A statement that moves the transaction is noticed. -/
theorem not_alike_of_moves (documented : engine.Documented account) (reachable : engine.Reachable account state)
    {sql : Text} (known : account.control? sql = some control) (moves : (account.transaction state).Moves control) :
    ¬engine.Alike (engine.execute state ⟨sql, []⟩).2 state := by
  intro alike
  have later : engine.Reachable account (engine.execute state ⟨sql, []⟩).2 := .executed _ reachable
  obtain ⟨next, done, different⟩ := Transaction.exists_after_of_moves moves
  obtain ⟨after, executed, rfl, _⟩ := documented.execute_of_after_ok reachable known done
  rw [executed] at alike later
  -- The savepoint that tells the two apart may be gone afterwards or be new.
  rcases different with open' | ⟨name, member, deeper⟩
  · exact open' (alike.isOpen_eq documented later reachable).symm
  · have releasable : ∃ sql, account.control? sql = some (.release name) := by
      rcases List.mem_append.mp member with before | afterwards
      · exact documented.releases reachable name before
      · exact documented.releases later name afterwards
    obtain ⟨releasing, releases⟩ := releasable
    exact deeper (alike.depth_eq documented later reachable releases).symm

theorem execute_of_not_moves (documented : engine.Documented account) (reachable : engine.Reachable account state)
    {sql : Text} (known : account.control? sql = some control)
    (stays : ¬(account.transaction state).Moves control) : (engine.execute state ⟨sql, []⟩).2 = state := by
  rcases Transaction.after_of_not_moves stays with same | ⟨refusal, refused⟩
  · obtain ⟨after, executed, _, kept⟩ := documented.execute_of_after_ok reachable known same
    rw [executed]
    exact kept rfl
  · obtain ⟨error, executed⟩ := documented.execute_of_after_error reachable known refused
    rw [executed]

theorem execute_of_stays (documented : engine.Documented account) (reachable : engine.Reachable account state)
    (noSetting : ¬account.isSetting statement.sql)
    (stays : ∀ control, account.control? statement.sql = some control → statement.parameters = [] →
      ¬(account.transaction state).Moves control) : (engine.execute state statement).2 = state := by
  obtain ⟨sql, parameters⟩ := statement
  cases known : account.control? sql with
  | none => exact documented.execute_of_selection reachable known noSetting
  | some control =>
      by_cases given : parameters = []
      · rw [given]
        exact documented.execute_of_not_moves reachable known (stays control known given)
      · exact documented.execute_of_parameters reachable known given

end Documented

/-! ## Questions at a desk over an engine -/

section Desk

variable {desk : Desk State} (onEngine : desk.store = engine.store)

include onEngine

theorem state_ask (session : Session State) (question : Text) (forced : Option Language) :
    (desk.ask session question forced).2.state =
      (engine.execute session.state (desk.approach session question forced).query.statement).2 := by
  rw [Desk.ask_state, onEngine]
  rfl

/-- However many questions are asked, and whatever an oracle suggests, the tables
stay as they were. -/
theorem Documented.catalog_askAll (documented : engine.Documented account) {session : Session State}
    (reachable : engine.Reachable account session.state) (questions : List (Text × Option Language)) :
    engine.Reachable account (desk.askAll session questions).2.state ∧
      account.catalog (desk.askAll session questions).2.state = account.catalog session.state := by
  induction questions generalizing session with
  | nil => exact ⟨reachable, rfl⟩
  | cons asked questions inductionHypothesis =>
      obtain ⟨question, forced⟩ := asked
      have executed := state_ask onEngine session question forced
      have next : engine.Reachable account (desk.ask session question forced).2.state := by
        rw [executed]
        exact .executed _ reachable
      obtain ⟨last, kept⟩ := inductionHypothesis next
      rw [Desk.askAll_cons]
      refine ⟨last, kept.trans ?_⟩
      rw [executed]
      exact documented.catalog_execute reachable _

end Desk

/-- An engine that is as documented keeps its tables, whatever statement a desk
executes, and a statement that does not pass the gate leaves the engine as it
was.  If the statement is no setting, then what is learnt from the engine later
on changes exactly if the statement is one about the transaction, comes without
values and moves the transaction.  An answer of a desk leaves the engine as it
was, unless an oracle suggests a statement, and then it executes just this
statement. -/
theorem execute_alike_iff (documented : engine.Documented account) (reachable : engine.Reachable account state)
    (statement : Statement) :
    account.catalog (engine.execute state statement).2 = account.catalog state ∧
      (¬engine.Passes state statement.sql → (engine.execute state statement).2 = state) ∧
      (¬account.isSetting statement.sql →
        (engine.Alike (engine.execute state statement).2 state ↔
          ∀ control, account.control? statement.sql = some control → statement.parameters = [] →
            ¬(account.transaction state).Moves control)) ∧
      ∀ (desk : Desk State) (session : Session State) (question : Text) (forced : Option Language),
        desk.store = engine.store → session.state = state →
          (desk.suggestion? session question forced = none →
            (desk.ask session question forced).2.state = state) ∧
          ∀ suggestion, desk.suggestion? session question forced = some suggestion →
            statement = ⟨suggestion.sql, []⟩ →
              (desk.ask session question forced).2.state = (engine.execute state statement).2 := by
  refine ⟨documented.catalog_execute reachable statement, execute_of_not_passes,
    fun noSetting => ⟨?_, fun stays => ?_⟩, ?_⟩
  · intro alike control known valueless moves
    obtain ⟨sql, parameters⟩ := statement
    cases valueless
    exact documented.not_alike_of_moves reachable known moves alike
  · rw [documented.execute_of_stays reachable noSetting stays]
    exact fun _ => rfl
  · rintro desk session question forced onEngine rfl
    rw [state_ask onEngine, Desk.approach]
    constructor
    · intro unadvised
      rw [unadvised]
      obtain ⟨noControl, noSetting⟩ := documented.plans (desk.synthesis session question).plan
      exact documented.execute_of_selection reachable noControl noSetting
    · rintro suggestion suggested rfl
      rw [suggested]
      rfl

end Engine

namespace Connection

/-- A connection on which a transaction was begun. -/
def begun : Connection where
  transaction := { isBegun := true }

/-- While a transaction is open, beginning another one is refused and goes unnoticed. -/
theorem execute_alike_iff_begun :
    engine.Documented account ∧ engine.Reachable account begun ∧
      engine.Alike (engine.execute begun ⟨"BEGIN", []⟩).2 begun := by
  have fresh : engine.Reachable account {} := .opened rfl
  have reachable : engine.Reachable account begun := fresh.executed ⟨"BEGIN", []⟩
  refine ⟨documented, reachable, ?_⟩
  obtain ⟨-, -, alike, -⟩ := Engine.execute_alike_iff documented reachable ⟨"BEGIN", []⟩
  refine (alike id).mpr fun control known _ closed => ?_
  cases documented.begins.1.symm.trans known
  cases closed

/-- Nothing is open at first, so beginning a transaction is carried out, and it
is noticed: an import that was possible before is refused afterwards. -/
theorem begin_noticed :
    engine.Documented account ∧ engine.Reachable account {} ∧ (engine.execute {} ⟨"BEGIN", []⟩).1 = .ok [] ∧
      engine.observe {} [.add {}] = [.added (.ok {})] ∧
      engine.observe (engine.execute {} ⟨"BEGIN", []⟩).2 [.add {}] =
        [.added (.error QueryError.transactionOpen.chain)] ∧
      ¬engine.Alike (engine.execute {} ⟨"BEGIN", []⟩).2 {} := by
  have fresh : engine.Reachable account {} := .opened rfl
  exact ⟨documented, fresh, rfl, rfl, rfl, documented.not_alike_of_moves fresh documented.begins.1 rfl⟩

end Connection
end FeedDesk
