import FeedDesk.Proofs.Sql.Transaction
import FeedDesk.Store.Engine

namespace FeedDesk

open Sql

/-!
# Engines as they are documented

A database engine is foreign code, and what can be relied on is its
documentation.  An account of an engine says what its states and its texts are
in the terms of the documentation: which tables and which transaction a state
has, and which texts are statements about the transaction.  The laws then say
what is documented of these.  They are asked only of the states that a desk can
bring its engine to, because there no change of a table is left unfinished.

A statement is flagged as one that only reads if it leaves the tables alone.
This does not mean that it leaves no trace: statements about the transaction are
flagged so, and so are the statements that set something else of a connection.
Of the latter nothing more is asked; an account names their texts, so that they
can be set aside.
-/

structure Account (State : Type) where
  /-- The connection has just been opened. -/
  isOpened : State → Prop
  catalog : State → Catalog
  transaction : State → Transaction
  /-- What a text says about the transaction. -/
  control? : Text → Option Control
  /-- The text is flagged as one that only reads, but it is no selection: it
  changes what the connection holds beside its tables and its transaction. -/
  isSetting : Text → Prop

/-- What a statement about the transaction does.  It is refused and changes
nothing, or it gives no rows and moves the transaction; if the transaction stays
as it was, then so does everything else. -/
def Account.Follows {State : Type} (account : Account State) (state : State) (control : Control)
    (outcome : Except ErrorChain (List Row) × State) : Prop :=
  match (account.transaction state).after control with
  | .error _ => ∃ error, outcome = (.error error, state)
  | .ok next => ∃ after, outcome = (.ok [], after) ∧ account.transaction after = next ∧
      (next = account.transaction state → after = state)

namespace Engine

variable {State : Type}

/-- The states to which a desk can bring an engine. -/
inductive Reachable (engine : Engine State) (account : Account State) : State → Prop
  | opened {state : State} : account.isOpened state → Reachable engine account state
  | executed {state : State} (statement : Statement) : Reachable engine account state →
      Reachable engine account (engine.execute state statement).2
  | added {state : State} (fixture : Fixture) : Reachable engine account state →
      Reachable engine account (engine.add state fixture).2

structure Documented (engine : Engine State) (account : Account State) : Prop where
  /-- A statement that is flagged as one that only reads leaves the tables alone. -/
  reads : ∀ {state sql prepared}, engine.Reachable account state → engine.prepare state sql = .ok prepared →
    prepared.readOnly = true → ∀ parameters, account.catalog (prepared.run parameters).2 = account.catalog state
  /-- A statement about the transaction is flagged so. -/
  controls : ∀ {state sql control}, engine.Reachable account state → account.control? sql = some control →
    ∃ prepared, engine.prepare state sql = .ok prepared ∧ prepared.readOnly = true ∧
      account.Follows state control (prepared.run []) ∧
      -- It has no placeholders.
      ∀ parameters, parameters ≠ [] → ∃ error, prepared.run parameters = (.error error, state)
  /-- Other statements that are flagged so are selections, unless they set something. -/
  selects : ∀ {state sql prepared}, engine.Reachable account state → account.control? sql = none →
    ¬account.isSetting sql → engine.prepare state sql = .ok prepared → prepared.readOnly = true →
      ∀ parameters, (prepared.run parameters).2 = state
  /-- The statements of plans are selections. -/
  plans : ∀ plan : CatalogPlan,
    account.control? plan.written.statement.sql = none ∧ ¬account.isSetting plan.written.statement.sql
  begins : account.control? "BEGIN" = some .begin ∧ account.control? "BEGIN DEFERRED" = some .begin
  /-- A savepoint is released by its name, however the name has to be written. -/
  releases : ∀ {state}, engine.Reachable account state → ∀ name ∈ (account.transaction state).savepoints,
    ∃ sql, account.control? sql = some (.release name)

namespace Documented

variable {engine : Engine State} {account : Account State} {state : State} {statement : Statement}
  {control : Control}

/-- No statement that a desk executes changes the tables. -/
theorem catalog_execute (documented : engine.Documented account) (reachable : engine.Reachable account state)
    (statement : Statement) : account.catalog (engine.execute state statement).2 = account.catalog state := by
  by_cases passes : engine.Passes state statement.sql
  · obtain ⟨prepared, ready, readOnly⟩ := passes
    rw [execute_of_passes ready readOnly]
    exact documented.reads reachable ready readOnly statement.parameters
  · rw [execute_of_not_passes passes]

/-- A selection leaves no trace, and neither does a statement that is refused. -/
theorem execute_of_selection (documented : engine.Documented account) (reachable : engine.Reachable account state)
    (noControl : account.control? statement.sql = none) (noSetting : ¬account.isSetting statement.sql) :
    (engine.execute state statement).2 = state := by
  by_cases passes : engine.Passes state statement.sql
  · obtain ⟨prepared, ready, readOnly⟩ := passes
    rw [execute_of_passes ready readOnly]
    exact documented.selects reachable noControl noSetting ready readOnly statement.parameters
  · exact execute_of_not_passes passes

section Control

variable (documented : engine.Documented account) (reachable : engine.Reachable account state) {sql : Text}
  (known : account.control? sql = some control)

include documented reachable known

/-- The gate lets the statement through, so it is run in the same way by itself
and in an import. -/
theorem exists_run_eq :
    ∃ prepared : Prepared State, (∀ parameters, engine.execute state ⟨sql, parameters⟩ = prepared.run parameters) ∧
      engine.carryOut state sql = prepared.run [] ∧ account.Follows state control (prepared.run []) ∧
      ∀ parameters, parameters ≠ [] → ∃ error, prepared.run parameters = (.error error, state) := by
  obtain ⟨prepared, ready, readOnly, follows, surplus⟩ := documented.controls reachable known
  refine ⟨prepared, fun parameters => execute_of_passes ready readOnly, ?_, follows, surplus⟩
  rw [carryOut, ready]

theorem carryOut_eq_execute : engine.carryOut state sql = engine.execute state ⟨sql, []⟩ := by
  obtain ⟨prepared, executed, carriedOut, _⟩ := documented.exists_run_eq reachable known
  rw [executed, carriedOut]

theorem execute_of_after_error {refusal : QueryError}
    (refused : (account.transaction state).after control = .error refusal) :
    ∃ error, engine.execute state ⟨sql, []⟩ = (.error error, state) := by
  obtain ⟨prepared, executed, _, follows, _⟩ := documented.exists_run_eq reachable known
  rw [Account.Follows, refused] at follows
  rw [executed]
  exact follows

theorem execute_of_after_ok {next : Transaction} (done : (account.transaction state).after control = .ok next) :
    ∃ after, engine.execute state ⟨sql, []⟩ = (.ok [], after) ∧ account.transaction after = next ∧
      (next = account.transaction state → after = state) := by
  obtain ⟨prepared, executed, _, follows, _⟩ := documented.exists_run_eq reachable known
  rw [Account.Follows, done] at follows
  rw [executed]
  exact follows

/-- With values a statement about the transaction is refused. -/
theorem execute_of_parameters {parameters : List Parameter} (given : parameters ≠ []) :
    (engine.execute state ⟨sql, parameters⟩).2 = state := by
  obtain ⟨prepared, executed, _, _, surplus⟩ := documented.exists_run_eq reachable known
  obtain ⟨error, refused⟩ := surplus parameters given
  rw [executed, refused]

end Control

/-- A transaction is begun exactly if none is open. -/
theorem begin_eq_ok_iff (documented : engine.Documented account) (reachable : engine.Reachable account state) :
    (engine.execute state ⟨"BEGIN", []⟩).1 = .ok [] ↔ (account.transaction state).isOpen = false := by
  have begins := documented.begins.1
  cases opened : (account.transaction state).isOpen with
  | true =>
      obtain ⟨error, executed⟩ := documented.execute_of_after_error reachable begins (if_pos opened)
      rw [executed]
      exact ⟨fun impossible => (nomatch impossible), fun impossible => (nomatch impossible)⟩
  | false =>
      obtain ⟨after, executed, _⟩ := documented.execute_of_after_ok reachable begins
        (if_neg (Bool.eq_false_iff.mp opened))
      rw [executed]
      exact ⟨fun _ => rfl, fun _ => rfl⟩

section Release

variable (documented : engine.Documented account) (reachable : engine.Reachable account state) {sql name : Text}
  (known : account.control? sql = some (.release name))

include documented reachable known

/-- A savepoint is released exactly if one of the name is open. -/
theorem release_eq_ok_iff :
    (engine.execute state ⟨sql, []⟩).1 = .ok [] ↔ (account.transaction state).depth name ≠ 0 := by
  cases deep : (account.transaction state).depth name with
  | zero =>
      obtain ⟨error, executed⟩ := documented.execute_of_after_error reachable known
        (Transaction.release_of_depth_eq_zero deep)
      rw [executed]
      exact ⟨fun impossible => (nomatch impossible), fun impossible => absurd rfl impossible⟩
  | succ further =>
      obtain ⟨next, done, _⟩ := Transaction.release_of_depth_eq_succ deep
      obtain ⟨after, executed, _⟩ := documented.execute_of_after_ok reachable known done
      rw [executed]
      exact ⟨fun _ => Nat.succ_ne_zero further, fun _ => rfl⟩

theorem depth_release {further : Nat} (deep : (account.transaction state).depth name = further + 1) :
    (account.transaction (engine.execute state ⟨sql, []⟩).2).depth name = further := by
  obtain ⟨next, done, shallower⟩ := Transaction.release_of_depth_eq_succ deep
  obtain ⟨after, executed, rfl, _⟩ := documented.execute_of_after_ok reachable known done
  rw [executed]
  exact shallower

end Release

/-- While a transaction is open, no fixture is added. -/
theorem add_of_isOpen (documented : engine.Documented account) (reachable : engine.Reachable account state)
    (opened : (account.transaction state).isOpen = true) (fixture : Fixture) :
    ∃ error, engine.add state fixture = (.error error, state) := by
  have begins := documented.begins.2
  obtain ⟨error, executed⟩ := documented.execute_of_after_error reachable begins (if_pos opened)
  refine ⟨error, ?_⟩
  rw [add, documented.carryOut_eq_execute reachable begins, executed]

end Documented
end Engine
end FeedDesk
