import FeedDesk.Proofs.Sql.Word
import FeedDesk.Proofs.Store.Documented
import FeedDesk.Proofs.Store.Reachable

namespace FeedDesk

open Sql

/-!
# The engine of connections

The engine of connections is small, but it is as documented.  What it reads as a
statement about the transaction is found by its first word, so no statement of a
plan is one, and the name of a savepoint is a word, so that it can be written
again to release it.  A fixture is added by it in one step or not at all.
-/

namespace Sql

theorem withoutEnd_cons {placed : Placed} (solid : placed.token ≠ .symbol ';') (tokens : List Placed) :
    withoutEnd (placed :: tokens) = placed :: withoutEnd tokens := by
  rw [withoutEnd, List.reverse_cons, withoutEnd, List.dropWhile_append]
  split
  · rename_i nothing
    rw [List.isEmpty_iff.mp nothing, List.dropWhile_cons_of_neg]
    · rfl
    · exact fun same => solid (beq_iff_eq.mp same)
  · rw [List.reverse_append]
    rfl

theorem Token.exists_cons_of_select {rest : Text} {tokens : List Placed}
    (read : ofText? ("SELECT " ++ rest) = some tokens) : ∃ later, tokens = ⟨0, .word "SELECT"⟩ :: later := by
  have verb : first? 'S' ("ELECT " ++ rest) = some (.word "SELECT", ' ' :: rest) := rfl
  change all? (rest.length + 7) 0 ('S' :: ("ELECT " ++ rest)) = _ at read
  rw [all?, if_neg (by decide)] at read
  obtain ⟨⟨token, behind⟩, found, read⟩ := Option.bind_eq_some_iff.mp read
  cases verb.symm.trans found
  obtain ⟨later, _, same⟩ := Option.bind_eq_some_iff.mp read
  cases same
  exact ⟨later, rfl⟩

/-- A text that begins with the word `SELECT` says nothing about the transaction. -/
theorem Command.ofText_select_ne_control (rest : Text) (control : Control) :
    ofText ("SELECT " ++ rest) ≠ .ok (.control control) := by
  intro read
  unfold ofText at read
  split at read
  · rename_i command found
    cases read
    obtain ⟨tokens, cut, parsed⟩ := Option.bind_eq_some_iff.mp found
    obtain ⟨all, tokenized, rfl⟩ := Option.map_eq_some_iff.mp cut
    obtain ⟨later, rfl⟩ := Token.exists_cons_of_select tokenized
    have solid : Token.word "SELECT" ≠ .symbol ';' := fun impossible => nomatch impossible
    have keyword : Text.asciiLower "SELECT" = "select" := rfl
    rw [withoutEnd_cons solid, ofTokens?, if_pos keyword] at parsed
    split at parsed <;> cases parsed
  · cases read

end Sql

namespace Connection

/-! ## Adding a fixture -/

theorem insertAll_products (connection : Connection) (summary : ImportSummary) (records : List ProductRecord)
    (insertions : List Insertion) :
    engine.insertAll connection summary (records.map .product ++ insertions) =
      engine.insertAll { connection with catalog := records.foldl Catalog.addProduct connection.catalog }
        { summary with products := summary.products + records.length } insertions := by
  induction records generalizing connection summary with
  | nil => rfl
  | cons record records inductionHypothesis =>
      change engine.insertAll _ _ (records.map .product ++ insertions) = _
      rw [inductionHypothesis, List.length_cons, ← Nat.add_assoc, Nat.add_right_comm]
      rfl

theorem insertAll_rules (connection : Connection) (summary : ImportSummary) (records : List RestrictionRecord) :
    engine.insertAll connection summary (records.map .rule) =
      (.ok (connection.catalog.addRestrictions summary records).2,
        { connection with catalog := (connection.catalog.addRestrictions summary records).1 }) := by
  induction records generalizing connection summary with
  | nil => rfl
  | cons record records inductionHypothesis =>
      rw [List.map_cons, Engine.insertAll, Catalog.addRestrictions]
      cases found : connection.catalog.addRestriction record with
      | none =>
          have inserted : engine.insert connection (.rule record) = (.ok 0, connection) := by
            change connection.insert (.rule record) = _
            rw [insert, found]
          rw [inserted]
          exact inductionHypothesis connection _
      | some catalog =>
          have inserted : engine.insert connection (.rule record) = (.ok 1, { connection with catalog }) := by
            change connection.insert (.rule record) = _
            rw [insert, found]
          rw [inserted]
          exact inductionHypothesis { connection with catalog } _

theorem insertAll_insertions (connection : Connection) (fixture : Fixture) :
    engine.insertAll connection {} fixture.insertions =
      (.ok (connection.catalog.add fixture).2,
        { connection with catalog := (connection.catalog.add fixture).1 }) := by
  rw [Fixture.insertions, insertAll_products, insertAll_rules, Nat.zero_add]
  rfl

theorem runControl_of_ok {connection : Connection} {control : Control} {next : Transaction}
    (done : connection.transaction.after control = .ok next) :
    connection.runControl control [] = (.ok [], { connection with transaction := next }) := by
  rw [runControl, done]

theorem runControl_of_error {connection : Connection} {control : Control} {error : QueryError}
    (refused : connection.transaction.after control = .error error) :
    connection.runControl control [] = (.error error, connection) := by
  rw [runControl, refused]

theorem prepare_of_ok {sql : Text} {command : Command} (read : Command.ofText sql = .ok command)
    (connection : Connection) : engine.prepare connection sql = .ok (connection.prepared sql command) := by
  unfold engine
  dsimp only
  rw [read]

theorem carryOut_of_ok {connection : Connection} {sql : Text} {control : Control} {next : Transaction}
    (read : Command.ofText sql = .ok (.control control)) (done : connection.transaction.after control = .ok next) :
    engine.carryOut connection sql = (.ok [], { connection with transaction := next }) := by
  rw [Engine.carryOut, prepare_of_ok read]
  change (Except.mapError _ (connection.runControl control []).1, (connection.runControl control []).2) = _
  rw [runControl_of_ok done]
  rfl

theorem carryOut_of_error {connection : Connection} {sql : Text} {control : Control} {error : QueryError}
    (read : Command.ofText sql = .ok (.control control))
    (refused : connection.transaction.after control = .error error) :
    engine.carryOut connection sql = (.error error.chain, connection) := by
  rw [Engine.carryOut, prepare_of_ok read]
  change (Except.mapError _ (connection.runControl control []).1, (connection.runControl control []).2) = _
  rw [runControl_of_error refused]
  rfl

/-- The engine adds a fixture in the way of its connections. -/
theorem add_eq (connection : Connection) (fixture : Fixture) :
    engine.add connection fixture =
      ((connection.add fixture).1.mapError QueryError.chain, (connection.add fixture).2) := by
  have begins : Command.ofText "BEGIN DEFERRED" = .ok (.control .begin) := rfl
  have commits : Command.ofText "COMMIT" = .ok (.control .commit) := rfl
  rw [Engine.add, add]
  by_cases opened : connection.transaction.isOpen = true
  · rw [carryOut_of_error begins (if_pos opened), if_pos opened]
    rfl
  · obtain ⟨catalog, transaction⟩ := connection
    cases Transaction.eq_of_not_isOpen opened
    have begun : Transaction.after {} .begin = .ok { isBegun := true } := rfl
    have committed : Transaction.after { isBegun := true } .commit = .ok {} := rfl
    rw [carryOut_of_ok begins begun, if_neg opened]
    dsimp only
    rw [insertAll_insertions]
    dsimp only
    rw [carryOut_of_ok commits committed]
    rfl

/-! ## The laws -/

def account : Account Connection where
  isOpened connection := connection.transaction = {}
  catalog := Connection.catalog
  transaction := Connection.transaction
  control? sql := match Command.ofText sql with
    | .ok (.control control) => some control
    | _ => none
  isSetting _ := False

theorem read_of_control? {sql : Text} {control : Control} (known : account.control? sql = some control) :
    Command.ofText sql = .ok (.control control) := by
  unfold account at known
  dsimp only at known
  split at known
  · rename_i read
    cases known
    exact read
  · cases known

theorem run_eq_of_no_control {connection : Connection} {sql : Text} {prepared : Prepared Connection}
    (noControl : account.control? sql = none) (ready : engine.prepare connection sql = .ok prepared)
    (parameters : List Parameter) : (prepared.run parameters).2 = connection := by
  unfold engine at ready
  dsimp only at ready
  split at ready
  · cases ready
  · rename_i command read
    cases ready
    cases command with
    | select selection => rfl
    | change => rfl
    | control control =>
        unfold account at noControl
        dsimp only at noControl
        rw [read] at noControl
        cases noControl

theorem execute_of_no_control {connection : Connection} {statement : Statement}
    (noControl : account.control? statement.sql = none) : (engine.execute connection statement).2 = connection := by
  by_cases passes : engine.Passes connection statement.sql
  · obtain ⟨prepared, ready, readOnly⟩ := passes
    rw [Engine.execute_of_passes ready readOnly]
    exact run_eq_of_no_control noControl ready statement.parameters
  · exact Engine.execute_of_not_passes passes

theorem follows_runControl (connection : Connection) (control : Control) :
    account.Follows connection control
      ((connection.runControl control []).1.mapError QueryError.chain, (connection.runControl control []).2) := by
  cases moved : connection.transaction.after control with
  | error error =>
      have here : (account.transaction connection).after control = .error error := moved
      rw [Account.Follows, here, runControl_of_error moved]
      exact ⟨error.chain, rfl⟩
  | ok next =>
      have here : (account.transaction connection).after control = .ok next := moved
      rw [Account.Follows, here, runControl_of_ok moved]
      exact ⟨_, rfl, rfl, fun same => congrArg (Connection.mk connection.catalog) same⟩

theorem mem_savepoints_runControl {connection : Connection} {control : Control} {parameters : List Parameter}
    {name : Text} (member : name ∈ (connection.runControl control parameters).2.transaction.savepoints) :
    name ∈ connection.transaction.savepoints ∨ control = .savepoint name := by
  cases parameters with
  | nil =>
      cases moved : connection.transaction.after control with
      | error error =>
          rw [runControl_of_error moved] at member
          exact Or.inl member
      | ok next =>
          rw [runControl_of_ok moved] at member
          exact Transaction.mem_savepoints_after moved member
  | cons parameter parameters => exact Or.inl member

/-- The savepoints of a connection have names that can be written. -/
theorem isWord_of_reachable {connection : Connection} (reachable : engine.Reachable account connection) :
    ∀ name ∈ connection.transaction.savepoints, IsWord name := by
  induction reachable with
  | @opened connection fresh =>
      have nothing : connection.transaction = {} := fresh
      rw [nothing]
      exact fun _ member => nomatch member
  | @executed connection statement _ inductionHypothesis =>
      intro name member
      cases known : account.control? statement.sql with
      | none =>
          rw [execute_of_no_control known] at member
          exact inductionHypothesis name member
      | some control =>
          have read := read_of_control? known
          rw [Engine.execute, prepare_of_ok read] at member
          rcases mem_savepoints_runControl member with old | rfl
          · exact inductionHypothesis name old
          · exact Command.isWord_of_savepoint read
  | @added connection fixture _ inductionHypothesis =>
      rw [add_eq, add]
      split
      · exact inductionHypothesis
      · exact inductionHypothesis

theorem documented : engine.Documented account where
  reads := by
    intro connection sql prepared _ ready _ parameters
    obtain ⟨transaction, leaves⟩ := exists_run_eq ready parameters
    rw [leaves]
    rfl
  controls := by
    intro connection sql control _ known
    refine ⟨_, prepare_of_ok (read_of_control? known) connection, rfl, follows_runControl connection control, ?_⟩
    intro parameters given
    refine ⟨(QueryError.wrongParameterCount parameters.length 0).chain, ?_⟩
    change (Except.mapError _ (connection.runControl control parameters).1, _) = _
    obtain ⟨parameter, others, rfl⟩ := List.exists_cons_of_ne_nil given
    rfl
  selects _ noControl _ ready _ := run_eq_of_no_control noControl ready
  plans := by
    intro plan
    refine ⟨?_, id⟩
    unfold account
    dsimp only
    split
    · rename_i control read
      exact absurd read (Command.ofText_select_ne_control _ control)
    · rfl
  begins := ⟨rfl, rfl⟩
  releases := by
    intro connection reachable name member
    refine ⟨"RELEASE " ++ name, ?_⟩
    unfold account
    dsimp only
    rw [Command.ofText_release (isWord_of_reachable reachable name member)]

end Connection
end FeedDesk
