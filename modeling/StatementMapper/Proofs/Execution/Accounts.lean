import StatementMapper.Proofs.Execution.Calls

set_option autoImplicit false

/-! Reads ask a connection for queries only, writes for executions only, an end of a transaction for itself once. -/

namespace StatementMapper

open Cache
open StatementMapper.Action (Keeps)
open Stage (Asked Asks)

variable {T W : Type}

namespace Stage

-- An end of a transaction that has been asked for if it was required, and that succeeds only if the connection does.
structure Concludes (ask : Ask) (required : Bool) (stage : Stage T (Logged W)) (outcome : Except Fault Unit)
    (after : Stage T (Logged W)) : Prop where
  opened : after.own.closed = false
  calls : ∃ fine, after.world.calls = stage.world.calls ++ Call.ending ask required fine ∧
    (outcome.isOk = true → fine = true)

structure Shuts (required : Bool) (stage after : Stage T (Logged W)) : Prop where
  closed : after.own.closed = true
  calls : ∃ undone gone, after.world.calls = stage.world.calls ++ Call.ending .rollback required undone ++ [⟨.close, gone⟩]

theorem Concludes.still {ask : Ask} {required : Bool} {stage last : Stage T (Logged W)} {outcome other : Except Fault Unit}
    (concludes : Concludes ask required stage outcome last) (after : Stage T (Logged W))
    (opened : after.own.closed = last.own.closed) (calls : after.world.calls = last.world.calls)
    (sound : other.isOk = true → outcome.isOk = true) : Concludes ask required stage other after := by
  obtain ⟨fine, called, succeeds⟩ := concludes.calls
  constructor
  · exact opened.trans concludes.opened
  · exact ⟨fine, calls.trans called, fun done => succeeds (sound done)⟩

theorem concludes_noting (ask : Ask) (required : Bool) (action : Action W Unit) (stage : Stage T (Logged W))
    (opened : stage.own.closed = false) :
    Concludes ask required stage
      ((if required then Stage.inWorld (Logged.noting ask action) else pure () : Action _ Unit).run stage).1
      ((if required then Stage.inWorld (Logged.noting ask action) else pure () : Action _ Unit).run stage).2 := by
  cases required with
  | true => exact ⟨opened, _, rfl, id⟩
  | false => exact ⟨opened, true, (List.append_nil _).symm, fun _ => rfl⟩

end Stage

structure Executor.Accounts (executor : Executor (Stage T (Logged W))) : Prop where
  view : ∀ stage, executor.closed stage = stage.own.closed
  createKey : ∀ start statement parameter bounds command,
    Asks .query start (executor.createKey statement parameter bounds command)
  query : ∀ start statement parameter bounds receiver, (∀ handler, receiver = some handler → handler.Quiet) →
    Asks .query start (executor.query statement parameter bounds receiver)
  queryBound : ∀ start statement parameter bounds receiver key command,
    (∀ handler, receiver = some handler → handler.Quiet) →
      Asks .query start (executor.queryBound statement parameter bounds receiver key command)
  update : ∀ start statement parameter, Asks .execute start (executor.update statement parameter)
  clearLocal : ∀ start, Asks .query start executor.clearLocal
  commit : ∀ required stage, stage.own.closed = false →
    Stage.Concludes .commit required stage ((executor.commit required).run stage).1
      ((executor.commit required).run stage).2
  rollback : ∀ required stage, stage.own.closed = false →
    Stage.Concludes .rollback required stage ((executor.rollback required).run stage).1
      ((executor.rollback required).run stage).2
  close : ∀ required stage, stage.own.closed = false →
    Stage.Shuts required stage ((executor.close required).run stage).2

namespace Direct

variable {configuration : Configuration (Stage T (Logged W))} {database : Database W} {start : Stage T (Logged W)}

theorem asks_create_key (statement : Statement) (bounds : Bounds) (command : Command) :
    Asks .query start (createKey configuration statement bounds command) :=
  Keeps.before (triple_ensure_open _) fun _ => Action.keeps_pure _

theorem forgets (stage : Stage T (Logged W)) (asked : Asked .query start stage) : Asked .query start stage.forgotten :=
  asked.still _ rfl rfl

theorem asks_end_query : Asks .query start (endQuery configuration) :=
  triple_end_query forgets

variable (bare : configuration.chain = Chain.empty)

include bare

theorem asks_fetch (statement : Statement) (bounds : Bounds) (receiver : Option (RowHandler (Stage T (Logged W))))
    (quiet : ∀ handler, receiver = some handler → handler.Quiet) (command : Command) :
    Asks .query start (fetch configuration (database.logged.staged T) statement bounds receiver command) := by
  rw [fetch_bare configuration bare]
  apply Keeps.before
  · exact Stage.asks_noting (database.query _)
  · exact ResultSetHandler.asks_deliver bounds receiver quiet

theorem asks_fetch_once (statement : Statement) (bounds : Bounds) (key : Key) (command : Command) :
    Asks .query start (fetchOnce configuration (database.logged.staged T) statement bounds key command) := by
  apply Keeps.before (Action.keeps_look _)
  intro known
  cases known with
  | some rows => exact Action.keeps_pure _
  | none =>
      apply Keeps.before (asks_fetch bare statement bounds none nofun command)
      intro rows
      apply Keeps.before
      · exact Action.triple_change fun _ asked => asked.still _ rfl rfl
      · intro _
        apply Keeps.before asks_end_query
        exact fun _ => Action.keeps_pure _

theorem asks_stream (statement : Statement) (bounds : Bounds) (receiver : RowHandler (Stage T (Logged W)))
    (quiet : receiver.Quiet) (command : Command) :
    Asks .query start (stream configuration (database.logged.staged T) statement bounds receiver command) := by
  apply Keeps.before
  · apply asks_fetch bare
    rintro handler ⟨⟩
    exact quiet
  · intro rows
    apply Keeps.before asks_end_query
    exact fun _ => Action.keeps_pure _

theorem asks_query_bound (statement : Statement) (bounds : Bounds)
    (receiver : Option (RowHandler (Stage T (Logged W)))) (quiet : ∀ handler, receiver = some handler → handler.Quiet)
    (key : Key) (command : Command) :
    Asks .query start (queryBound configuration (database.logged.staged T) statement bounds receiver key command) := by
  cases receiver with
  | none => exact triple_flush forgets statement _ (asks_fetch_once bare statement bounds key command)
  | some handler => exact triple_flush forgets statement _ (asks_stream bare statement bounds handler (quiet handler rfl) command)

theorem asks_query (statement : Statement) (parameter : Parameter) (bounds : Bounds)
    (receiver : Option (RowHandler (Stage T (Logged W)))) (quiet : ∀ handler, receiver = some handler → handler.Quiet) :
    Asks .query start (query configuration (database.logged.staged T) statement parameter bounds receiver) := by
  apply Keeps.before
  · exact Action.keeps_outcome _
  · intro command
    apply Keeps.before (asks_create_key statement bounds command)
    exact fun key => asks_query_bound bare statement bounds receiver quiet key command

theorem asks_update (statement : Statement) (parameter : Parameter) :
    Asks .execute start (update configuration (database.logged.staged T) statement parameter) := by
  have sent : Asks .execute start (send configuration (database.logged.staged T) statement parameter) := by
    rw [send_bare configuration bare]
    apply Keeps.before
    · exact Action.keeps_outcome _
    · exact fun command => Stage.asks_noting (database.execute _)
  apply Keeps.before (triple_ensure_open _)
  intro _
  exact Keeps.before Stage.asks_clear_local fun _ => sent

omit bare

theorem concludes_ending (ask : Ask) (ending : Action W Unit) (otherwise : Action (Stage T (Logged W)) Unit)
    (required : Bool) (stage : Stage T (Logged W)) (opened : stage.own.closed = false) {outcome : Except Fault Unit}
    {after : Stage T (Logged W)}
    (ran : (do
      let closed ← Action.look fun stage => stage.own.closed
      if closed then otherwise
      else do
        clearLocal
        if required then Stage.inWorld (Logged.noting ask ending) else pure () : Action _ Unit).run stage =
      (outcome, after)) :
    Stage.Concludes ask required stage outcome after := by
  rw [Action.run_bind_ok (Action.run_look _ _), opened, if_neg Bool.false_ne_true,
    Action.run_bind_ok (run_clear_local stage opened)] at ran
  obtain ⟨open_still, called⟩ := Stage.concludes_noting ask required ending stage.forgotten opened
  rw [ran] at open_still called
  exact ⟨open_still, called⟩

theorem shuts_close (required : Bool) (stage : Stage T (Logged W)) (opened : stage.own.closed = false) :
    Stage.Shuts required stage ((close (database.logged.staged T) required).run stage).2 := by
  have rolled : Stage.Concludes .rollback required stage _ ((rollback (database.logged.staged T) required).run stage).2 :=
    concludes_ending .rollback database.rollback _ required stage opened rfl
  obtain ⟨_, undone, called, _⟩ := rolled
  rw [close, Action.run_bind_ok (Action.run_look _ _), opened]
  rw [if_neg Bool.false_ne_true, Action.run_bind_ok (Action.run_attempt _ _), Action.run_bind_ok (Action.run_attempt _ _),
    Stage.changeOwn, Action.run_bind_ok (Action.run_change _ _), Action.run_of_except]
  constructor
  · rfl
  · apply Exists.intro undone
    rw [← called]
    exact ⟨_, rfl⟩

theorem accounts (bare : configuration.chain = Chain.empty) :
    (executor configuration (database.logged.staged T)).Accounts where
  view _ := rfl
  createKey _ statement _ bounds command := asks_create_key statement bounds command
  query _ statement parameter bounds receiver quiet := asks_query bare statement parameter bounds receiver quiet
  queryBound _ statement _ bounds receiver key command quiet :=
    asks_query_bound bare statement bounds receiver quiet key command
  update _ statement parameter := asks_update bare statement parameter
  clearLocal _ := Stage.asks_clear_local
  commit required stage opened := concludes_ending .commit database.commit _ required stage opened rfl
  rollback required stage opened := concludes_ending .rollback database.rollback _ required stage opened rfl
  close := shuts_close

end Direct

namespace Caching

variable {inner : Executor (Stage T (Logged W))} {start : Stage T (Logged W)} {ask : Ask}

theorem asks_flush (statement : Statement) (region : String) : Asks ask start (flush statement region) := by
  unfold flush
  cases statement.flushing with
  | true => exact Stage.asks_in_staging (Staging.clear region)
  | false => exact Action.keeps_pure _

variable (accounts : inner.Accounts)

include accounts

theorem asks_update (statement : Statement) (parameter : Parameter) : Asks .execute start (update inner statement parameter) := by
  apply Keeps.before (triple_region_of _ statement)
  intro region
  cases region with
  | none => exact accounts.update start statement parameter
  | some region =>
      apply Keeps.before (Action.keeps_look _)
      intro checkpoint
      apply Keeps.before (asks_flush statement region)
      intro _
      apply Keeps.before
      · exact Action.triple_try (accounts.update start statement parameter)
      · intro outcome
        cases outcome with
        | ok count => exact Action.keeps_pure _
        | error cause =>
            apply Keeps.before
            · exact Action.triple_change fun _ asked => asked.still _ rfl rfl
            · exact fun _ => Action.triple_fail fun _ asked => asked

theorem concludes_rollback (required : Bool) (stage : Stage T (Logged W)) (opened : stage.own.closed = false) :
    Stage.Concludes .rollback required stage ((rollback inner required).run stage).1
      ((rollback inner required).run stage).2 := by
  have ended := accounts.rollback required stage opened
  rw [rollback, Action.run_bind_ok (Action.run_attempt _ _)]
  cases required with
  | true =>
      rw [if_pos rfl, Action.run_bind_ok (Action.run_within _ _ _ _), Action.run_of_except]
      exact ended.still _ rfl rfl id
  | false =>
      rw [if_neg Bool.false_ne_true, Action.run_of_except]
      exact ended

variable [Store T]

theorem asks_consult (region : String) (statement : Statement) (parameter : Parameter) (bounds : Bounds) (key : Key)
    (command : Command) : Asks .query start (consult inner region statement parameter bounds key command) := by
  apply Keeps.before (triple_refuse_outputs _ statement command)
  intro _
  apply Keeps.before (Stage.asks_in_staging _)
  intro known
  cases known with
  | some rows => exact Action.keeps_pure _
  | none =>
      apply Keeps.before
      · exact accounts.queryBound start statement parameter bounds none key command nofun
      · intro rows
        apply Keeps.before (Stage.asks_in_staging _)
        exact fun _ => Action.keeps_pure _

theorem asks_query_bound (statement : Statement) (parameter : Parameter) (bounds : Bounds)
    (receiver : Option (RowHandler (Stage T (Logged W)))) (key : Key) (command : Command)
    (quiet : ∀ handler, receiver = some handler → handler.Quiet) :
    Asks .query start (queryBound inner statement parameter bounds receiver key command) := by
  have served := accounts.queryBound start statement parameter bounds receiver key command quiet
  apply Keeps.before (triple_region_of _ statement)
  intro region
  cases region with
  | none => exact served
  | some region =>
      apply Keeps.before (asks_flush statement region)
      intro _
      cases statement.cached && receiver.isNone with
      | true => exact asks_consult accounts region statement parameter bounds key command
      | false => exact served

theorem asks_query (configuration : Configuration (Stage T (Logged W))) (statement : Statement) (parameter : Parameter)
    (bounds : Bounds) (receiver : Option (RowHandler (Stage T (Logged W))))
    (quiet : ∀ handler, receiver = some handler → handler.Quiet) :
    Asks .query start (query configuration inner statement parameter bounds receiver) := by
  apply Keeps.before
  · exact Action.keeps_outcome _
  · intro command
    apply Keeps.before (accounts.createKey start statement parameter bounds command)
    exact fun key => asks_query_bound accounts statement parameter bounds receiver key command quiet

theorem concludes_commit (required : Bool) (stage : Stage T (Logged W)) (opened : stage.own.closed = false) :
    Stage.Concludes .commit required stage ((commit inner required).run stage).1
      ((commit inner required).run stage).2 := by
  have ended := accounts.commit required stage opened
  rw [commit]
  rcases ran : (inner.commit required).run stage with ⟨outcome, after⟩
  rw [ran] at ended
  cases outcome with
  | error cause =>
      rw [Action.run_bind_error ran]
      exact ended
  | ok done =>
      rw [Action.run_bind_ok ran]
      exact ended.still _ rfl rfl fun _ => rfl

theorem shuts_close (required : Bool) (stage : Stage T (Logged W)) (opened : stage.own.closed = false) :
    Stage.Shuts required stage ((close inner required).run stage).2 := by
  have settled : ((settle required : Action (Stage T (Logged W)) Unit).run stage).2.own.closed = false ∧
      ((settle required : Action (Stage T (Logged W)) Unit).run stage).2.world = stage.world := by
    cases required with
    | true => exact ⟨opened, rfl⟩
    | false => exact ⟨opened, rfl⟩
  have shut := accounts.close required _ settled.1
  rw [close, Action.run_bind_ok (Action.run_attempt _ _), Action.run_bind_ok (Action.run_attempt _ _),
    Action.run_of_except]
  exact ⟨shut.closed, settled.2 ▸ shut.calls⟩

theorem accounts_over (configuration : Configuration (Stage T (Logged W))) :
    (executor configuration inner).Accounts where
  view := accounts.view
  createKey := accounts.createKey
  query _ statement parameter bounds receiver quiet :=
    asks_query accounts configuration statement parameter bounds receiver quiet
  queryBound _ statement parameter bounds receiver key command quiet :=
    asks_query_bound accounts statement parameter bounds receiver key command quiet
  update _ statement parameter := asks_update accounts statement parameter
  clearLocal := accounts.clearLocal
  commit := concludes_commit accounts
  rollback := concludes_rollback accounts
  close := shuts_close accounts

end Caching

theorem Configuration.executor_accounts [Store T] (configuration : Configuration (Stage T (Logged W)))
    (bare : configuration.chain = Chain.empty) (database : Database W) :
    (configuration.executor database.logged).Accounts := by
  have direct : (configuration.direct database.logged).Accounts := Direct.accounts bare
  rw [executor, bare]
  cases configuration.settings.sharing with
  | true => exact Caching.accounts_over direct configuration
  | false => exact direct

end StatementMapper
