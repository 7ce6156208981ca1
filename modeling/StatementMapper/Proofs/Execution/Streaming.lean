import StatementMapper.Proofs.Execution.Calls
import StatementMapper.Proofs.Execution.Emptying

set_option autoImplicit false

/-! A query that hands its rows to a receiver asks the database once and puts nothing into any cache. -/

namespace StatementMapper

open Cache
open StatementMapper.Action (Keeps)

variable {T W A : Type}

def RowHandler.Leaves {S : Type} (view : S → A) (receiver : RowHandler S) : Prop :=
  ∀ number columns row state, view (receiver.receive number columns row state).2 = view state

theorem RowHandler.Leaves.keeps {S : Type} {view : S → A} {receiver : RowHandler S} (leaves : receiver.Leaves view)
    (good : A → Prop) : receiver.Keeps fun state => good (view state) := by
  intro number columns row state holds
  rw [leaves number columns row state]
  exact holds

namespace Stage

def forgottenIf (forgets : Prop) [Decidable forgets] (stage : Stage T W) : Stage T W :=
  { stage with own := { stage.own with kept := if forgets then {} else stage.own.kept } }

def buffersWithout (gone : Option String) (buffers : Buffers) : Buffers :=
  match gone with
  | some region => Table.put region Buffer.cleared buffers
  | none => buffers

-- A query that has been answered by the database alone, and what it leaves: a region may have been emptied for it.
structure Streamed (settings : Settings) (statement : Statement) (gone : Option String) (start : Stage T (Logged W))
    (rows : Rows) (stage : Stage T (Logged W)) : Prop where
  rows : rows.rows = []
  calls : stage.world.calls = start.world.calls ++ [⟨.query, true⟩]
  shared : stage.shared = start.shared
  buffers : stage.own.buffers = buffersWithout gone start.own.buffers
  kept : stage.own.kept =
    if statement.flushing = true ∨ settings.localScope = .statement then {} else start.own.kept
  closed : stage.own.closed = start.own.closed

end Stage

open Stage (Streamed)

theorem ResultSetHandler.triple_deliver {S : Type} {good : S → Prop} (bounds : Bounds) (receiver : Option (RowHandler S))
    (receives : ∀ handler, receiver = some handler → handler.Keeps good) (rows : Rows) :
    Action.Triple good (deliver bounds receiver rows)
      (fun left state => good state ∧ (receiver.isSome = true → left.rows = [])) good := by
  cases receiver with
  | none => exact Action.triple_pure fun _ holds => ⟨holds, nofun⟩
  | some handler =>
      have fed := handler.triple_feed (receives handler rfl) (rows.window bounds).columns (rows.window bounds).rows 1
      exact Action.Keeps.before fed fun _ => Action.triple_pure fun _ holds => ⟨holds, fun _ => rfl⟩

namespace Direct

variable {configuration : Configuration (Stage T (Logged W))} (database : Database W)
  (bare : configuration.chain = Chain.empty) (statement : Statement) (bounds : Bounds) (command : Command)

include bare

theorem triple_fetch_called {good told : Stage T (Logged W) → Prop}
    (calls : ∀ stage world, good stage →
      told { stage with world := ⟨world, stage.world.calls ++ [⟨.query, true⟩]⟩ })
    (receiver : Option (RowHandler (Stage T (Logged W))))
    (receives : ∀ handler, receiver = some handler → handler.Keeps told) :
    Action.Triple good (fetch configuration (database.logged.staged T) statement bounds receiver command)
      (fun rows stage => told stage ∧ (receiver.isSome = true → rows.rows = [])) fun _ => True := by
  rw [fetch_bare configuration bare]
  apply Action.triple_bind fun _ => told
  · intro stage holds
    rcases ran : (database.query (Driver.requestOf configuration statement command)).run stage.world.world with
      ⟨outcome, world⟩
    have asked : ((database.logged.staged T).query (Driver.requestOf configuration statement command)).run stage =
        (outcome, { stage with world := ⟨world, stage.world.calls ++ [⟨.query, outcome.isOk⟩]⟩ }) := by
      simp only [Database.staged, Database.within, Database.logged, Action.run_within]
      simp only [Logged.noting, Action.run] at ran ⊢
      rw [ran]
    rw [asked]
    cases outcome with
    | error cause => trivial
    | ok rows => exact calls stage world holds
  · intro rows
    exact Action.triple_weaken (ResultSetHandler.triple_deliver bounds receiver receives rows) (fun _ holds => holds)
      (fun _ _ left => left) fun _ _ => trivial

end Direct

namespace Direct

theorem run_clear_if (forgets : Prop) [Decidable forgets] (stage : Stage T W) (opened : stage.own.closed = false) :
    (if forgets then clearLocal else pure () : Action (Stage T W) Unit).run stage =
      (.ok (), stage.forgottenIf forgets) := by
  unfold Stage.forgottenIf
  by_cases forget : forgets
  · rw [if_pos forget, if_pos forget, run_clear_local stage opened, Stage.forgotten]
  · rw [if_neg forget, if_neg forget, Action.run_pure]

theorem run_begin (statement : Statement) (stage : Stage T W) (opened : stage.own.closed = false)
    (rest : Action (Stage T W) A) :
    (do
      ensureOpen
      if statement.flushing then clearLocal else pure ()
      rest : Action (Stage T W) A).run stage = rest.run (stage.forgottenIf (statement.flushing = true)) := by
  rw [Action.run_bind_ok (run_ensure_open stage opened)]
  cases statement.flushing with
  | true => exact Action.run_bind_ok (run_clear_local stage opened)
  | false => rfl

section

variable {configuration : Configuration (Stage T (Logged W))} (database : Database W)
  (bare : configuration.chain = Chain.empty) (statement : Statement) (bounds : Bounds) (command : Command)
  (receiver : RowHandler (Stage T (Logged W)))
  (leaves : receiver.Leaves fun stage => (stage.own, stage.shared, stage.world.calls))

include bare leaves

theorem triple_stream (start : Stage T (Logged W)) (opened : start.own.closed = false) :
    Action.Triple (fun stage => stage = start)
      (stream configuration (database.logged.staged T) statement bounds receiver command)
      (fun rows stage => rows.rows = [] ∧ stage.world.calls = start.world.calls ++ [⟨.query, true⟩] ∧
        stage.shared = start.shared ∧
        stage.own = (start.forgottenIf (configuration.settings.localScope = .statement)).own)
      fun _ => True := by
  let told (stage : Stage T (Logged W)) : Prop :=
    (stage.own, stage.shared, stage.world.calls) = (start.own, start.shared, start.world.calls ++ [⟨.query, true⟩])
  have receives (handler : RowHandler (Stage T (Logged W))) (given : some receiver = some handler) : handler.Keeps told :=
    Option.some.inj given ▸ leaves.keeps (· = (start.own, start.shared, start.world.calls ++ [⟨.query, true⟩]))
  have asks (stage : Stage T (Logged W)) (world : W) (same : stage = start) :
      told { stage with world := ⟨world, stage.world.calls ++ [⟨.query, true⟩]⟩ } := same ▸ rfl
  apply Action.triple_bind _ (triple_fetch_called database bare statement bounds command asks (some receiver) receives)
  rintro rows stage ⟨seen, none⟩
  obtain ⟨own, rest⟩ := Prod.mk.inj seen
  obtain ⟨shared, calls⟩ := Prod.mk.inj rest
  rw [endQuery, Action.run_bind_ok (run_clear_if _ stage (own ▸ opened)), Action.run_pure]
  refine ⟨none rfl, calls, shared, ?_⟩
  rw [Stage.forgottenIf, own]
  rfl

theorem triple_query_bound_streamed (key : Key) (start : Stage T (Logged W)) :
    Action.Triple (fun stage => stage = start)
      (queryBound configuration (database.logged.staged T) statement bounds (some receiver) key command)
      (Streamed configuration.settings statement none start) fun _ => True := by
  intro stage same
  rw [same, queryBound]
  cases closed : start.own.closed with
  | true =>
      rw [Action.run_bind_error (run_ensure_open_closed start closed)]
      trivial
  | false =>
      rw [run_begin statement start closed]
      refine Action.triple_weaken (triple_stream database bare statement bounds command receiver leaves
        (start.forgottenIf (statement.flushing = true)) closed) (fun _ same => same) ?_ (fun _ _ => trivial) _ rfl
      rintro rows stage ⟨none, calls, shared, own⟩
      refine ⟨none, calls, shared, ?_, ?_, ?_⟩
      · rw [own]
        rfl
      · rw [own]
        by_cases flushing : statement.flushing = true
        · simp [Stage.forgottenIf, flushing]
        · simp [Stage.forgottenIf, flushing]
      · rw [own]
        rfl

end

end Direct

open Stage (Streamed)

namespace Caching

section

variable {configuration : Configuration (Stage T (Logged W))} {statement : Statement} {start stage : Stage T (Logged W)}
  {rows : Rows}

theorem streamed_flushed (region : String) (named : statement.region = some region)
    (registered : Table.contains region start.shared.regions = true)
    (streamed : Streamed configuration.settings statement none (flushed statement region start) rows stage) :
    Streamed configuration.settings statement (emptied statement start.shared) start rows stage := by
  unfold flushed at streamed
  unfold emptied
  cases flushing : statement.flushing with
  | true =>
      rw [flushing, if_pos rfl] at streamed
      rw [if_pos rfl, named, Option.filter_some, if_pos registered]
      exact { streamed with }
  | false =>
      rw [flushing] at streamed
      exact streamed

variable [Store T] (database : Database W) (bare : configuration.chain = Chain.empty) (parameter : Parameter)
  (bounds : Bounds) (receiver : RowHandler (Stage T (Logged W)))
  (leaves : receiver.Leaves fun stage => (stage.own, stage.shared, stage.world.calls))

include bare leaves

theorem triple_query_bound_streamed (key : Key) (command : Command) (start : Stage T (Logged W)) :
    Action.Triple (fun stage => stage = start)
      (queryBound (configuration.direct database.logged) statement parameter bounds (some receiver) key command)
      (Streamed configuration.settings statement (emptied statement start.shared) start) fun _ => True := by
  have direct (start : Stage T (Logged W)) :=
    Direct.triple_query_bound_streamed database bare statement bounds command receiver leaves key start
  intro stage same
  rw [same, queryBound]
  rcases run_region_of_exactly statement start with ⟨named, known⟩ | ⟨region, named, known⟩
  · have plain := emptied_unregistered statement start fun region other => by
      cases named.symm.trans other
    rw [Action.run_bind_ok known, plain]
    exact direct start start rfl
  · cases registered : Table.contains region start.shared.regions with
    | false =>
        rw [registered] at known
        rw [Action.run_bind_error known]
        trivial
    | true =>
        rw [registered] at known
        rw [Action.run_bind_ok known, Action.run_bind_ok (run_flush_stage statement region start)]
        rw [Option.isNone_some, Bool.and_false]
        exact Action.triple_weaken (direct (flushed statement region start)) (fun _ same => same)
          (fun _ _ streamed => streamed_flushed region named registered streamed) (fun _ _ => trivial) _ rfl

end

end Caching

namespace Configuration

variable [Store T]

def core (configuration : Configuration (Stage T W)) (database : Database W) : Executor (Stage T W) :=
  if configuration.settings.sharing then configuration.caching database else configuration.direct database

section

variable (configuration : Configuration (Stage T W)) (bare : configuration.chain = Chain.empty) (database : Database W)

include bare

theorem executor_bare : configuration.executor database = configuration.core database := by
  rw [executor, bare]
  rfl

theorem query_bound_bare (statement : Statement) (parameter : Parameter) (bounds : Bounds)
    (receiver : Option (RowHandler (Stage T W))) :
    (configuration.executor database).query statement parameter bounds receiver = (do
      let command ← Action.ofExcept (configuration.command statement parameter)
      let key ← Direct.createKey configuration statement bounds command
      (configuration.executor database).queryBound statement parameter bounds receiver key command) := by
  rw [executor_bare configuration bare, core]
  cases configuration.settings.sharing with
  | true => rfl
  | false => rfl

end

variable (configuration : Configuration (Stage T (Logged W)))

def emptied (statement : Statement) (shared : Shared T) : Option String :=
  if configuration.settings.sharing then Caching.emptied statement shared else none

variable (bare : configuration.chain = Chain.empty) (database : Database W) (statement : Statement)
  (parameter : Parameter) (bounds : Bounds) (receiver : RowHandler (Stage T (Logged W)))
  (leaves : receiver.Leaves fun stage => (stage.own, stage.shared, stage.world.calls))

include bare leaves

theorem triple_query_bound_streamed (key : Key) (command : Command) (start : Stage T (Logged W)) :
    Action.Triple (fun stage => stage = start)
      ((configuration.executor database.logged).queryBound statement parameter bounds (some receiver) key command)
      (Streamed configuration.settings statement (configuration.emptied statement start.shared) start)
      fun _ => True := by
  rw [executor_bare configuration bare, core, emptied]
  cases configuration.settings.sharing with
  | true => exact Caching.triple_query_bound_streamed database bare parameter bounds receiver leaves key command start
  | false =>
      exact Direct.triple_query_bound_streamed database bare statement bounds command receiver leaves key start

theorem streamed_past_caches (stage : Stage T (Logged W)) :
    (∀ rows after, ((configuration.executor database.logged).query statement parameter bounds (some receiver)).run stage =
        (.ok rows, after) →
      Streamed configuration.settings statement (configuration.emptied statement stage.shared) stage rows after) ∧
      ∀ key command rows after, ((configuration.executor database.logged).queryBound statement parameter bounds
          (some receiver) key command).run stage = (.ok rows, after) →
        Streamed configuration.settings statement (configuration.emptied statement stage.shared) stage rows after := by
  have bound (key : Key) (command : Command) :=
    triple_query_bound_streamed configuration bare database statement parameter bounds receiver leaves key command stage
  constructor
  · intro rows after ran
    rw [query_bound_bare configuration bare] at ran
    rcases Direct.run_keyed_cases configuration statement parameter bounds _ stage with ⟨cause, failed⟩ | ⟨command, _, same⟩
    · rw [failed] at ran
      cases ran
    · exact (bound _ command).answered rfl (same.symm.trans ran)
  · exact fun key command rows after ran => (bound key command).answered rfl ran

end Configuration

namespace Streaming

def database : Database Unit where
  query _ := pure ⟨["n"], [[.integer 1]]⟩
  execute _ := pure 0
  commit := pure ()
  rollback := pure ()
  close := pure ()

def ignoring : RowHandler (Stage Backing (Logged Unit)) := ⟨fun _ _ _ stage => (false, stage)⟩

def statement : Statement := { Refusing.statementOf .select with flushing := false }

def key : Key := Direct.keyFor {} "any" .all "ANY" []

def known : Table Key Rows := [(key, ⟨["n"], [[.integer 0]]⟩)]

def region : Region Backing := { id := "users", interval := none, store := .perpetual ⟨known⟩ }

def stage : Stage Backing (Logged Unit) :=
  ⟨{ kept := ⟨known⟩, buffers := [("users", ⟨false, known⟩)] }, ⟨[("users", region)], 0⟩, { world := () }⟩

theorem streamed_from_database :
    ∃ after, ((Configuration.executor {} database.logged).query statement .none .all (some ignoring)).run stage =
        (.ok ⟨["n"], []⟩, after) ∧
      after.world.calls = [⟨.query, true⟩] ∧ after.shared = stage.shared ∧ after.own.kept = ⟨known⟩ ∧
      after.own.buffers = [("users", ⟨false, known⟩)] := by
  have streamed := (Configuration.streamed_past_caches {} rfl database statement .none .all ignoring
    (fun _ _ _ _ => rfl) stage).1 _ _ rfl
  exact ⟨_, rfl, streamed.calls, streamed.shared, streamed.kept, streamed.buffers⟩

end Streaming

end StatementMapper
