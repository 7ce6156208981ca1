import StatementMapper.Proofs.Execution.Streaming

set_option autoImplicit false

/-! With rows that last for one statement the tier of a session is empty after each step, whatever fails. -/

namespace StatementMapper

open Cache
open StatementMapper.Action (Keeps)

variable {S T W A B : Type}

namespace Action

def Mirrors (good : S → Prop) (action other : Action S A) : Prop :=
  ∀ state, good state → action.run state = other.run state ∧ good (action.run state).2

variable {good : S → Prop}

theorem Keeps.mirrors {action : Action S A} (keeps : Keeps good action) : Mirrors good action action :=
  fun state holds => ⟨rfl, triple_after keeps state holds⟩

theorem Mirrors.bind {action other : Action S A} {first second : A → Action S B} (begins : Mirrors good action other)
    (goes : ∀ a, Mirrors good (first a) (second a)) : Mirrors good (action >>= first) (other >>= second) := by
  intro state holds
  obtain ⟨same, kept⟩ := begins state holds
  rcases ran : action.run state with ⟨outcome, after⟩
  rw [ran] at same kept
  cases outcome with
  | error cause =>
      rw [run_bind_error ran, run_bind_error same.symm]
      exact ⟨rfl, kept⟩
  | ok a =>
      rw [run_bind_ok ran, run_bind_ok same.symm]
      exact goes a after kept

theorem Mirrors.attempt {action other : Action S A} (mirrors : Mirrors good action other) :
    Mirrors good (Action.attempt action) (Action.attempt other) := by
  intro state holds
  obtain ⟨same, kept⟩ := mirrors state holds
  rw [run_attempt, run_attempt, same]
  exact ⟨rfl, same ▸ kept⟩

end Action

open StatementMapper.Action (Mirrors)

def Step.receiver : (step : Step .executor) → Arguments S step.parameters → Option (RowHandler S)
  | .query, (_, _, _, receiver, ()) => receiver
  | .queryBound, (_, _, _, receiver, _, _, ()) => receiver
  | _, _ => none

namespace Stage

def Vacant (stage : Stage T W) : Prop := stage.own.kept = {}

theorem keeps_vacant_world (action : Action W A) :
    Keeps Vacant (Action.within Stage.world (fun world stage => { stage with world }) action : Action (Stage T W) A) :=
  keeps_world (fun _ _ vacant => vacant) action

theorem keeps_vacant_staging (action : Action (Staging T) A) :
    Keeps Vacant (Stage.inStaging action : Action (Stage T W) A) :=
  Action.keeps_within action fun _ _ vacant => vacant

theorem Vacant.forgotten_if {stage : Stage T W} (vacant : stage.Vacant) (forgets : Prop) [Decidable forgets] :
    stage.forgottenIf forgets = stage := by
  have same : (if forgets then {} else stage.own.kept) = stage.own.kept := by
    rw [vacant, ite_self]
  rw [forgottenIf, same]

end Stage

open Stage (Vacant)

-- An executor that does what another one does as long as no rows are kept, and keeps none.
def Executor.Mirrors (executor other : Executor (Stage T W)) : Prop :=
  ∀ (step : Step .executor) (arguments : Arguments (Stage T W) step.parameters),
    (∀ receiver, step.receiver arguments = some receiver → receiver.Leaves Stage.own) →
      Action.Mirrors Vacant (executor.call step arguments) (other.call step arguments)

namespace Direct

theorem run_clear_vacant (stage : Stage T W) (vacant : stage.Vacant) : clearLocal.run stage = (.ok (), stage) := by
  have own : (if stage.own.closed then stage.own else { stage.own with kept := {} }) = stage.own := by
    rw [← show stage.own.kept = {} from vacant, ite_self]
  rw [clearLocal, Stage.changeOwn, Action.run_change, own]

theorem mirrors_forgetting {action other : Action (Stage T W) A} (mirrors : Mirrors Vacant action other) :
    Mirrors Vacant (do
      clearLocal
      action) other := by
  intro stage vacant
  rw [Action.run_bind_ok (run_clear_vacant stage vacant)]
  exact mirrors stage vacant

theorem mirrors_is_cached (key : Key) : Mirrors Vacant (isCached key : Action (Stage T W) Bool) (pure false) := by
  intro stage vacant
  have absent : (stage.own.kept.get? key).isSome = false := by
    rw [show stage.own.kept = {} from vacant]
    rfl
  rw [isCached, Action.run_look, absent]
  exact ⟨rfl, vacant⟩

theorem mirrors_unless_closed {done action other : Action (Stage T W) A} (keeps : Keeps Vacant done)
    (mirrors : Mirrors Vacant action other) :
    Mirrors Vacant (do
      let closed ← Action.look fun stage => stage.own.closed
      if closed then done else action) (do
      let closed ← Action.look fun stage => stage.own.closed
      if closed then done else other) := by
  apply Mirrors.bind (Action.keeps_look _).mirrors
  intro closed
  cases closed with
  | true => exact keeps.mirrors
  | false => exact mirrors

variable (configuration : Configuration (Stage T W)) (aloof : ∀ own, configuration.chain.Heeds fun stage => stage.own = own)
  (database : Database W)

theorem mirrors_commit (required : Bool) :
    Mirrors Vacant (commit (database.staged T) required) (Uncached.commit (database.staged T) required) := by
  apply mirrors_unless_closed (Action.triple_fail fun _ vacant => vacant)
  apply mirrors_forgetting
  cases required with
  | true => exact (Stage.keeps_vacant_world database.commit).mirrors
  | false => exact (Action.keeps_pure ()).mirrors

theorem mirrors_rollback (required : Bool) :
    Mirrors Vacant (rollback (database.staged T) required) (Uncached.rollback (database.staged T) required) := by
  apply mirrors_unless_closed (Action.keeps_pure ())
  apply mirrors_forgetting
  cases required with
  | true => exact (Stage.keeps_vacant_world database.rollback).mirrors
  | false => exact (Action.keeps_pure ()).mirrors

theorem mirrors_close (forced : Bool) :
    Mirrors Vacant (close (database.staged T) forced) (Uncached.close (database.staged T) forced) := by
  apply mirrors_unless_closed (Action.keeps_pure ())
  apply (mirrors_rollback database forced).attempt.bind
  intro undone
  apply Mirrors.bind (Stage.keeps_vacant_world database.close).mirrors.attempt
  intro ended
  apply Mirrors.bind
  · intro stage vacant
    rw [Stage.changeOwn, Stage.changeOwn, Action.run_change, Action.run_change, show stage.own.kept = {} from vacant]
    exact ⟨rfl, rfl⟩
  · exact fun _ => (Action.keeps_outcome _).mirrors

include aloof

theorem own_after_fetch (statement : Statement) (bounds : Bounds) (receiver : Option (RowHandler (Stage T W)))
    (leaves : ∀ handler, receiver = some handler → handler.Leaves Stage.own) (command : Command) (stage : Stage T W) :
    ((fetch configuration (database.staged T) statement bounds receiver command).run stage).2.own = stage.own := by
  have stays : (database.staged T).Keeps fun other => other.own = stage.own := database.keeps_elsewhere fun _ _ same => same
  have receives (handler : RowHandler (Stage T W)) (given : receiver = some handler) :=
    (leaves handler given).keeps (· = stage.own)
  exact Action.triple_after (keeps_fetch configuration (aloof stage.own) _ stays statement bounds receiver receives command)
    stage rfl

theorem own_after_send (statement : Statement) (parameter : Parameter) (stage : Stage T W) :
    ((send configuration (database.staged T) statement parameter).run stage).2.own = stage.own := by
  have stays : (database.staged T).Keeps fun other => other.own = stage.own := database.keeps_elsewhere fun _ _ same => same
  exact Action.triple_after (keeps_send configuration (aloof stage.own) _ stays statement parameter) stage rfl

theorem mirrors_update (statement : Statement) (parameter : Parameter) :
    Mirrors Vacant (update configuration (database.staged T) statement parameter)
      (Uncached.update configuration (database.staged T) statement parameter) := by
  apply Mirrors.bind (Keeps.mirrors (triple_ensure_open _))
  intro _
  apply mirrors_forgetting
  intro stage vacant
  have own := own_after_send configuration aloof database statement parameter stage
  exact ⟨rfl, (congrArg Own.kept own).trans vacant⟩

theorem run_stream_vacant (statement : Statement) (bounds : Bounds) (receiver : RowHandler (Stage T W))
    (leaves : receiver.Leaves Stage.own) (command : Command) (stage : Stage T W) (opened : stage.own.closed = false)
    (vacant : stage.Vacant) :
    (stream configuration (database.staged T) statement bounds receiver command).run stage =
      (fetch configuration (database.staged T) statement bounds (some receiver) command).run stage := by
  have own := own_after_fetch configuration aloof database statement bounds (some receiver)
    (fun handler given => Option.some.inj given ▸ leaves) command stage
  rw [stream]
  rcases ran : (fetch configuration (database.staged T) statement bounds (some receiver) command).run stage with
    ⟨outcome, after⟩
  rw [ran] at own
  cases outcome with
  | error cause => exact Action.run_bind_error ran
  | ok rows =>
      have left : Vacant after := (congrArg Own.kept own).trans vacant
      rw [Action.run_bind_ok ran, endQuery, Action.run_bind_ok (run_clear_if _ after (own ▸ opened)), Action.run_pure,
        left.forgotten_if]

variable (brief : configuration.settings.localScope = .statement)

include brief

theorem run_fetch_once_vacant (statement : Statement) (bounds : Bounds) (key : Key) (command : Command)
    (stage : Stage T W) (opened : stage.own.closed = false) (vacant : stage.Vacant) :
    (fetchOnce configuration (database.staged T) statement bounds key command).run stage =
      (fetch configuration (database.staged T) statement bounds none command).run stage := by
  have known : stage.own.kept.get? key = none := by
    rw [show stage.own.kept = {} from vacant]
    rfl
  have own := own_after_fetch configuration aloof database statement bounds none nofun command stage
  rw [fetchOnce, Action.run_bind_ok (Action.run_look _ _), known]
  rcases ran : (fetch configuration (database.staged T) statement bounds none command).run stage with ⟨outcome, after⟩
  rw [ran] at own
  cases outcome with
  | error cause => exact Action.run_bind_error ran
  | ok rows =>
      have ended := run_clear_if (configuration.settings.localScope = .statement)
        { after with own := { after.own with kept := after.own.kept.put key rows } } (own ▸ opened)
      have left : Vacant after := (congrArg Own.kept own).trans vacant
      refine (Action.run_bind_ok ran).trans ((Action.run_bind_ok (Action.run_change _ _)).trans ?_)
      rw [endQuery, Action.run_bind_ok ended, Action.run_pure,
        ← left.forgotten_if (configuration.settings.localScope = .statement)]
      simp only [Stage.forgottenIf, if_pos brief]

theorem mirrors_query_bound (statement : Statement) (bounds : Bounds) (receiver : Option (RowHandler (Stage T W)))
    (leaves : ∀ handler, receiver = some handler → handler.Leaves Stage.own) (key : Key) (command : Command) :
    Mirrors Vacant (queryBound configuration (database.staged T) statement bounds receiver key command)
      (Uncached.queryBound configuration (database.staged T) statement bounds receiver command) := by
  intro stage vacant
  unfold queryBound Uncached.queryBound
  cases closed : stage.own.closed with
  | true =>
      rw [Action.run_bind_error (run_ensure_open_closed stage closed),
        Action.run_bind_error (run_ensure_open_closed stage closed)]
      exact ⟨rfl, vacant⟩
  | false =>
      have own := own_after_fetch configuration aloof database statement bounds receiver leaves command stage
      rw [run_begin statement stage closed, Action.run_bind_ok (run_ensure_open stage closed), vacant.forgotten_if]
      cases receiver with
      | none =>
          have same :=
            run_fetch_once_vacant configuration aloof database brief statement bounds key command stage closed vacant
          exact ⟨same, same ▸ (congrArg Own.kept own).trans vacant⟩
      | some receiver =>
          have same := run_stream_vacant configuration aloof database statement bounds receiver (leaves receiver rfl) command
            stage closed vacant
          exact ⟨same, same ▸ (congrArg Own.kept own).trans vacant⟩

theorem mirrors_query (statement : Statement) (parameter : Parameter) (bounds : Bounds)
    (receiver : Option (RowHandler (Stage T W)))
    (leaves : ∀ handler, receiver = some handler → handler.Leaves Stage.own) :
    Mirrors Vacant (query configuration (database.staged T) statement parameter bounds receiver)
      (Uncached.query configuration (database.staged T) statement parameter bounds receiver) := by
  apply Mirrors.bind (Action.keeps_outcome _).mirrors
  intro command stage vacant
  have bound (key : Key) :=
    mirrors_query_bound configuration aloof database brief statement bounds receiver leaves key command stage vacant
  cases closed : stage.own.closed with
  | true =>
      rw [Action.run_bind_error (run_create_key_closed configuration statement bounds command stage closed),
        Uncached.queryBound, Action.run_bind_error (run_ensure_open_closed stage closed)]
      exact ⟨rfl, vacant⟩
  | false =>
      rw [Action.run_bind_ok (run_create_key configuration statement bounds command stage closed)]
      exact bound _

theorem mirrors_uncached : (configuration.direct database).Mirrors (configuration.uncached database) := by
  intro step arguments leaves
  cases step with
  | update => exact mirrors_update configuration aloof database arguments.1 arguments.2.1
  | query => exact mirrors_query configuration aloof database brief _ _ _ _ leaves
  | queryBound => exact mirrors_query_bound configuration aloof database brief _ _ _ leaves _ _
  | commit => exact mirrors_commit database arguments.1
  | rollback => exact mirrors_rollback database arguments.1
  | createKey => exact Keeps.mirrors (Keeps.before (triple_ensure_open _) fun _ => Action.keeps_pure _)
  | isCached => exact mirrors_is_cached arguments.2.1
  | clearLocal => exact fun stage vacant => ⟨run_clear_vacant stage vacant, (run_clear_vacant stage vacant).symm ▸ vacant⟩
  | close => exact mirrors_close database arguments.1

end Direct

namespace Caching

theorem keeps_vacant_flush (statement : Statement) (region : String) :
    Keeps Vacant (flush statement region : Action (Stage T W) Unit) := by
  unfold flush
  cases statement.flushing with
  | true => exact Stage.keeps_vacant_staging (Staging.clear region)
  | false => exact Action.keeps_pure ()

variable {inner other : Executor (Stage T W)} (mirrors : inner.Mirrors other)

include mirrors

theorem mirrors_update (statement : Statement) (parameter : Parameter) :
    Mirrors Vacant (update inner statement parameter) (update other statement parameter) := by
  have wrote := mirrors .update (statement, parameter, ()) nofun
  apply Mirrors.bind (Keeps.mirrors (triple_region_of _ statement))
  intro known
  cases known with
  | none => exact wrote
  | some region =>
      apply Mirrors.bind (Action.keeps_look _).mirrors
      intro checkpoint
      apply Mirrors.bind (keeps_vacant_flush statement region).mirrors
      intro _
      apply wrote.attempt.bind
      intro outcome
      cases outcome with
      | ok count => exact (Action.keeps_pure count).mirrors
      | error cause =>
          apply Keeps.mirrors
          apply Keeps.before
          · exact Action.triple_change fun _ vacant => vacant
          · exact fun _ => Action.triple_fail fun _ vacant => vacant

theorem mirrors_rollback (required : Bool) : Mirrors Vacant (rollback inner required) (rollback other required) := by
  apply (mirrors .rollback (required, ()) nofun).attempt.bind
  intro outcome
  cases required with
  | true =>
      apply Mirrors.bind (Stage.keeps_vacant_staging Staging.rollback).mirrors
      exact fun _ => (Action.keeps_outcome outcome).mirrors
  | false => exact (Action.keeps_outcome outcome).mirrors

variable [Store T]

theorem mirrors_commit (required : Bool) : Mirrors Vacant (commit inner required) (commit other required) := by
  apply (mirrors .commit (required, ()) nofun).bind
  exact fun _ => (Stage.keeps_vacant_staging Staging.commit).mirrors

theorem mirrors_close (forced : Bool) : Mirrors Vacant (close inner forced) (close other forced) := by
  have settles : Keeps Vacant (settle forced : Action (Stage T W) Unit) := by
    cases forced with
    | true => exact Stage.keeps_vacant_staging Staging.rollback
    | false => exact Stage.keeps_vacant_staging Staging.commit
  apply settles.mirrors.attempt.bind
  intro settled
  apply (mirrors .close (forced, ()) nofun).attempt.bind
  exact fun closed => (Action.keeps_outcome _).mirrors

section

variable (statement : Statement) (parameter : Parameter) (bounds : Bounds)

theorem mirrors_consult (region : String) (key : Key) (command : Command) :
    Mirrors Vacant (consult inner region statement parameter bounds key command)
      (consult other region statement parameter bounds key command) := by
  apply Mirrors.bind (Keeps.mirrors (triple_refuse_outputs _ statement command))
  intro _
  apply Mirrors.bind (Stage.keeps_vacant_staging (Staging.get region key)).mirrors
  intro known
  cases known with
  | some rows => exact (Action.keeps_pure rows).mirrors
  | none =>
      apply (mirrors .queryBound (statement, parameter, bounds, none, key, command, ()) nofun).bind
      intro rows
      apply Mirrors.bind (Stage.keeps_vacant_staging (Staging.put region key rows)).mirrors
      exact fun _ => (Action.keeps_pure rows).mirrors

variable (receiver : Option (RowHandler (Stage T W)))
  (leaves : ∀ handler, receiver = some handler → handler.Leaves Stage.own)

include leaves

theorem mirrors_query_bound (key : Key) (command : Command) :
    Mirrors Vacant (queryBound inner statement parameter bounds receiver key command)
      (queryBound other statement parameter bounds receiver key command) := by
  have served := mirrors .queryBound (statement, parameter, bounds, receiver, key, command, ()) leaves
  apply Mirrors.bind (Keeps.mirrors (triple_region_of _ statement))
  intro known
  cases known with
  | none => exact served
  | some region =>
      apply Mirrors.bind (keeps_vacant_flush statement region).mirrors
      intro _
      cases statement.cached && receiver.isNone with
      | true => exact mirrors_consult mirrors statement parameter bounds region key command
      | false => exact served

theorem mirrors_query (configuration : Configuration (Stage T W)) :
    Mirrors Vacant (query configuration inner statement parameter bounds receiver)
      (query configuration other statement parameter bounds receiver) := by
  apply Mirrors.bind (Action.keeps_outcome _).mirrors
  intro command
  apply (mirrors .createKey (statement, parameter, bounds, command, ()) nofun).bind
  exact fun key => mirrors_query_bound mirrors statement parameter bounds receiver leaves key command

end

theorem mirrors_over (configuration : Configuration (Stage T W)) :
    (executor configuration inner).Mirrors (executor configuration other) := by
  intro step arguments leaves
  cases step with
  | update => exact mirrors_update mirrors arguments.1 arguments.2.1
  | query => exact mirrors_query mirrors _ _ _ _ leaves configuration
  | queryBound => exact mirrors_query_bound mirrors _ _ _ _ leaves _ _
  | commit => exact mirrors_commit mirrors arguments.1
  | rollback => exact mirrors_rollback mirrors arguments.1
  | createKey => exact mirrors .createKey arguments nofun
  | isCached => exact mirrors .isCached arguments nofun
  | clearLocal => exact mirrors .clearLocal arguments nofun
  | close => exact mirrors_close mirrors arguments.1

end Caching

namespace Caching

theorem flushed_outside (statement : Statement) (region : String) (stage : Stage T W) :
    (flushed statement region stage).shared = stage.shared ∧ (flushed statement region stage).world = stage.world := by
  unfold flushed
  cases statement.flushing with
  | true => exact ⟨rfl, rfl⟩
  | false => exact ⟨rfl, rfl⟩

variable [Store T]

def Found (statement : Statement) (receiver : Option (RowHandler (Stage T W))) (key : Key) (stage : Stage T W)
    (rows : Rows) : Prop :=
  ∃ region, statement.region = some region ∧ statement.cached = true ∧ receiver = none ∧
    ((Stage.inStaging (Staging.get region key)).run (flushed statement region stage)).1 = .ok (some rows)

end Caching

section

variable [Store T] (configuration : Configuration (Stage T (Logged W)))

-- A query that has been answered: by a region without a call of the connection, or by one query of the database.
inductive Configuration.Served (statement : Statement) (receiver : Option (RowHandler (Stage T (Logged W)))) (key : Key)
    (stage : Stage T (Logged W)) (rows : Rows) (after : Stage T (Logged W)) : Prop where
  | region (sharing : configuration.settings.sharing = true) (found : Caching.Found statement receiver key stage rows)
      (idle : after.world = stage.world)
  | database (asked : after.world.calls = stage.world.calls ++ [⟨.query, true⟩])

end

namespace Caching

variable [Store T] {configuration : Configuration (Stage T (Logged W))} {inner : Executor (Stage T (Logged W))}
  (sharing : configuration.settings.sharing = true) (statement : Statement) (parameter : Parameter) (bounds : Bounds)
  (key : Key) (command : Command)

include sharing

theorem triple_consult_served (region : String) (named : statement.region = some region) (cached : statement.cached = true)
    (asks : ∀ calls, Action.Triple (fun stage => stage.world.calls = calls)
      (inner.queryBound statement parameter bounds none key command)
      (fun _ stage => stage.world.calls = calls ++ [⟨.query, true⟩]) fun _ => True) (start : Stage T (Logged W)) :
    Action.Triple (fun stage => stage = flushed statement region start)
      (consult inner region statement parameter bounds key command)
      (configuration.Served statement none key start) fun _ => True := by
  apply Action.triple_bind fun _ stage => stage = flushed statement region start
  · exact Action.triple_weaken (triple_refuse_outputs _ statement command) (fun _ same => same) (fun _ _ same => same)
      fun _ _ => trivial
  · intro _
    apply Action.triple_bind fun known stage => stage.world = start.world ∧
      ∀ rows, known = some rows → Found statement none key start rows
    · rintro stage rfl
      have world : ((Stage.inStaging (Staging.get region key)).run (flushed statement region start)).2.world =
          start.world := (flushed_outside statement region start).2
      rcases ran : (Stage.inStaging (Staging.get region key)).run (flushed statement region start) with ⟨outcome, after⟩
      rw [ran] at world
      cases outcome with
      | error cause => trivial
      | ok known => exact ⟨world, fun rows found => ⟨region, named, cached, rfl, by rw [ran, found]⟩⟩
    · intro known
      cases known with
      | some rows => exact Action.triple_pure fun stage left => .region sharing (left.2 rows rfl) left.1
      | none =>
          apply Action.triple_bind fun _ stage => stage.world.calls = start.world.calls ++ [⟨.query, true⟩]
          · exact Action.triple_weaken (asks start.world.calls) (fun _ left => congrArg Logged.calls left.1)
              (fun _ _ asked => asked) fun _ _ => trivial
          · intro rows
            apply Action.triple_bind fun _ stage => stage.world.calls = start.world.calls ++ [⟨.query, true⟩]
            · exact Action.triple_change fun _ asked => asked
            · exact fun _ => Action.triple_pure fun _ asked => .database asked

theorem triple_query_bound_served (receiver : Option (RowHandler (Stage T (Logged W))))
    (asks : ∀ calls, Action.Triple (fun stage => stage.world.calls = calls)
      (inner.queryBound statement parameter bounds receiver key command)
      (fun _ stage => stage.world.calls = calls ++ [⟨.query, true⟩]) fun _ => True) (start : Stage T (Logged W)) :
    Action.Triple (fun stage => stage = start) (queryBound inner statement parameter bounds receiver key command)
      (configuration.Served statement receiver key start) fun _ => True := by
  have served : Action.Triple (fun stage => stage.world.calls = start.world.calls)
      (inner.queryBound statement parameter bounds receiver key command)
      (configuration.Served statement receiver key start) fun _ => True :=
    Action.triple_weaken (asks start.world.calls) (fun _ same => same) (fun _ _ asked => .database asked)
      fun _ _ => trivial
  intro stage same
  rw [same, queryBound]
  rcases run_region_of_cases statement start with known | ⟨cause, unknown⟩
  · rw [Action.run_bind_ok known]
    cases named : statement.region with
    | none => exact served start rfl
    | some region =>
        rw [Action.run_bind_ok (run_flush_stage statement region start)]
        by_cases kept : (statement.cached && receiver.isNone) = true
        · obtain ⟨cached, absent⟩ := Bool.and_eq_true_iff.mp kept
          cases Option.isNone_iff_eq_none.mp absent
          rw [if_pos kept]
          exact triple_consult_served sharing statement parameter bounds key command region named cached asks start _ rfl
        · rw [if_neg kept]
          exact served _ (congrArg Logged.calls ((flushed_outside statement region start).2))
  · rw [Action.run_bind_error unknown]
    trivial

end Caching

theorem Uncached.triple_query_bound_called {configuration : Configuration (Stage T (Logged W))} (database : Database W)
    (bare : configuration.chain = Chain.empty) (statement : Statement) (bounds : Bounds)
    (receiver : Option (RowHandler (Stage T (Logged W))))
    (leaves : ∀ handler, receiver = some handler → handler.Leaves fun stage => stage.world.calls) (command : Command)
    (calls : List Call) :
    Action.Triple (fun stage => stage.world.calls = calls)
      (queryBound configuration (database.logged.staged T) statement bounds receiver command)
      (fun _ stage => stage.world.calls = calls ++ [⟨.query, true⟩]) fun _ => True := by
  have asks (stage : Stage T (Logged W)) (world : W) (same : stage.world.calls = calls) :
      stage.world.calls ++ [⟨.query, true⟩] = calls ++ [⟨.query, true⟩] := by rw [same]
  have receives (handler : RowHandler (Stage T (Logged W))) (given : receiver = some handler) :=
    (leaves handler given).keeps (· = calls ++ [⟨.query, true⟩])
  apply Action.triple_bind fun _ stage => stage.world.calls = calls
  · exact Action.triple_weaken (Direct.triple_ensure_open _) (fun _ same => same) (fun _ _ same => same)
      fun _ _ => trivial
  · intro _
    exact Action.triple_weaken (Direct.triple_fetch_called database bare statement bounds command asks receiver receives)
      (fun _ same => same) (fun _ _ left => left.1) fun _ _ => trivial

-- What can be come to from a stage when an executor is called there, by whoever holds it, and others do what they do.
inductive Executor.Reaches (executor : Executor (Stage T W)) (start : Stage T W) : Stage T W → Prop where
  | begun : Reaches executor start start
  | called {stage : Stage T W} (earlier : Reaches executor start stage) (step : Step .executor)
      (arguments : Arguments (Stage T W) step.parameters)
      (leaves : ∀ receiver, step.receiver arguments = some receiver → receiver.Leaves Stage.own) :
      Reaches executor start ((executor.call step arguments).run stage).2
  | elsewhere {stage : Stage T W} (earlier : Reaches executor start stage) (shared : Shared T) (world : W) :
      Reaches executor start { stage with shared, world }

theorem Executor.Mirrors.vacant {executor other : Executor (Stage T W)} (mirrors : executor.Mirrors other)
    {start stage : Stage T W} (fresh : start.Vacant) (reaches : executor.Reaches start stage) : stage.Vacant := by
  induction reaches with
  | begun => exact fresh
  | called earlier step arguments leaves ih => exact (mirrors step arguments leaves _ ih).2
  | elsewhere earlier shared world ih => exact ih

namespace Configuration

variable [Store T]

def untiered (configuration : Configuration (Stage T W)) (database : Database W) : Executor (Stage T W) :=
  if configuration.settings.sharing then Caching.executor configuration (configuration.uncached database)
  else configuration.uncached database

theorem core_mirrors (configuration : Configuration (Stage T W)) (brief : configuration.settings.localScope = .statement)
    (aloof : ∀ own, configuration.chain.Heeds fun stage => stage.own = own) (database : Database W) :
    (configuration.core database).Mirrors (configuration.untiered database) := by
  have direct := Direct.mirrors_uncached configuration aloof database brief
  rw [core, untiered]
  cases configuration.settings.sharing with
  | true => exact Caching.mirrors_over direct configuration
  | false => exact direct

section

variable (configuration : Configuration (Stage T (Logged W))) (bare : configuration.chain = Chain.empty)
  (database : Database W) (statement : Statement) (parameter : Parameter) (bounds : Bounds)
  (receiver : Option (RowHandler (Stage T (Logged W))))

include bare

theorem triple_query_bound_served
    (leaves : ∀ handler, receiver = some handler → handler.Leaves fun stage => stage.world.calls) (key : Key)
    (command : Command) (start : Stage T (Logged W)) :
    Action.Triple (fun stage => stage = start)
      ((configuration.untiered database.logged).queryBound statement parameter bounds receiver key command)
      (configuration.Served statement receiver key start) fun _ => True := by
  have asks (calls : List Call) : Action.Triple (fun stage => stage.world.calls = calls)
      ((configuration.uncached database.logged).queryBound statement parameter bounds receiver key command)
      (fun _ stage => stage.world.calls = calls ++ [⟨.query, true⟩]) fun _ => True :=
    Uncached.triple_query_bound_called database bare statement bounds receiver leaves command calls
  rw [untiered]
  cases sharing : configuration.settings.sharing with
  | true => exact Caching.triple_query_bound_served sharing statement parameter bounds key command receiver asks start
  | false =>
      exact Action.triple_weaken (asks start.world.calls) (fun _ same => congrArg (fun stage => stage.world.calls) same)
        (fun _ _ asked => .database asked) fun _ _ => trivial

theorem run_query_answered (stage after : Stage T (Logged W)) (rows : Rows)
    (ran : ((configuration.core database.logged).query statement parameter bounds receiver).run stage = (.ok rows, after)) :
    ∃ command, configuration.command statement parameter = .ok command ∧
      ((configuration.core database.logged).queryBound statement parameter bounds receiver
        (Direct.keyOf configuration.settings statement bounds command) command).run stage = (.ok rows, after) := by
  rw [← executor_bare configuration bare, query_bound_bare configuration bare, executor_bare configuration bare] at ran
  rcases Direct.run_keyed_cases configuration statement parameter bounds _ stage with ⟨cause, failed⟩ | ⟨command, made, same⟩
  · rw [failed] at ran
    cases ran
  · exact ⟨command, made, same.symm.trans ran⟩

end

theorem own_tier_stays_empty (configuration : Configuration (Stage T (Logged W)))
    (brief : configuration.settings.localScope = .statement)
    (aloof : ∀ own, configuration.chain.Heeds fun stage => stage.own = own) (database : Database W)
    (start stage : Stage T (Logged W)) (fresh : start.own = {})
    (reaches : (configuration.core database.logged).Reaches start stage) :
    stage.own.kept = {} ∧
      (∀ (step : Step .executor) (arguments : Arguments (Stage T (Logged W)) step.parameters),
        (∀ receiver, step.receiver arguments = some receiver → receiver.Leaves Stage.own) →
          ((configuration.core database.logged).call step arguments).run stage =
            ((configuration.untiered database.logged).call step arguments).run stage) ∧
      (configuration.chain = Chain.empty → ∀ statement parameter bounds receiver,
        (∀ handler, receiver = some handler → handler.Leaves fun stage => (stage.own, stage.world.calls)) →
          (∀ rows after, ((configuration.core database.logged).query statement parameter bounds receiver).run stage =
              (.ok rows, after) →
            ∃ command, configuration.command statement parameter = .ok command ∧
              configuration.Served statement receiver (Direct.keyOf configuration.settings statement bounds command) stage
                rows after) ∧
          ∀ key command rows after, ((configuration.core database.logged).queryBound statement parameter bounds receiver
              key command).run stage = (.ok rows, after) →
            configuration.Served statement receiver key stage rows after) := by
  have mirrors := core_mirrors configuration brief aloof database.logged
  have vacant : stage.Vacant := mirrors.vacant (congrArg Own.kept fresh) reaches
  refine ⟨vacant, fun step arguments leaves => (mirrors step arguments leaves stage vacant).1, ?_⟩
  intro bare statement parameter bounds receiver leaves
  have bound (key : Key) (command : Command) (rows : Rows) (after : Stage T (Logged W))
      (ran : ((configuration.core database.logged).queryBound statement parameter bounds receiver key command).run stage =
        (.ok rows, after)) : configuration.Served statement receiver key stage rows after := by
    have alone (handler : RowHandler (Stage T (Logged W))) (given : receiver = some handler) : handler.Leaves Stage.own :=
      fun number columns row state => congrArg Prod.fst (leaves handler given number columns row state)
    have silent (handler : RowHandler (Stage T (Logged W))) (given : receiver = some handler) :
        handler.Leaves fun stage => stage.world.calls :=
      fun number columns row state => congrArg Prod.snd (leaves handler given number columns row state)
    have same := (mirrors .queryBound (statement, parameter, bounds, receiver, key, command, ()) alone stage vacant).1
    have served := triple_query_bound_served configuration bare database statement parameter bounds receiver silent key
      command stage
    exact served.answered rfl (same.symm.trans ran)
  constructor
  · intro rows after ran
    obtain ⟨command, made, keyed⟩ :=
      run_query_answered configuration bare database statement parameter bounds receiver stage after rows ran
    exact ⟨command, made, bound _ command rows after keyed⟩
  · exact bound

end Configuration

namespace Streaming

def brief : Configuration (Stage Backing (Logged Unit)) := { settings := { localScope := .statement } }

def begun : Stage Backing (Logged Unit) := ⟨{}, ⟨[], 0⟩, { world := () }⟩

def plain : Statement := { statement with region := none }

def once : Stage Backing (Logged Unit) :=
  (((brief.core database.logged).query plain .none .all none).run begun).2

theorem reaches_once : (brief.core database.logged).Reaches begun once :=
  .called .begun .query (plain, .none, .all, none, ()) nofun

theorem asked_again :
    once.own.kept = {} ∧ ∃ after, ((brief.core database.logged).query plain .none .all none).run once =
        (.ok ⟨["n"], [[.integer 1]]⟩, after) ∧
      after.world.calls = [⟨.query, true⟩, ⟨.query, true⟩] := by
  obtain ⟨vacant, _, served⟩ := Configuration.own_tier_stays_empty brief rfl (fun _ => nofun) database begun once rfl
    reaches_once
  obtain ⟨command, _, answered⟩ := (served rfl plain .none .all none nofun).1 _ _ rfl
  refine ⟨vacant, _, rfl, ?_⟩
  cases answered with
  | region _ found _ => exact nomatch found
  | database asked => exact asked

end Streaming

end StatementMapper
