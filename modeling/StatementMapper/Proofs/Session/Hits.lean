import StatementMapper.Proofs.Cache.Thinning
import StatementMapper.Proofs.Session.Effects

set_option autoImplicit false

namespace StatementMapper

open Cache

variable {W : Type} {database : Database W} {configuration : Configuration (Stage Backing (Journaled W))}

namespace Direct

theorem triple_query_bound_shared (good : Shared Backing → Prop) (bare : configuration.chain = Chain.empty)
    (statement : Statement) (bounds : Bounds) (key : Key) (command : Command) :
    Action.Triple (fun stage => good stage.shared)
      (queryBound configuration (database.journaled.staged Backing) statement bounds none key command)
      (fun _ stage => good stage.shared) fun stage => good stage.shared := by
  intro stage holds
  have kept : Stage.Steady (fun first second => first = second) (fun _ => True) "" stage
      (queryBound configuration (database.journaled.staged Backing) statement bounds none key command) :=
    steady_query_bound (fun _ _ _ early late => early.trans late) (fun _ => trivial) bare statement bounds none
      nofun key command
  have left := kept stage (Stage.moves_refl (fun _ => rfl) stage)
  rcases ran : (queryBound configuration (database.journaled.staged Backing) statement bounds none key command).run
    stage with ⟨outcome, after⟩
  rw [ran] at left
  cases outcome with
  | ok rows => exact (congrArg good left.thinned).mp holds
  | error cause => exact (congrArg good left.thinned).mp holds

theorem triple_create_key (good : Stage Backing (Journaled W) → Prop) (statement : Statement) (bounds : Bounds)
    (command : Command) :
    Action.Triple good (createKey configuration statement bounds command)
      (fun key stage => key = keyOf configuration.settings statement bounds command ∧ good stage) good :=
  Action.triple_bind (fun _ => good) (triple_ensure_open good) fun _ => Action.triple_pure fun _ holds => ⟨rfl, holds⟩

end Direct

namespace Caching

def Answered (region : String) (shared : Shared Backing) (key : Key) (rows : Rows)
    (stage : Stage Backing (Journaled W)) : Prop :=
  stage.shared.hitsOf region = shared.hitsOf region ∨ shared.contents region key = some rows

variable {region : String} {shared : Shared Backing} (bare : configuration.chain = Chain.empty)

include bare

theorem triple_served (statement : Statement) (parameter : Parameter) (bounds : Bounds) (key : Key) (command : Command) :
    Action.Triple (fun stage => stage.shared.hitsOf region = shared.hitsOf region)
      ((configuration.direct database.journaled).queryBound statement parameter bounds none key command)
      (Answered region shared key) fun _ => True :=
  Action.triple_weaken (Direct.triple_query_bound_shared (fun other => other.hitsOf region = shared.hitsOf region) bare
    statement bounds key command) (fun _ same => same) (fun _ _ same => Or.inl same) fun _ _ => trivial

theorem triple_consult_hits (id : String) (statement : Statement) (parameter : Parameter) (bounds : Bounds) (key : Key)
    (command : Command) :
    Action.Triple (fun stage => stage.shared = shared)
      (consult (configuration.direct database.journaled) id statement parameter bounds key command)
      (Answered region shared key) fun _ => True := by
  refine Action.triple_bind (fun _ stage => stage.shared = shared)
    (Action.triple_weaken (triple_refuse_outputs _ statement command) (fun _ same => same) (fun _ _ same => same)
      fun _ _ => trivial) fun _ => ?_
  refine Action.triple_bind (fun found stage => stage.shared.hitsOf region = shared.hitsOf region ∨
    ∃ rows, found = some rows ∧ shared.contents region key = some rows) ?_ fun found => ?_
  · rintro stage rfl
    rw [run_get_staged]
    have hit := Shared.hits_in_region id region key (stage.staging.buffer id) stage.shared
    cases asked : ((Shared.inRegion id none fun now => (stage.staging.buffer id).get now key).run stage.shared).1 with
    | error cause => trivial
    | ok found =>
        rw [asked] at hit
        exact hit.imp_right fun ⟨_, rows, same, held⟩ => ⟨rows, Except.ok.inj same, held⟩
  · cases found with
    | some rows =>
        refine Action.triple_pure fun stage known => known.imp_right ?_
        rintro ⟨_, ⟨⟩, held⟩
        exact held
    | none =>
        refine Action.triple_bind _ (Action.triple_weaken
          (triple_served bare statement parameter bounds key command)
          (fun _ missed => missed.resolve_right fun ⟨_, same, _⟩ => nomatch same) (fun _ _ answered => answered)
          fun _ _ => trivial) fun rows => ?_
        exact Action.triple_bind (fun _ => Answered region shared key rows)
          (Action.triple_change fun _ answered => answered) fun _ => Action.triple_pure fun _ answered => answered

theorem triple_query_bound_hits (statement : Statement) (parameter : Parameter) (bounds : Bounds) (key : Key)
    (command : Command) :
    Action.Triple (fun stage => stage.shared = shared)
      (queryBound (configuration.direct database.journaled) statement parameter bounds none key command)
      (Answered region shared key) fun _ => True := by
  have served : Action.Triple (fun stage => stage.shared = shared)
      ((configuration.direct database.journaled).queryBound statement parameter bounds none key command)
      (Answered region shared key) fun _ => True :=
    Action.triple_weaken (triple_served bare statement parameter bounds key command)
      (fun _ same => congrArg (Shared.hitsOf region) same) (fun _ _ answered => answered) fun _ lost => lost
  refine Action.triple_bind (fun _ stage => stage.shared = shared)
    (Action.triple_weaken (triple_region_of _ statement) (fun _ same => same) (fun _ _ same => same)
      fun _ _ => trivial) fun known => ?_
  cases known with
  | none => exact served
  | some id =>
      refine Action.triple_bind (fun _ stage => stage.shared = shared) ?_ fun _ => ?_
      · unfold flush
        cases statement.flushing with
        | true => exact Action.triple_change fun _ same => same
        | false => exact Action.triple_pure fun _ same => same
      · cases statement.cached && (none : Option (RowHandler (Stage Backing (Journaled W)))).isNone with
        | true => exact triple_consult_hits bare id statement parameter bounds key command
        | false => exact served

theorem triple_query_hits (statement : Statement) (parameter : Parameter) (bounds : Bounds) :
    Action.Triple (fun stage => stage.shared = shared)
      (query configuration (configuration.direct database.journaled) statement parameter bounds none)
      (fun rows stage => stage.shared.hitsOf region = shared.hitsOf region ∨
        ∃ command, configuration.command statement parameter = .ok command ∧
          shared.contents region (Direct.keyOf configuration.settings statement bounds command) = some rows)
      fun _ => True := by
  refine Action.triple_bind
    (fun command stage => configuration.command statement parameter = .ok command ∧ stage.shared = shared)
    (Action.triple_of_except (fun _ made _ same => ⟨made, same⟩) fun _ _ => trivial) fun command => ?_
  refine Action.triple_bind (fun key stage => key = Direct.keyOf configuration.settings statement bounds command ∧
      configuration.command statement parameter = .ok command ∧ stage.shared = shared)
    (Action.triple_weaken (Direct.triple_create_key _ statement bounds command) (fun _ known => known)
      (fun _ _ known => known) fun _ _ => trivial) fun key => ?_
  rintro stage ⟨rfl, made, same⟩
  exact Action.triple_weaken (triple_query_bound_hits bare statement parameter bounds _ command) (fun _ same => same)
    (fun _ _ answered => answered.imp_right fun held => ⟨command, made, held⟩) (fun _ lost => lost) stage same

end Caching

namespace Session

def Keys {T V : Type} (session : Session T V) (id : String) (parameter : Parameter) (bounds : Bounds) (key : Key) : Prop :=
  ∃ statement command, session.configuration.statement id = .ok statement ∧
    session.configuration.command statement parameter = .ok command ∧
    key = Direct.keyOf session.configuration.settings statement bounds command

variable {autoCommit : Bool} {region : String} {shared : Shared Backing}

-- A query that counts as a hit of a region answers with what the region had under its key.
theorem triple_query_hits (bare : configuration.chain = Chain.empty) (sharing : configuration.settings.sharing = true)
    (id : String) (parameter : Parameter) (bounds : Bounds) :
    Action.Triple (fun work => work.stage.shared = shared)
      ((journaled configuration database autoCommit).query id parameter bounds none)
      (fun rows work => work.stage.shared.hitsOf region = shared.hitsOf region ∨
        ∃ key, (journaled configuration database autoCommit).Keys id parameter bounds key ∧
          shared.contents region key = some rows)
      fun _ => True := by
  refine Action.triple_bind (fun statement work => configuration.statement id = .ok statement ∧ work.stage.shared = shared)
    (Action.triple_of_except (fun _ found _ same => ⟨found, same⟩) fun _ _ => trivial) fun statement => ?_
  rw [journaled, configuration.executor_caching database.journaled bare sharing]
  rintro work ⟨found, same⟩
  have hit := @Caching.triple_query_hits W database configuration region shared bare statement parameter bounds
    work.stage same
  rcases ran : (Caching.query configuration (configuration.direct database.journaled) statement parameter bounds
    none).run work.stage with ⟨outcome, after⟩
  rw [ran] at hit
  have ends : (onStage ((configuration.caching database.journaled).query statement parameter bounds none)).run work =
      (outcome, { work with stage := after }) := run_on_stage ran
  dsimp only
  rw [ends]
  cases outcome with
  | error cause => trivial
  | ok rows =>
      refine hit.imp_right ?_
      rintro ⟨command, made, held⟩
      exact ⟨_, ⟨statement, command, found, made, rfl⟩, held⟩

end Session

end StatementMapper
