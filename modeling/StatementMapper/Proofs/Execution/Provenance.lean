import StatementMapper.Proofs.Cache.Thinning
import StatementMapper.Proofs.Execution.Ending
import StatementMapper.Proofs.Execution.Transient

set_option autoImplicit false

/-! Where the entries of buffers and regions come from, over any connection and whatever fails. -/

namespace StatementMapper

open Cache
open StatementMapper.Action (Keeps)

variable {T W : Type}

def Statement.HasOutputs (statement : Statement) (command : Command) : Prop :=
  statement.form = .callable ∧ ∃ mapping ∈ command.mappings, mapping.mode = .output ∨ mapping.mode = .both

def Stage.RefusesOutputs (statement : Statement) (stage : Stage T W) (action : Action (Stage T W) Rows) : Prop :=
  ∃ after, action.run stage = (.error (.cache (.outParameters statement.id)), after) ∧ after.shared = stage.shared ∧
    after.world = stage.world

abbrev Entries := String → Key → Rows → Prop

namespace Stage

theorem staged_with_buffer {id region : String} {buffer : Buffer} {stage : Stage T W} {key : Key} {rows : Rows}
    (staged : (stage.withBuffer id buffer).own.Staged region key rows) :
    region = id ∧ Table.get? key buffer.entries = some rows ∨ stage.own.Staged region key rows := by
  obtain ⟨found, there, entry⟩ := staged
  by_cases same : region = id
  · rw [withBuffer, same, Table.get_put_same, Option.some.injEq] at there
    exact Or.inl ⟨same, there ▸ entry⟩
  · rw [withBuffer, Table.get_put_other same] at there
    exact Or.inr ⟨found, there, entry⟩

-- Buffers may have gained the given entries; a region, if they may be published, those that were staged.
structure Gains (publishing : Prop) (entry : Entries) (start stage : Stage Backing W) : Prop where
  buffers : Staging.WellKept start.own.buffers → Staging.WellKept stage.own.buffers
  staged : ∀ region key rows, stage.own.Staged region key rows →
    start.own.Staged region key rows ∨ entry region key rows
  stored : Staging.WellKept start.own.buffers → ∀ region key rows, stage.shared.contents region key = some rows →
    start.shared.contents region key = some rows ∨ publishing ∧ start.own.Staged region key rows

variable {publishing : Prop} {entry : Entries} {start stage : Stage Backing W}

theorem gains_refl (publishing : Prop) (entry : Entries) (stage : Stage Backing W) : Gains publishing entry stage stage :=
  ⟨id, fun _ _ _ staged => Or.inl staged, fun _ _ _ _ found => Or.inl found⟩

namespace Gains

theorem same (gains : Gains publishing entry start stage) {other : Stage Backing W} (same : other.staging = stage.staging) :
    Gains publishing entry start other := by
  have buffers : other.own.buffers = stage.own.buffers := congrArg Staging.buffers same
  have shared : other.shared = stage.shared := congrArg Staging.shared same
  constructor
  · exact buffers ▸ gains.buffers
  · intro region key rows staged
    rw [Own.Staged, buffers] at staged
    exact gains.staged region key rows staged
  · exact shared ▸ gains.stored

theorem since (gains : Gains publishing entry start stage) {earlier : Stage Backing W}
    (same : start.staging = earlier.staging) : Gains publishing entry earlier stage := by
  have buffers : start.own.buffers = earlier.own.buffers := congrArg Staging.buffers same
  have shared : start.shared = earlier.shared := congrArg Staging.shared same
  obtain ⟨kept, staged, stored⟩ := gains
  rw [buffers] at kept stored
  simp only [Own.Staged, buffers, shared] at staged stored
  exact ⟨kept, staged, stored⟩

theorem more {other : Entries} (gains : Gains publishing entry start stage)
    (covers : ∀ region key rows, entry region key rows → other region key rows) : Gains publishing other start stage :=
  { gains with
    staged := fun region key rows staged => (gains.staged region key rows staged).imp_right (covers region key rows) }

theorem buffer (gains : Gains publishing entry start stage) (id : String) (buffer : Buffer)
    (distinct : Staging.WellKept stage.own.buffers → buffer.entries.Distinct)
    (known : ∀ key rows, Table.get? key buffer.entries = some rows →
      stage.own.Staged id key rows ∨ entry id key rows) : Gains publishing entry start (stage.withBuffer id buffer) where
  buffers kept := Staging.well_kept_put id buffer _ (gains.buffers kept) (distinct (gains.buffers kept))
  staged := by
    intro region key rows staged
    rcases staged_with_buffer staged with ⟨rfl, found⟩ | before
    · exact (known key rows found).elim (gains.staged region key rows) Or.inr
    · exact gains.staged region key rows before
  stored := gains.stored

theorem clear (gains : Gains publishing entry start stage) (id : String) :
    Gains publishing entry start (stage.cleared id) :=
  gains.buffer id Buffer.cleared (fun _ => Table.distinct_nil) fun _ _ found => nomatch found

theorem put (gains : Gains publishing entry start stage) (id : String) (key : Key) (rows : Rows)
    (holds : entry id key rows) :
    Gains publishing entry start (stage.withBuffer id (Buffer.put key rows (stage.staging.buffer id))) := by
  apply gains.buffer
  · exact fun kept => Table.distinct_put _ _ _ (Staging.well_kept_buffer id stage.staging kept)
  · intro other found there
    by_cases here : other = key
    · rw [here, Buffer.put, Table.get_put_same, Option.some.injEq] at there
      exact Or.inr (here ▸ there ▸ holds)
    · rw [Buffer.put, Table.get_put_other here] at there
      exact Or.inl (staged_of_buffer id other found there)

theorem thin (gains : Gains publishing entry start stage) (shared : Shared Backing)
    (thins : Shared.Thins stage.shared shared) :
    Gains publishing entry start { stage with shared } :=
  { gains with stored := fun kept region key rows found => gains.stored kept region key rows (thins region key rows found) }

theorem look (gains : Gains publishing entry start stage) (id : String) (key : Key) :
    Gains publishing entry start ((Stage.inStaging (Staging.get id key)).run stage).2 := by
  rw [Caching.run_get_staged]
  have touched : Gains publishing entry start (stage.withBuffer id (stage.staging.buffer id)) := by
    apply gains.buffer
    · exact Staging.well_kept_buffer id stage.staging
    · exact fun other rows found => Or.inl (staged_of_buffer id other rows found)
  exact touched.thin _ (Shared.thins_get id key (stage.staging.buffer id) stage.shared)

end Gains

theorem gains_unstaged (gains : Gains publishing entry start stage) : Gains publishing entry start stage.unstaged where
  buffers kept := Staging.well_kept_emptied _ (gains.buffers kept)
  staged region key rows staged := absurd staged (not_staged_unstaged stage region key rows)
  stored := gains.stored

theorem gains_published (entry : Entries) (stage : Stage Backing W) : Gains True entry stage stage.published := by
  have published : stage.published =
      { stage.unstaged with shared := ((Staging.publishAll stage.own.buffers).run stage.shared).2 } :=
    congrArg Prod.snd (run_publish stage)
  rw [published]
  constructor
  · exact Staging.well_kept_emptied _
  · exact fun region key rows staged => absurd staged (not_staged_unstaged stage region key rows)
  · intro kept region key rows found
    rcases Shared.stored_publish_all stage.own.buffers kept stage.shared region key rows found with staged | ⟨_, before⟩
    · exact Or.inr ⟨trivial, staged⟩
    · exact Or.inl before

end Stage

open Stage (Gains)

def Executor.Aloof (executor : Executor (Stage T W)) : Prop :=
  ∀ (step : Step .executor) (arguments : Arguments (Stage T W) step.parameters),
    (∀ receiver, step.receiver arguments = some receiver → receiver.Leaves Stage.staging) →
      ∀ staging, Keeps (fun stage => stage.staging = staging) (executor.call step arguments)

namespace Direct

variable {staging : Staging T} (configuration : Configuration (Stage T W))
  (confined : ∀ staging, configuration.chain.Heeds fun stage => stage.staging = staging) (database : Database W)

theorem keeps_staging_rollback (required : Bool) :
    Keeps (fun stage : Stage T W => stage.staging = staging) (rollback (database.staged T) required) := by
  apply Keeps.before (Action.keeps_look _)
  intro closed
  cases closed with
  | true => exact Action.keeps_pure ()
  | false =>
      apply Keeps.before (triple_clear_local fun _ same => same)
      intro _
      cases required with
      | true => exact Stage.keeps_world (fun _ _ same => same) database.rollback
      | false => exact Action.keeps_pure ()

theorem keeps_staging_close (forced : Bool) :
    Keeps (fun stage : Stage T W => stage.staging = staging) (close (database.staged T) forced) := by
  apply Keeps.before (Action.keeps_look _)
  intro closed
  cases closed with
  | true => exact Action.keeps_pure ()
  | false =>
      apply Keeps.before (Action.triple_try (keeps_staging_rollback database forced))
      intro undone
      apply Keeps.before (Action.triple_try (Stage.keeps_world (fun _ _ same => same) database.close))
      intro ended
      apply Keeps.before
      · exact Action.triple_change fun _ same => same
      · exact fun _ => Action.keeps_outcome _

include confined

theorem aloof : (configuration.direct database).Aloof := by
  intro step arguments leaves staging
  have apart : Stage.Apart fun stage : Stage T W => stage.staging = staging := Stage.apart_of_staging (· = staging)
  have stays := database.keeps_staged apart
  have bound (statement : Statement) (bounds : Bounds) (receiver : Option (RowHandler (Stage T W)))
      (leaves : ∀ handler, receiver = some handler → handler.Leaves Stage.staging) (key : Key) (command : Command) :
      Keeps (fun stage => stage.staging = staging)
        (queryBound configuration (database.staged T) statement bounds receiver key command) :=
    keeps_query_bound apart configuration (confined staging) _ stays statement bounds receiver
      (fun handler given => (leaves handler given).keeps (· = staging)) key command
  have keyed (statement : Statement) (bounds : Bounds) (command : Command) :
      Keeps (fun stage : Stage T W => stage.staging = staging) (createKey configuration statement bounds command) :=
    Keeps.before (triple_ensure_open _) fun _ => Action.keeps_pure _
  cases step with
  | update => exact keeps_update apart configuration (confined staging) _ stays arguments.1 arguments.2.1
  | query =>
      apply Keeps.before (Action.keeps_outcome _)
      intro command
      apply Keeps.before (keyed _ _ command)
      exact fun key => bound _ _ _ leaves key command
  | queryBound => exact bound _ _ _ leaves _ _
  | commit => exact keeps_committing apart _ stays arguments.1
  | rollback => exact keeps_staging_rollback database arguments.1
  | createKey => exact keyed _ _ _
  | isCached => exact Action.keeps_look _
  | clearLocal => exact keeps_forgetting apart
  | close => exact keeps_staging_close database arguments.1

end Direct

namespace Caching

def Stores (statement : Statement) (command : Command) (key : Key) (rows : Rows) : Entries := fun region other kept =>
  statement.region = some region ∧ statement.cached = true ∧ ¬ statement.HasOutputs command ∧ other = key ∧ kept = rows

def nothing : Entries := fun _ _ _ => False

theorem has_outputs_iff (statement : Statement) (command : Command) :
    statement.HasOutputs command ↔
      statement.form = .callable ∧ command.mappings.any (fun mapping => mapping.mode ≠ .input) = true := by
  have given (mode : Mode) : mode = .output ∨ mode = .both ↔ mode ≠ .input := by cases mode <;> decide
  simp only [Statement.HasOutputs, given, List.any_eq_true, decide_eq_true_eq]

theorem run_refuse_outputs_given (statement : Statement) (command : Command) (outputs : statement.HasOutputs command)
    (stage : Stage T W) :
    (refuseOutputs statement command).run stage = (.error (.cache (.outParameters statement.id)), stage) := by
  rw [refuseOutputs, if_pos ((has_outputs_iff statement command).mp outputs), Action.run_fail]

section

variable {inner : Executor (Stage Backing W)} (aloof : inner.Aloof) {publishing : Prop} {entry : Entries}
  {start : Stage Backing W} (statement : Statement) (parameter : Parameter)

theorem keeps_gains_flush (region : String) : Keeps (Gains publishing entry start) (flush statement region) := by
  unfold flush
  cases statement.flushing with
  | true => exact Action.triple_change fun _ gains => gains.clear region
  | false => exact Action.keeps_pure ()

theorem keeps_gains_inner {A : Type} {action : Action (Stage Backing W) A}
    (alone : ∀ staging, Keeps (fun stage => stage.staging = staging) action) :
    Keeps (Gains publishing entry start) action := by
  apply Action.triple_of_after
  intro stage gains
  exact gains.same (Action.triple_after (alone stage.staging) stage rfl)

include aloof

theorem gains_of_update_in (region : String) {stage after : Stage Backing W} {count : Nat}
    (gains : Gains publishing entry start stage)
    (ran : (updateIn inner region statement parameter).run stage = (.ok count, after)) :
    Gains publishing entry start after := by
  have flushed := Action.triple_after (keeps_gains_flush statement region) stage gains
  rw [run_flush_stage] at flushed
  have left := Action.triple_after (keeps_gains_inner (aloof .update (statement, parameter, ()) nofun)) _ flushed
  rw [updateIn, Action.run_bind_ok (Action.run_look _ _), Action.run_bind_ok (run_flush_stage statement region stage),
    Action.run_bind_ok (Action.run_attempt _ _)] at ran
  cases outcome : ((inner.update statement parameter).run (Caching.flushed statement region stage)).1 with
  | error refusal =>
      rw [outcome, Action.run_bind_ok (Action.run_change _ _)] at ran
      cases ran
  | ok count =>
      rw [outcome] at ran
      cases ran
      exact left

theorem keeps_gains_update : Keeps (Gains publishing entry start) (update inner statement parameter) := by
  have alone := aloof .update (statement, parameter, ()) nofun
  apply Action.triple_of_after
  intro stage gains
  rcases ran : (update inner statement parameter).run stage with ⟨outcome, after⟩
  cases outcome with
  | error cause => exact gains.same (run_update_failed statement parameter alone stage after cause ran)
  | ok count =>
      rw [update] at ran
      rcases run_region_of_cases statement stage with known | ⟨cause, unknown⟩
      · rw [Action.run_bind_ok known] at ran
        cases named : statement.region with
        | none =>
            rw [named] at ran
            change (inner.update statement parameter).run stage = _ at ran
            have left : Gains publishing entry start ((inner.update statement parameter).run stage).2 :=
              Action.triple_after (keeps_gains_inner alone) stage gains
            rwa [ran] at left
        | some region =>
            rw [named] at ran
            exact gains_of_update_in aloof statement parameter region gains ran
      · rw [Action.run_bind_error unknown] at ran
        cases ran

variable (bounds : Bounds) (key : Key) (command : Command)

theorem triple_consult_gains (region : String) (named : statement.region = some region) (cached : statement.cached = true) :
    Action.Triple (Gains publishing nothing start) (consult inner region statement parameter bounds key command)
      (fun rows => Gains publishing (Stores statement command key rows) start) (Gains publishing nothing start) := by
  have alone := aloof .queryBound (statement, parameter, bounds, none, key, command, ()) nofun
  by_cases outputs : statement.HasOutputs command
  · intro stage gains
    rw [consult, Action.run_bind_error (run_refuse_outputs_given statement command outputs stage)]
    exact gains
  · apply Keeps.before (triple_refuse_outputs _ statement command)
    intro _
    apply Keeps.before (Action.triple_of_after fun stage gains => gains.look region key)
    intro known
    cases known with
    | some rows => exact Action.triple_pure fun _ gains => gains.more nofun
    | none =>
        apply Keeps.before (keeps_gains_inner alone)
        intro rows
        apply Action.triple_bind fun _ => Gains publishing (Stores statement command key rows) start
        · exact Action.triple_change fun stage gains =>
            (gains.more nofun).put region key rows ⟨named, cached, outputs, rfl, rfl⟩
        · exact fun _ => Action.triple_pure fun _ gains => gains

variable (receiver : Option (RowHandler (Stage Backing W)))
  (leaves : ∀ handler, receiver = some handler → handler.Leaves Stage.staging)

include leaves

theorem triple_query_bound_gains :
    Action.Triple (Gains publishing nothing start) (queryBound inner statement parameter bounds receiver key command)
      (fun rows stage => Gains publishing nothing start stage ∨
        receiver = none ∧ Gains publishing (Stores statement command key rows) start stage)
      (Gains publishing nothing start) := by
  have served : Action.Triple (Gains publishing nothing start)
      (inner.queryBound statement parameter bounds receiver key command)
      (fun rows stage => Gains publishing nothing start stage ∨
        receiver = none ∧ Gains publishing (Stores statement command key rows) start stage)
      (Gains publishing nothing start) :=
    Action.triple_weaken
      (keeps_gains_inner (aloof .queryBound (statement, parameter, bounds, receiver, key, command, ()) leaves))
      (fun _ gains => gains) (fun _ _ gains => Or.inl gains) fun _ gains => gains
  intro stage gains
  rw [queryBound]
  rcases run_region_of_cases statement stage with known | ⟨cause, unknown⟩
  · rw [Action.run_bind_ok known]
    cases named : statement.region with
    | none => exact served stage gains
    | some region =>
        have flushed := Action.triple_after (keeps_gains_flush statement region) stage gains
        rw [run_flush_stage] at flushed
        rw [Action.run_bind_ok (run_flush_stage statement region stage)]
        by_cases kept : (statement.cached && receiver.isNone) = true
        · obtain ⟨cached, absent⟩ := Bool.and_eq_true_iff.mp kept
          cases Option.isNone_iff_eq_none.mp absent
          rw [if_pos kept]
          exact Action.triple_weaken (triple_consult_gains aloof statement parameter bounds key command region named cached)
            (fun _ gains => gains) (fun _ _ gains => Or.inr ⟨rfl, gains⟩) (fun _ gains => gains) _ flushed
        · rw [if_neg kept]
          exact served _ flushed
  · rw [Action.run_bind_error unknown]
    exact gains

end

section

variable {inner : Executor (Stage Backing W)} (aloof : inner.Aloof) {entry : Entries} {stage : Stage Backing W}

include aloof

theorem gains_commit (required : Bool) : Gains True entry stage ((commit inner required).run stage).2 := by
  have same : ((inner.commit required).run stage).2.staging = stage.staging :=
    Action.triple_after (aloof .commit (required, ()) nofun stage.staging) stage rfl
  rw [commit]
  rcases ran : (inner.commit required).run stage with ⟨outcome, after⟩
  rw [ran] at same
  cases outcome with
  | error cause =>
      rw [Action.run_bind_error ran]
      exact (Stage.gains_refl True entry stage).same same
  | ok done =>
      rw [Action.run_bind_ok ran]
      exact (Stage.gains_published entry after).since same

theorem gains_rollback {publishing : Prop} (required : Bool) :
    Gains publishing entry stage ((rollback inner required).run stage).2 := by
  have unstages : Keeps (Gains publishing entry stage) (Stage.inStaging Staging.rollback) :=
    Action.triple_of_after fun _ gains => Stage.gains_unstaged gains
  have keeps : Keeps (Gains publishing entry stage) (rollback inner required) := by
    apply Keeps.before (Action.triple_try (keeps_gains_inner (aloof .rollback (required, ()) nofun)))
    intro outcome
    cases required with
    | true => exact unstages.before fun _ => Action.keeps_outcome outcome
    | false => exact Action.keeps_outcome outcome
  exact Action.triple_after keeps stage (Stage.gains_refl publishing entry stage)

theorem gains_close (forced : Bool) : Gains True entry stage ((close inner forced).run stage).2 := by
  have settled : Gains True entry stage ((settle forced : Action (Stage Backing W) Unit).run stage).2 := by
    cases forced with
    | true => exact Stage.gains_unstaged (Stage.gains_refl True entry stage)
    | false => exact Stage.gains_published entry stage
  have closed := Action.triple_after (keeps_gains_inner (aloof .close (forced, ()) nofun)) _ settled
  rw [close, Action.run_bind_ok (Action.run_attempt _ _), Action.run_bind_ok (Action.run_attempt _ _),
    Action.run_of_except]
  exact closed

end

section

variable [Store T] {inner : Executor (Stage T W)} {statement : Statement} {region : String}
  (named : statement.region = some region) (cached : statement.cached = true) {stage : Stage T W}
  (registered : Table.contains region stage.shared.regions = true) (parameter : Parameter) (bounds : Bounds)

include named cached registered

theorem refuses_query_bound_outputs (key : Key) (command : Command) (outputs : statement.HasOutputs command) :
    stage.RefusesOutputs statement (queryBound inner statement parameter bounds none key command) := by
  have known : (regionOf statement).run stage = (.ok (some region), stage) := by
    rw [regionOf, named, Action.run_bind_ok (Action.run_look _ _), registered]
    rfl
  have consults : (statement.cached && (none : Option (RowHandler (Stage T W))).isNone) = true := by
    rw [cached]
    rfl
  refine ⟨flushed statement region stage, ?_, flushed_outside statement region stage⟩
  rw [queryBound, Action.run_bind_ok known, Action.run_bind_ok (run_flush_stage statement region stage), if_pos consults,
    consult, Action.run_bind_error (run_refuse_outputs_given statement command outputs _)]

theorem refuses_query_outputs (configuration : Configuration (Stage T W)) (database : Database W)
    (opened : stage.own.closed = false) (command : Command) (made : configuration.command statement parameter = .ok command)
    (outputs : statement.HasOutputs command) :
    stage.RefusesOutputs statement ((configuration.caching database).query statement parameter bounds none) := by
  have answered : (Action.ofExcept (configuration.command statement parameter)).run stage = (.ok command, stage) := by
    rw [made, Action.run_of_except]
  have keyed := Direct.run_create_key configuration statement bounds command stage opened
  obtain ⟨after, refused, unasked⟩ : stage.RefusesOutputs statement
      (queryBound (configuration.direct database) statement parameter bounds none _ command) :=
    refuses_query_bound_outputs named cached registered parameter bounds _ command outputs
  exact ⟨after, (Action.run_bind_ok answered).trans ((Action.run_bind_ok keyed).trans refused), unasked⟩

end

end Caching

def Step.Publishes : Step .executor → Prop
  | .commit => True
  | .close => True
  | _ => False

-- The query that a call of an executor comes to: the statement, the receiver, the key, the command and the outcome.
inductive Executor.Asks (executor : Executor (Stage T W)) (configuration : Configuration (Stage T W)) (stage : Stage T W) :
    (step : Step .executor) → Arguments (Stage T W) step.parameters → Statement → Option (RowHandler (Stage T W)) → Key →
      Command → Except Fault Rows → Prop where
  | query (statement : Statement) (parameter : Parameter) (bounds : Bounds) (receiver : Option (RowHandler (Stage T W)))
      (command : Command) (made : configuration.command statement parameter = .ok command) :
      Asks executor configuration stage .query (statement, parameter, bounds, receiver, ()) statement receiver
        (Direct.keyOf configuration.settings statement bounds command) command
        ((executor.query statement parameter bounds receiver).run stage).1
  | queryBound (statement : Statement) (parameter : Parameter) (bounds : Bounds)
      (receiver : Option (RowHandler (Stage T W))) (key : Key) (command : Command) :
      Asks executor configuration stage .queryBound (statement, parameter, bounds, receiver, key, command, ()) statement
        receiver key command ((executor.queryBound statement parameter bounds receiver key command).run stage).1

theorem Executor.Asks.same {executor : Executor (Stage T W)} {configuration : Configuration (Stage T W)} {stage : Stage T W}
    {step : Step .executor} {arguments : Arguments (Stage T W) step.parameters} {statement other : Statement}
    {receiver against : Option (RowHandler (Stage T W))} {key given : Key} {command bound : Command}
    {outcome answer : Except Fault Rows}
    (asks : executor.Asks configuration stage step arguments statement receiver key command outcome)
    (again : executor.Asks configuration stage step arguments other against given bound answer) :
    statement = other ∧ command = bound := by
  cases asks with
  | query statement parameter bounds receiver command made =>
      cases again with
      | query _ _ _ _ bound remade => exact ⟨rfl, Except.ok.inj (made.symm.trans remade)⟩
  | queryBound =>
      cases again with
      | queryBound => exact ⟨rfl, rfl⟩

def Executor.Stores (executor : Executor (Stage T W)) (configuration : Configuration (Stage T W)) (stage : Stage T W)
    (step : Step .executor) (arguments : Arguments (Stage T W) step.parameters) : Entries := fun region key rows =>
  ∃ statement command given answered,
    executor.Asks configuration stage step arguments statement none given command (.ok answered) ∧
      Caching.Stores statement command given answered region key rows

namespace Caching

variable (configuration : Configuration (Stage Backing W))
  (confined : ∀ staging, configuration.chain.Heeds fun stage => stage.staging = staging) (database : Database W)

include confined

theorem gains_query_bound (statement : Statement) (parameter : Parameter) (bounds : Bounds)
    (receiver : Option (RowHandler (Stage Backing W)))
    (leaves : ∀ handler, receiver = some handler → handler.Leaves Stage.staging) (key : Key) (command : Command)
    (entry : Entries) (stage : Stage Backing W)
    (covers : ∀ answered, receiver = none → (((configuration.caching database).queryBound statement parameter bounds receiver
      key command).run stage).1 = .ok answered → ∀ region other rows,
        Stores statement command key answered region other rows → entry region other rows) :
    Gains False entry stage (((configuration.caching database).queryBound statement parameter bounds receiver key
      command).run stage).2 := by
  have aloof := Direct.aloof configuration confined database
  have left := triple_query_bound_gains aloof statement parameter bounds key command receiver leaves stage
    (Stage.gains_refl False nothing stage)
  change ∀ answered, receiver = none → ((queryBound (configuration.direct database) statement parameter bounds receiver key
    command).run stage).1 = .ok answered → _ at covers
  change Gains False entry stage ((queryBound (configuration.direct database) statement parameter bounds receiver key
    command).run stage).2
  rcases ran : (queryBound (configuration.direct database) statement parameter bounds receiver key command).run stage with
    ⟨outcome, after⟩
  rw [ran] at left covers
  cases outcome with
  | error cause => exact left.more nofun
  | ok answered =>
      exact left.elim (fun gains => gains.more nofun) fun ⟨absent, gains⟩ => gains.more (covers answered absent rfl)

theorem gains_call (step : Step .executor) (arguments : Arguments (Stage Backing W) step.parameters)
    (leaves : ∀ receiver, step.receiver arguments = some receiver → receiver.Leaves Stage.staging)
    (stage : Stage Backing W) :
    Gains step.Publishes ((configuration.caching database).Stores configuration stage step arguments) stage
      (((configuration.caching database).call step arguments).run stage).2 := by
  have aloof := Direct.aloof configuration confined database
  have refl :=
    Stage.gains_refl step.Publishes ((configuration.caching database).Stores configuration stage step arguments) stage
  cases step with
  | update => exact Action.triple_after (keeps_gains_update aloof arguments.1 arguments.2.1) stage refl
  | query =>
      obtain ⟨statement, parameter, bounds, receiver, _⟩ := arguments
      rcases Direct.run_keyed_cases configuration statement parameter bounds (fun command key =>
        (configuration.caching database).queryBound statement parameter bounds receiver key command) stage with
        ⟨cause, failed⟩ | ⟨command, made, same⟩
      · have still : ((configuration.caching database).query statement parameter bounds receiver).run stage =
          (.error cause, stage) := failed
        change Gains False _ stage (((configuration.caching database).query statement parameter bounds receiver).run stage).2
        rw [still]
        exact refl
      · have bound : ((configuration.caching database).query statement parameter bounds receiver).run stage = _ := same
        change Gains False _ stage (((configuration.caching database).query statement parameter bounds receiver).run stage).2
        rw [bound]
        apply gains_query_bound configuration confined database statement parameter bounds receiver leaves
        rintro answered rfl outcome region other rows stores
        refine ⟨statement, command, _, answered, ?_, stores⟩
        rw [← outcome, ← bound]
        exact .query statement parameter bounds none command made
  | queryBound =>
      obtain ⟨statement, parameter, bounds, receiver, key, command, _⟩ := arguments
      apply gains_query_bound configuration confined database statement parameter bounds receiver leaves
      rintro answered rfl outcome region other rows stores
      exact ⟨statement, command, key, answered, outcome ▸ .queryBound statement parameter bounds none key command, stores⟩
  | commit => exact gains_commit aloof arguments.1
  | rollback => exact gains_rollback aloof arguments.1
  | createKey => exact Action.triple_after (keeps_gains_inner (aloof .createKey arguments nofun)) stage refl
  | isCached => exact Action.triple_after (keeps_gains_inner (aloof .isCached arguments nofun)) stage refl
  | clearLocal => exact Action.triple_after (keeps_gains_inner (aloof .clearLocal arguments nofun)) stage refl
  | close => exact gains_close aloof arguments.1

end Caching

end StatementMapper
