import StatementMapper.Proofs.Execution.Ending
import StatementMapper.Session.History

set_option autoImplicit false

namespace StatementMapper

open Cache

variable {T W A : Type} {thins : Shared T → Shared T → Prop} {allow : Entry → Prop} {region : String}

def Entry.Read (entry : Entry) : Prop := ∃ rows, entry = .answered rows

-- How far a session may have come without publishing anything.
structure Work.Moves (thins : Shared T → Shared T → Prop) (allow : Entry → Prop) (region : String)
    (start work : Work T (Journaled W)) : Prop where
  dirty : work.dirty = start.dirty
  stage : Stage.Moves thins allow region start.stage work.stage

namespace Session

def Operation.Discreet (thins : Shared T → Shared T → Prop) : Operation T (Journaled W) → Prop
  | .each _ _ _ receiver => receiver.Discreet thins
  | _ => True

def journaled [Store T] (configuration : Configuration (Stage T (Journaled W))) (database : Database W)
    (autoCommit : Bool) : Session T (Journaled W) := ⟨configuration, configuration.executor database.journaled, autoCommit⟩

theorem steady_on_stage {start : Work T (Journaled W)} {action : Action (Stage T (Journaled W)) A}
    (steady : Stage.Steady thins allow region start.stage action) :
    Action.Triple (Work.Moves thins allow region start) (onStage action) (fun _ => Work.Moves thins allow region start)
      (Work.Moves thins allow region start) :=
  Action.triple_of_after fun work moves => ⟨moves.dirty, Action.triple_after steady work.stage moves.stage⟩

theorem triple_statement (session : Session T W) (good : Work T W → Prop) (id : String) :
    Action.Triple good (session.statement id) (fun _ => good) good :=
  Action.triple_of_except (fun _ _ _ holds => holds) fun _ holds => holds

def Operation.Reads : Operation T W → Prop
  | .list _ _ _ => True
  | .one _ _ => True
  | .each _ _ _ _ => True
  | .clearCache => True
  | _ => False

-- An operation that may bring what a session has staged to the regions.
def Operation.Publishes : Operation T W → Prop
  | .commit _ => True
  | .close => True
  | _ => False

theorem triple_reads_of {good : Work T W → Prop} {session : Session T W} (fits : RowHandler (Stage T W) → Prop)
    (queries : ∀ id parameter bounds receiver, (∀ handler, receiver = some handler → fits handler) →
      Action.Triple good (session.query id parameter bounds receiver) (fun _ => good) good)
    (forgets : Action.Triple good session.clearCache (fun _ => good) good) (operation : Operation T W)
    (reads : operation.Reads)
    (fitting : ∀ id parameter bounds receiver, operation = .each id parameter bounds receiver → fits receiver) :
    Action.Triple good (session.perform operation) (fun _ => good) good := by
  have settles {B : Type} (answer : B → Answer) (b : B) : Action.Triple good (pure (answer b)) (fun _ => good) good :=
    Action.triple_pure fun _ holds => holds
  cases operation with
  | list id parameter bounds => exact Action.triple_bind _ (queries id parameter bounds none nofun) (settles .rows)
  | one id parameter =>
      refine Action.triple_bind (fun _ => good) ?_ (settles .row)
      refine Action.triple_bind _ (queries id parameter .all none nofun) fun rows => ?_
      rcases rows.rows with _ | ⟨row, _ | ⟨other, rest⟩⟩
      · exact Action.triple_pure fun _ holds => holds
      · exact Action.triple_pure fun _ holds => holds
      · exact Action.triple_fail fun _ holds => holds
  | each id parameter bounds receiver =>
      refine Action.triple_bind (fun _ => good) ?_ (settles fun _ => .done)
      refine Action.triple_bind _ (queries id parameter bounds (some receiver) ?_)
        fun _ => Action.triple_pure fun _ holds => holds
      rintro handler ⟨⟩
      exact fitting id parameter bounds receiver rfl
  | clearCache => exact Action.triple_bind (fun _ => good) forgets (settles fun _ => .done)
  | update id parameter => exact reads.elim
  | commit forced => exact reads.elim
  | rollback forced => exact reads.elim
  | close => exact reads.elim

end Session

variable [Store T] {configuration : Configuration (Stage T (Journaled W))} {database : Database W} {autoCommit : Bool}
  {start : Work T (Journaled W)}

theorem Configuration.executor_caching (configuration : Configuration (Stage T W)) (database : Database W)
    (bare : configuration.chain = Chain.empty) (sharing : configuration.settings.sharing = true) :
    configuration.executor database = configuration.caching database := by
  rw [executor, bare, sharing]
  rfl

namespace Session

section

variable (trans : ∀ first second third, thins first second → thins second third → thins first third)
  (looks : Caching.Looks thins) (bare : configuration.chain = Chain.empty)
  (sharing : configuration.settings.sharing = true)

include trans looks bare sharing

theorem triple_query (id : String) (parameter : Parameter) (bounds : Bounds)
    (receiver : Option (RowHandler (Stage T (Journaled W))))
    (discreet : ∀ handler, receiver = some handler → handler.Discreet thins) :
    Action.Triple (Work.Moves thins Entry.Read region start)
      ((journaled configuration database autoCommit).query id parameter bounds receiver)
      (fun _ => Work.Moves thins Entry.Read region start) (Work.Moves thins Entry.Read region start) := by
  refine Action.triple_bind (fun _ => Work.Moves thins Entry.Read region start)
    (triple_statement (journaled configuration database autoCommit) _ id) fun statement => ?_
  rw [journaled, configuration.executor_caching database.journaled bare sharing]
  exact steady_on_stage (Caching.steady_query trans looks (fun rows => ⟨rows, rfl⟩) bare statement parameter bounds
    receiver discreet)

theorem triple_reads (operation : Operation T (Journaled W)) (reads : operation.Reads)
    (discreet : operation.Discreet thins) :
    Action.Triple (Work.Moves thins Entry.Read region start)
      ((journaled configuration database autoCommit).perform operation)
      (fun _ => Work.Moves thins Entry.Read region start) (Work.Moves thins Entry.Read region start) := by
  refine triple_reads_of (RowHandler.Discreet thins) (triple_query trans looks bare sharing) ?_ operation reads ?_
  · rw [clearCache, journaled, configuration.executor_caching database.journaled bare sharing]
    exact steady_on_stage (Direct.triple_clear_local fun _ moves => moves.forget)
  · rintro id parameter bounds receiver rfl
    exact discreet

end

section

variable (bare : configuration.chain = Chain.empty) (sharing : configuration.settings.sharing = true)

include bare sharing

theorem run_update_effect (refl : ∀ shared, thins shared shared) (id : String) (parameter : Parameter)
    (work : Work T (Journaled W)) :
    ∃ outcome after, ((journaled configuration database autoCommit).update id parameter).run work = (outcome, after) ∧
      (after = work ∨ after.dirty = true ∧
        Stage.Moves thins (fun entry => entry = .wrote) region work.stage after.stage) ∧
      (∀ count, outcome = .ok count → ∀ statement, configuration.statement id = .ok statement →
        statement.region = some region → statement.flushing = true →
          ∀ key rows, ¬ after.stage.own.Holds region key rows) := by
  cases found : configuration.statement id with
  | error cause =>
      refine ⟨.error cause, work, Action.run_bind_error ?_, Or.inl rfl, nofun⟩
      rw [statement, journaled, found]
      rfl
  | ok statement =>
      obtain ⟨outcome, after, ran, moves, flushed⟩ :=
        @Caching.run_update_moves T W thins region database configuration refl bare statement parameter work.stage
      refine ⟨outcome, ⟨true, after⟩, ?_, Or.inr ⟨rfl, moves⟩, ?_⟩
      · have looked : ((journaled configuration database autoCommit).statement id).run work = (.ok statement, work) := by
          rw [Session.statement, journaled, found]
          rfl
        refine (Action.run_bind_ok looked).trans ((Action.run_bind_ok (Action.run_change _ _)).trans ?_)
        rw [journaled, configuration.executor_caching database.journaled bare sharing, onStage, Action.run_within]
        exact congrArg (fun result => (result.1, Work.mk true result.2)) ran
      · rintro count answered _ ⟨⟩
        exact flushed count answered

inductive Commits (required : Bool) (work : Work T (Journaled W)) : Work T (Journaled W) → Prop where
  | refused (closed : work.stage.own.closed = true) : Commits required work work
  | failed (opened : work.stage.own.closed = false) (world : W) :
      Commits required work { work with stage := work.stage.ended world [] }
  | published (opened : work.stage.own.closed = false) (world : W) (dirty : Bool) :
      Commits required work ⟨dirty, (work.stage.ended world (Journal.ending required .committed (.ok ()))).published⟩

inductive RollsBack (required : Bool) (work : Work T (Journaled W)) : Work T (Journaled W) → Prop where
  | closed (closed : work.stage.own.closed = true) :
      RollsBack required work ⟨false, if required then work.stage.unstaged else work.stage⟩
  | ended (opened : work.stage.own.closed = false) (world : W) (outcome : Except Fault Unit) :
      RollsBack required work ⟨match outcome with
          | .ok () => false
          | .error _ => work.dirty,
        if required then (work.stage.ended world (Journal.ending required .rolledBack outcome)).unstaged
        else work.stage.ended world []⟩

inductive Closes (required : Bool) (work : Work T (Journaled W)) : Work T (Journaled W) → Prop where
  | already (closed : work.stage.own.closed = true) : Closes required work work
  | shut (opened : work.stage.own.closed = false) (world : W) (undone : Except Fault Unit) :
      Closes required work ⟨false, ((if required then work.stage.unstaged else work.stage.published).ended world
        (Journal.ending required .rolledBack undone)).shut⟩

theorem commit_commits (forced : Bool) (work : Work T (Journaled W)) :
    Commits ((journaled configuration database autoCommit).required forced work) work
      (((journaled configuration database autoCommit).commit forced).run work).2 := by
  generalize needed : (journaled configuration database autoCommit).required forced work = required
  have begins : ((journaled configuration database autoCommit).commit forced).run work = (do
      onStage (Caching.commit (configuration.direct database.journaled) required)
      setDirty false : Action (Work T (Journaled W)) Unit).run work := by
    rw [commit, Action.run_bind_ok (Action.run_look _ _), needed, journaled,
      configuration.executor_caching database.journaled bare sharing]
    rfl
  rw [begins]
  cases closed : work.stage.own.closed with
  | true =>
      rw [Action.run_bind_error (run_on_stage (Caching.run_commit_closed configuration required work.stage closed))]
      exact .refused closed
  | false =>
      rcases @Caching.run_commit_open T W database _ configuration required work.stage closed with
        ⟨cause, world, ran⟩ | ⟨outcome, world, ran⟩
      · rw [Action.run_bind_error (run_on_stage ran)]
        exact .failed closed world
      · cases outcome with
        | ok done =>
            rw [Action.run_bind_ok (run_on_stage ran)]
            exact .published closed world false
        | error cause =>
            rw [Action.run_bind_error (run_on_stage ran)]
            exact .published closed world work.dirty

theorem rollback_rolls_back (forced : Bool) (work : Work T (Journaled W)) :
    RollsBack ((journaled configuration database autoCommit).required forced work) work
      (((journaled configuration database autoCommit).rollback forced).run work).2 := by
  generalize needed : (journaled configuration database autoCommit).required forced work = required
  have begins : ((journaled configuration database autoCommit).rollback forced).run work = (do
      onStage (Caching.rollback (configuration.direct database.journaled) required)
      setDirty false : Action (Work T (Journaled W)) Unit).run work := by
    rw [rollback, Action.run_bind_ok (Action.run_look _ _), needed, journaled,
      configuration.executor_caching database.journaled bare sharing]
    rfl
  rw [begins]
  cases closed : work.stage.own.closed with
  | true =>
      rw [Action.run_bind_ok (run_on_stage (Caching.run_rollback_closed configuration required work.stage closed))]
      exact .closed closed
  | false =>
      obtain ⟨outcome, world, ran⟩ := @Caching.run_rollback_open T W database configuration required work.stage closed
      cases outcome with
      | error cause =>
          rw [Action.run_bind_error (run_on_stage ran)]
          exact .ended closed world (.error cause)
      | ok done =>
          rw [Action.run_bind_ok (run_on_stage ran)]
          exact .ended closed world (.ok done)

theorem close_closes (work : Work T (Journaled W)) :
    Closes ((journaled configuration database autoCommit).required false work) work
      (((journaled configuration database autoCommit).close).run work).2 := by
  have view : (journaled configuration database autoCommit).isClosed work = work.stage.own.closed := by
    rw [isClosed, journaled, configuration.executor_caching database.journaled bare sharing]
    rfl
  generalize needed : (journaled configuration database autoCommit).required false work = required
  rw [close, Action.run_bind_ok (Action.run_look _ _), view]
  cases closed : work.stage.own.closed with
  | true => exact .already closed
  | false =>
      obtain ⟨outcome, undone, world, ran⟩ := @Caching.run_close_open T W database _ configuration required work.stage closed
      have begins : (do
          let required ← Action.look ((journaled configuration database autoCommit).required false)
          let outcome ← Action.attempt (onStage ((journaled configuration database autoCommit).executor.close required))
          setDirty false
          Action.ofExcept outcome : Action (Work T (Journaled W)) Unit).run work =
          (outcome, ⟨false, ((if required then work.stage.unstaged else work.stage.published).ended world
            (Journal.ending required .rolledBack undone)).shut⟩) := by
        rw [Action.run_bind_ok (Action.run_look _ _), needed, journaled,
          configuration.executor_caching database.journaled bare sharing]
        refine (Action.run_bind_ok (Action.run_attempt_of (run_on_stage ran))).trans ?_
        refine (Action.run_bind_ok (Action.run_change _ _)).trans ?_
        cases outcome <;> rfl
      exact begins ▸ .shut closed world undone

end

-- The ways in which an operation can end, whatever the connection does.
inductive Performs (thins : Shared T → Shared T → Prop) (region : String) (session : Session T (Journaled W))
    (work : Work T (Journaled W)) : Operation T (Journaled W) → Work T (Journaled W) → Prop where
  | reads {operation : Operation T (Journaled W)} {after : Work T (Journaled W)} (reads : operation.Reads)
      (moves : Work.Moves thins Entry.Read region work after) : Performs thins region session work operation after
  | unknown {id : String} {parameter : Parameter} : Performs thins region session work (.update id parameter) work
  | writes {id : String} {parameter : Parameter} {after : Work T (Journaled W)} (dirty : after.dirty = true)
      (moves : Stage.Moves thins (fun entry => entry = .wrote) region work.stage after.stage) :
      Performs thins region session work (.update id parameter) after
  | commits {forced : Bool} {after : Work T (Journaled W)} (commits : Commits (session.required forced work) work after) :
      Performs thins region session work (.commit forced) after
  | rollsBack {forced : Bool} {after : Work T (Journaled W)} (rolls : RollsBack (session.required forced work) work after) :
      Performs thins region session work (.rollback forced) after
  | closes {after : Work T (Journaled W)} (closes : Closes (session.required false work) work after) :
      Performs thins region session work .close after

theorem performs (refl : ∀ shared, thins shared shared)
    (trans : ∀ first second third, thins first second → thins second third → thins first third)
    (looks : Caching.Looks thins) (bare : configuration.chain = Chain.empty)
    (sharing : configuration.settings.sharing = true) (operation : Operation T (Journaled W))
    (discreet : operation.Discreet thins) (work : Work T (Journaled W)) :
    Performs thins region (journaled configuration database autoCommit) work operation
      (((journaled configuration database autoCommit).perform operation).run work).2 := by
  have reading (reads : operation.Reads) : Performs thins region (journaled configuration database autoCommit) work
      operation (((journaled configuration database autoCommit).perform operation).run work).2 :=
    .reads reads (Action.triple_after (triple_reads trans looks bare sharing operation reads discreet) work
      ⟨rfl, Stage.moves_refl refl work.stage⟩)
  cases operation with
  | list id parameter bounds => exact reading trivial
  | one id parameter => exact reading trivial
  | each id parameter bounds receiver => exact reading trivial
  | clearCache => exact reading trivial
  | update id parameter =>
      obtain ⟨outcome, after, ran, left, _⟩ := @run_update_effect T W thins region _ configuration database autoCommit
        bare sharing refl id parameter work
      rw [perform, Action.run_map Answer.count ran]
      rcases left with rfl | ⟨dirty, moves⟩
      · exact .unknown
      · exact .writes dirty moves
  | commit forced =>
      rw [perform, Action.after_map _ fun _ => Answer.done]
      exact .commits (commit_commits bare sharing forced work)
  | rollback forced =>
      rw [perform, Action.after_map _ fun _ => Answer.done]
      exact .rollsBack (rollback_rolls_back bare sharing forced work)
  | close =>
      rw [perform, Action.after_map _ fun _ => Answer.done]
      exact .closes (close_closes bare sharing work)

end Session

end StatementMapper
