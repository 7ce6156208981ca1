import StatementMapper.Proofs.Execution.Buffering

set_option autoImplicit false

namespace StatementMapper

open Cache

variable {T W : Type} {database : Database W}

-- What an end of a transaction adds to the journal: its entry if the driver is asked for it and carries it out.
def Journal.ending (required : Bool) (entry : Entry) (outcome : Except Fault Unit) : Journal :=
  match required, outcome with
  | true, .ok () => [entry]
  | _, _ => []

namespace Stage

def ended (world : W) (later : Journal) (stage : Stage T (Journaled W)) : Stage T (Journaled W) :=
  { stage.forgotten with world := ⟨world, stage.world.journal ++ later⟩ }

def unstaged (stage : Stage T W) : Stage T W :=
  { stage with own := { stage.own with buffers := Staging.emptied stage.own.buffers } }

def published [Store T] (stage : Stage T W) : Stage T W := ((Stage.inStaging Staging.commit).run stage).2

def shut (stage : Stage T W) : Stage T W := { stage with own := { stage.own with closed := true, kept := {} } }

theorem not_staged_unstaged (stage : Stage T W) (region : String) (key : Key) (rows : Rows) :
    ¬ stage.unstaged.own.Staged region key rows := by
  rintro ⟨buffer, there, entry⟩
  rw [unstaged, Staging.get_emptied, Option.map_eq_some_iff] at there
  obtain ⟨_, _, rfl⟩ := there
  exact nomatch entry

theorem run_publish [Store T] (stage : Stage T W) :
    (Stage.inStaging Staging.commit).run stage =
      (((Staging.publishAll stage.own.buffers).run stage.shared).1,
        { stage.unstaged with shared := ((Staging.publishAll stage.own.buffers).run stage.shared).2 }) := by
  rw [Stage.inStaging, Action.run_within, Staging.commit, Action.run_bind_ok (Action.run_look _ _),
    Action.run_bind_ok (Action.run_change _ _), Staging.inShared, Action.run_within]
  rfl

end Stage

namespace Database

theorem run_noted (action : Action W Unit) (entry : Entry) (required : Bool) (stage : Stage T (Journaled W)) :
    ∃ outcome world, (if required then Stage.inWorld (do
        Journaled.inWorld action
        Action.change (Journaled.note entry)) else pure () : Action (Stage T (Journaled W)) Unit).run stage =
      (outcome, { stage with world := ⟨world, stage.world.journal ++ Journal.ending required entry outcome⟩ }) ∧
      (required = false → outcome = .ok ()) := by
  cases required with
  | false => exact ⟨.ok (), stage.world.world, by simp [Journal.ending], fun _ => rfl⟩
  | true =>
      rcases ran : action.run stage.world.world with ⟨outcome, world⟩
      refine ⟨outcome, world, ?_, nofun⟩
      rw [if_pos rfl, Stage.inWorld, Action.run_within]
      cases outcome with
      | error cause =>
          rw [Action.run_bind_error (by rw [Journaled.inWorld, Action.run_within, ran])]
          simp [Journal.ending]
      | ok done =>
          rw [Action.run_bind_ok (by rw [Journaled.inWorld, Action.run_within, ran])]
          rfl

end Database

namespace Direct

theorem run_commit_closed (required : Bool) (stage : Stage T (Journaled W)) (closed : stage.own.closed = true) :
    (commit (database.journaled.staged T) required).run stage = (.error (.execution .alreadyClosed), stage) := by
  rw [commit, Action.run_bind_ok (Action.run_look _ _), closed]
  rfl

theorem run_commit_open (required : Bool) (stage : Stage T (Journaled W)) (opened : stage.own.closed = false) :
    ∃ outcome world, (commit (database.journaled.staged T) required).run stage =
        (outcome, stage.ended world (Journal.ending required .committed outcome)) ∧
      (required = false → outcome = .ok ()) := by
  obtain ⟨outcome, world, ran, idle⟩ := Database.run_noted database.commit .committed required stage.forgotten
  exact ⟨outcome, world, (run_opened _ _ stage opened).trans ran, idle⟩

theorem run_rollback_closed (required : Bool) (stage : Stage T (Journaled W)) (closed : stage.own.closed = true) :
    (rollback (database.journaled.staged T) required).run stage = (.ok (), stage) := by
  rw [rollback, Action.run_bind_ok (Action.run_look _ _), closed]
  rfl

theorem run_rollback_open (required : Bool) (stage : Stage T (Journaled W)) (opened : stage.own.closed = false) :
    ∃ outcome world, (rollback (database.journaled.staged T) required).run stage =
      (outcome, stage.ended world (Journal.ending required .rolledBack outcome)) := by
  obtain ⟨outcome, world, ran, _⟩ := Database.run_noted database.rollback .rolledBack required stage.forgotten
  exact ⟨outcome, world, (run_opened _ _ stage opened).trans ran⟩

theorem run_close_open (forced : Bool) (stage : Stage T (Journaled W)) (opened : stage.own.closed = false) :
    ∃ outcome undone world, (close (database.journaled.staged T) forced).run stage =
      (outcome, (stage.ended world (Journal.ending forced .rolledBack undone)).shut) := by
  obtain ⟨undone, world, ran⟩ := @run_rollback_open T W database forced stage opened
  rcases left : database.close.run world with ⟨gone, last⟩
  have ended : (database.journaled.staged T).close.run (stage.ended world (Journal.ending forced .rolledBack undone)) =
      (gone, stage.ended last (Journal.ending forced .rolledBack undone)) := by
    simp only [Database.staged, Database.within, Database.journaled, Journaled.inWorld, Action.run_within, Stage.ended, left]
  refine ⟨undone.bind fun _ => gone, undone, last, ?_⟩
  rw [close, Action.run_bind_ok (Action.run_look _ _), opened]
  refine (Action.run_bind_ok (Action.run_attempt_of ran)).trans ((Action.run_bind_ok (Action.run_attempt_of ended)).trans ?_)
  refine (Action.run_bind_ok (Action.run_change _ _)).trans ?_
  rcases undone with cause | done
  · rfl
  · rcases gone with cause | done <;> rfl

end Direct

namespace Caching

theorem run_rollback_closed (configuration : Configuration (Stage T (Journaled W))) (required : Bool)
    (stage : Stage T (Journaled W)) (closed : stage.own.closed = true) :
    (rollback (configuration.direct database.journaled) required).run stage =
      (.ok (), if required then stage.unstaged else stage) := by
  have tried := Action.run_attempt_of (@Direct.run_rollback_closed T W database required stage closed)
  refine (Action.run_bind_ok tried).trans ?_
  cases required <;> rfl

theorem run_rollback_open (configuration : Configuration (Stage T (Journaled W))) (required : Bool)
    (stage : Stage T (Journaled W)) (opened : stage.own.closed = false) :
    ∃ outcome world, (rollback (configuration.direct database.journaled) required).run stage = (outcome,
      if required then (stage.ended world (Journal.ending required .rolledBack outcome)).unstaged
      else stage.ended world []) := by
  obtain ⟨outcome, world, ran⟩ := @Direct.run_rollback_open T W database required stage opened
  refine ⟨outcome, world, (Action.run_bind_ok (Action.run_attempt_of ran)).trans ?_⟩
  cases required with
  | false => cases outcome <;> rfl
  | true => cases outcome <;> rfl

variable [Store T]

theorem run_commit_closed (configuration : Configuration (Stage T (Journaled W))) (required : Bool)
    (stage : Stage T (Journaled W)) (closed : stage.own.closed = true) :
    (commit (configuration.direct database.journaled) required).run stage =
      (.error (.execution .alreadyClosed), stage) :=
  Action.run_bind_error (Direct.run_commit_closed required stage closed)

-- What is staged is published only after the driver has committed, if it has to.
theorem run_commit_open (configuration : Configuration (Stage T (Journaled W))) (required : Bool)
    (stage : Stage T (Journaled W)) (opened : stage.own.closed = false) :
    (∃ cause world, (commit (configuration.direct database.journaled) required).run stage =
      (.error cause, stage.ended world [])) ∨
    ∃ outcome world, (commit (configuration.direct database.journaled) required).run stage =
      (outcome, (stage.ended world (Journal.ending required .committed (.ok ()))).published) := by
  obtain ⟨outcome, world, ran, _⟩ := @Direct.run_commit_open T W database required stage opened
  cases outcome with
  | error cause =>
      have kept : Journal.ending required .committed (.error cause) = [] := by cases required <;> rfl
      rw [kept] at ran
      exact Or.inl ⟨cause, world, Action.run_bind_error ran⟩
  | ok done => exact Or.inr ⟨_, world, Action.run_bind_ok ran⟩

theorem run_close_open (configuration : Configuration (Stage T (Journaled W))) (forced : Bool)
    (stage : Stage T (Journaled W)) (opened : stage.own.closed = false) :
    ∃ outcome undone world, (close (configuration.direct database.journaled) forced).run stage = (outcome,
      ((if forced then stage.unstaged else stage.published).ended world
        (Journal.ending forced .rolledBack undone)).shut) := by
  rcases ran : (settle forced : Action (Stage T (Journaled W)) Unit).run stage with ⟨outcome, settled⟩
  have left : settled = if forced then stage.unstaged else stage.published := by
    refine (congrArg Prod.snd ran).symm.trans ?_
    cases forced <;> rfl
  have still : settled.own.closed = false := by
    rw [left]
    cases forced with
    | true => exact opened
    | false =>
        simp only [Bool.false_eq_true, if_false, Stage.published, Stage.run_publish]
        exact opened
  obtain ⟨gone, undone, world, shut⟩ := @Direct.run_close_open T W database forced settled still
  rw [← left]
  refine ⟨outcome.bind fun _ => gone, undone, world, ?_⟩
  refine (Action.run_bind_ok (Action.run_attempt_of ran)).trans ((Action.run_bind_ok (Action.run_attempt_of shut)).trans ?_)
  rcases outcome with cause | done
  · rfl
  · rcases gone with cause | done <;> rfl

end Caching

end StatementMapper
