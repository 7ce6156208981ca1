import StatementMapper.Proofs.Session.Runs
import StatementMapper.Proofs.Session.Transparency

set_option autoImplicit false

/-! Once a close has been asked for nothing reaches the connection or the regions, whatever came of the close. -/

namespace StatementMapper

open Cache
open StatementMapper.Action (Keeps Refuses)

variable {T W A : Type}

def Work.Rests (start : Stage T W) (work : Work T W) : Prop := start.Rests work.stage

namespace Session

def Operation.Works : Operation T W → Prop
  | .list _ _ _ => True
  | .one _ _ => True
  | .each _ _ _ _ => True
  | .update _ _ => True
  | .commit _ => True
  | _ => False

theorem triple_on_stage {pre broken : Stage T W → Prop} {post : A → Stage T W → Prop} {action : Action (Stage T W) A}
    (triple : Action.Triple pre action post broken) :
    Action.Triple (fun work : Work T W => pre work.stage) (onStage action) (fun a work => post a work.stage)
      fun work => broken work.stage := by
  intro work holds
  have left := triple work.stage holds
  rcases ran : action.run work.stage with ⟨outcome, after⟩
  rw [ran] at left
  rw [run_on_stage ran]
  cases outcome with
  | ok a => exact left
  | error cause => exact left

variable {session : Session T W} {start : Stage T W}

theorem keeps_dirty (dirty : Bool) : Keeps (Work.Rests start) (setDirty dirty) := Action.triple_change fun _ rests => rests

variable (retires : session.executor.Retires)

include retires

theorem refuses_query (id : String) (parameter : Parameter) (bounds : Bounds)
    (receiver : Option (RowHandler (Stage T W))) :
    Refuses (Work.Rests start) (session.query id parameter bounds receiver) := by
  apply Keeps.before (triple_statement session _ id)
  exact fun statement => triple_on_stage (retires.query start statement parameter bounds receiver)

theorem refuses_update (id : String) (parameter : Parameter) : Refuses (Work.Rests start) (session.update id parameter) := by
  apply Keeps.before (triple_statement session _ id)
  intro statement
  apply Keeps.before (keeps_dirty true)
  exact fun _ => triple_on_stage (retires.update start statement parameter)

theorem refuses_commit (forced : Bool) : Refuses (Work.Rests start) (session.commit forced) := by
  apply Keeps.before (Action.keeps_look _)
  intro required
  have refuses : Refuses (Work.Rests start) (onStage (session.executor.commit required)) :=
    triple_on_stage (retires.commit start required)
  exact refuses.before _

theorem refuses_works (operation : Operation T W) (works : operation.Works) :
    Refuses (Work.Rests start) (session.perform operation) := by
  cases operation with
  | list id parameter bounds => exact (refuses_query retires id parameter bounds none).before _
  | one id parameter => exact ((refuses_query retires id parameter .all none).before _).before _
  | each id parameter bounds receiver =>
      exact ((refuses_query retires id parameter bounds (some receiver)).before _).before _
  | update id parameter => exact (refuses_update retires id parameter).before _
  | commit forced => exact (refuses_commit retires forced).before _
  | rollback forced => exact works.elim
  | clearCache => exact works.elim
  | close => exact works.elim

theorem keeps_rollback (forced : Bool) : Keeps (Work.Rests start) (session.rollback forced) := by
  apply Keeps.before (Action.keeps_look _)
  intro required
  apply Keeps.before (triple_on_stage (retires.rollback start required))
  exact fun _ => keeps_dirty false

theorem keeps_close : Keeps (Work.Rests start) session.close := by
  apply Action.triple_bind fun closed work => closed = true ∧ Work.Rests start work
  · exact Action.triple_look fun work rests => ⟨(retires.view work.stage).trans rests.closed, rests⟩
  · intro closed
    cases closed with
    | true => exact Action.triple_pure fun _ known => known.2
    | false => exact fun _ known => absurd known.1 Bool.false_ne_true

theorem keeps_perform (operation : Operation T W) : Keeps (Work.Rests start) (session.perform operation) := by
  have working (works : operation.Works) : Keeps (Work.Rests start) (session.perform operation) :=
    (refuses_works retires operation works).keeps
  cases operation with
  | list id parameter bounds => exact working trivial
  | one id parameter => exact working trivial
  | each id parameter bounds receiver => exact working trivial
  | update id parameter => exact working trivial
  | commit forced => exact working trivial
  | rollback forced => exact Keeps.before (keeps_rollback retires forced) fun _ => Action.keeps_pure _
  | clearCache => exact Keeps.before (triple_on_stage (retires.clearLocal start)) fun _ => Action.keeps_pure _
  | close => exact Keeps.before (keeps_close retires) fun _ => Action.keeps_pure _

theorem rests_history (operations : List (Operation T W)) (work : Work T W) (rests : Work.Rests start work) :
    Work.Rests start (session.history operations work) := by
  induction operations generalizing work with
  | nil => exact rests
  | cons operation rest ih => exact ih _ (Action.triple_after (keeps_perform retires operation) work rests)

omit retires

-- Nothing has reached the connection and the regions, and nothing will when it ends.
structure Inert (session : Session T W) (work after : Work T W) : Prop where
  closed : session.isClosed after = true
  shared : after.stage.shared = work.stage.shared
  world : after.stage.world = work.stage.world
  refuses : ∀ operation : Operation T W, operation.Works →
    ∃ cause, ((session.perform operation).run after).1 = .error cause
  ended : ∀ shared world, session.Ends after shared world → shared = work.stage.shared ∧ world = work.stage.world

theorem inert_of_rests (retires : session.executor.Retires) {work after : Work T W} (rests : Work.Rests work.stage after) :
    session.Inert work after where
  closed := (retires.view after.stage).trans rests.closed
  shared := rests.shared
  world := rests.world
  refuses operation works := by
    obtain ⟨cause, last, ran, _⟩ := (refuses_works retires operation works).run rests
    exact ⟨cause, congrArg Prod.fst ran⟩
  ended shared world ends := by
    obtain ⟨same, still⟩ := ends_closed ends
    have last := Action.triple_after (keeps_close retires) after rests
    exact ⟨same.trans last.shared, still.trans last.world⟩

variable [Store T]

theorem closed_inert (configuration : Configuration (Stage T (Logged W))) (bare : configuration.chain = Chain.empty)
    (database : Database W) (autoCommit : Bool) (trace : List (Operation T (Logged W) × Bool)) (work : Work T (Logged W))
    (runs : Runs (logged configuration database autoCommit) trace work) (fine : Bool) (asked : (.close, fine) ∈ trace) :
    (work.stage.world.calls.countP fun call => call.ask = .close) = 1 ∧
      ∀ operations : List (Operation T (Logged W)), (logged configuration database autoCommit).Inert work
        ((logged configuration database autoCommit).history operations work) := by
  have retires : (logged configuration database autoCommit).executor.Retires :=
    configuration.executor_retires bare database.logged
  have accounts : (logged configuration database autoCommit).executor.Accounts :=
    configuration.executor_accounts bare database
  have closed := closed_run retires accounts runs fine asked
  constructor
  · exact (closings_run retires accounts runs).trans (by rw [closed]; rfl)
  · intro operations
    apply inert_of_rests retires
    exact rests_history retires operations work (Stage.rests_refl work.stage closed)

end Session

namespace Counting

open Session

def loggedConfiguration : Configuration (Stage Backing (Logged (Ledger Nat))) where
  statements := [("show", statementOf "show" .select "SHOW"), ("add", statementOf "add" .update "ADD")]

def loggedSession : Session Backing (Logged (Ledger Nat)) := logged loggedConfiguration database false

def begun : Work Backing (Logged (Ledger Nat)) := { stage := ⟨{}, work.stage.shared, { world := ⟨0, 0⟩ }⟩ }

def closedWork : Work Backing (Logged (Ledger Nat)) :=
  ((loggedSession.perform .close).run ((loggedSession.perform (.update "add" .none)).run begun).2).2

theorem closed_runs : ∃ trace fine, Runs loggedSession trace closedWork ∧ (.close, fine) ∈ trace := by
  have opened : Runs loggedSession [] begun := .opened work.stage.shared (⟨0, 0⟩ : Ledger Nat)
  have wrote := opened.own (.update "add" .none) trivial
  have closed := wrote.own .close trivial
  exact ⟨_, _, closed, List.mem_append_right _ List.mem_cons_self⟩

-- What it wrote was rolled back before it was closed, and nothing that it is asked for later changes that.
theorem closed_after_write :
    closedWork.stage.world.calls = [⟨.execute, true⟩, ⟨.rollback, true⟩, ⟨.close, true⟩] ∧
      ∀ operations, loggedSession.Inert closedWork (loggedSession.history operations closedWork) := by
  obtain ⟨trace, fine, runs, asked⟩ := closed_runs
  exact ⟨rfl, (closed_inert loggedConfiguration rfl database false trace closedWork runs fine asked).2⟩

end Counting

end StatementMapper
