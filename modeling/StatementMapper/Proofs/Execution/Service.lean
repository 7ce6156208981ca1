import StatementMapper.Proofs.Execution.Driver

set_option autoImplicit false

namespace StatementMapper

variable {D W T : Type}

namespace Ledger

def commit (data : Ledger D) : Ledger D := ⟨data.working, data.working⟩

def rollback (data : Ledger D) : Ledger D := ⟨data.committed, data.committed⟩

def Settled (data : Ledger D) : Prop := data.working = data.committed

def settle (required : Bool) (ending : Ledger D → Ledger D) (data : Ledger D) : Ledger D :=
  if required then ending data else data

theorem settled_settle (required : Bool) (ending : Ledger D → Ledger D) (data : Ledger D)
    (ends : (ending data).Settled) (idle : required = false → data.Settled) : (data.settle required ending).Settled := by
  cases required with
  | false => exact idle rfl
  | true => exact ends

end Ledger

namespace Statement

def Reads (region : String) (statement : Statement) : Prop :=
  statement.region = none ∨ statement.region = some region

def Writes (region : String) (statement : Statement) : Prop :=
  statement.region = some region ∧ statement.flushing = true

end Statement

-- An executor that does to the data what the driver does. Its queries may differ as far as `agrees` allows.
structure Serves (driver : Driver D) (ledger : W → Ledger D) (configuration : Configuration (Stage T W))
    (region : String) (agrees : Except Fault Rows → Except Fault Rows → Prop) (good : Stage T W → Prop)
    (executor : Executor (Stage T W)) : Prop where
  failed : ∀ cause, agrees (.error cause) (.error cause)
  query : ∀ statement parameter bounds stage, good stage → statement.Reads region →
    ∃ outcome after, (executor.query statement parameter bounds none).run stage = (outcome, after) ∧
      agrees outcome (driver.select configuration statement parameter bounds (ledger stage.world).working) ∧
      ledger after.world = ledger stage.world ∧ good after
  update : ∀ statement parameter stage, good stage → statement.Writes region →
    ∃ after, (executor.update statement parameter).run stage =
        ((driver.change configuration statement parameter (ledger stage.world)).1, after) ∧
      ledger after.world = ⟨(ledger stage.world).committed,
        (driver.change configuration statement parameter (ledger stage.world)).2⟩ ∧ good after
  commit : ∀ required stage, good stage → (required = false → (ledger stage.world).Settled) →
    ∃ after, (executor.commit required).run stage = (.ok (), after) ∧
      ledger after.world = (ledger stage.world).settle required Ledger.commit ∧ good after
  rollback : ∀ required stage, good stage →
    ∃ after, (executor.rollback required).run stage = (.ok (), after) ∧
      ledger after.world = (ledger stage.world).settle required Ledger.rollback ∧ good after
  forget : ∀ stage, good stage →
    ∃ after, executor.clearLocal.run stage = (.ok (), after) ∧ ledger after.world = ledger stage.world ∧ good after

namespace Direct

theorem run_ensure_open (stage : Stage T W) (opened : stage.own.closed = false) :
    ensureOpen.run stage = (.ok (), stage) := by
  rw [ensureOpen, Action.run_bind_ok (Action.run_look _ _), opened]
  rfl

theorem run_ensure_open_closed (stage : Stage T W) (closed : stage.own.closed = true) :
    ensureOpen.run stage = (.error .executorClosed, stage) := by
  rw [ensureOpen, Action.run_bind_ok (Action.run_look _ _), closed]
  rfl

end Direct

namespace Database

theorem run_ending {ending : Action W Unit} (ledger : W → Ledger D) (change : Ledger D → Ledger D)
    (ends : ∀ world, ∃ after, ending.run world = (.ok (), after) ∧ ledger after = change (ledger world)) (required : Bool)
    (stage : Stage T W) :
    ∃ world, (if required then Stage.inWorld ending else pure () : Action (Stage T W) Unit).run stage =
        (.ok (), { stage with world := world }) ∧
      ledger world = (ledger stage.world).settle required change := by
  cases required with
  | false => exact ⟨stage.world, rfl, rfl⟩
  | true =>
      obtain ⟨world, ran, left⟩ := ends stage.world
      refine ⟨world, ?_, left⟩
      rw [if_pos rfl, Stage.inWorld, Action.run_within, ran]

end Database

namespace Uncached

variable (configuration : Configuration (Stage T W)) (database : Database (Stage T W))

def update (statement : Statement) (parameter : Parameter) : Action (Stage T W) Nat := do
  Direct.ensureOpen
  Direct.send configuration database statement parameter

def queryBound (statement : Statement) (bounds : Bounds) (receiver : Option (RowHandler (Stage T W)))
    (command : Command) : Action (Stage T W) Rows := do
  Direct.ensureOpen
  Direct.fetch configuration database statement bounds receiver command

def query (statement : Statement) (parameter : Parameter) (bounds : Bounds)
    (receiver : Option (RowHandler (Stage T W))) : Action (Stage T W) Rows := do
  let command ← Action.ofExcept (configuration.command statement parameter)
  queryBound configuration database statement bounds receiver command

def commit (required : Bool) : Action (Stage T W) Unit := do
  let closed ← Action.look fun stage => stage.own.closed
  if closed then Action.fail (.execution .alreadyClosed)
  else if required then database.commit else pure ()

def rollback (required : Bool) : Action (Stage T W) Unit := do
  let closed ← Action.look fun stage => stage.own.closed
  if closed then pure ()
  else if required then database.rollback else pure ()

def close (forced : Bool) : Action (Stage T W) Unit := do
  let closed ← Action.look fun stage => stage.own.closed
  if closed then pure ()
  else do
    let undone ← Action.attempt (rollback database forced)
    let ended ← Action.attempt database.close
    Stage.changeOwn fun own => { own with closed := true }
    Action.ofExcept (undone.bind fun _ => ended)

def executor : Executor (Stage T W) where
  view stage := stage.own.closed
  call
    | .update, (statement, parameter, ()) => update configuration database statement parameter
    | .query, (statement, parameter, bounds, receiver, ()) =>
      query configuration database statement parameter bounds receiver
    | .queryBound, (statement, _, bounds, receiver, _, command, ()) =>
      queryBound configuration database statement bounds receiver command
    | .commit, (required, ()) => commit database required
    | .rollback, (required, ()) => rollback database required
    | .createKey, (statement, _, bounds, command, ()) => Direct.createKey configuration statement bounds command
    | .isCached, (_, _, ()) => pure false
    | .clearLocal, () => pure ()
    | .close, (forced, ()) => close database forced

end Uncached

def Configuration.uncached (configuration : Configuration (Stage T W)) (database : Database W) : Executor (Stage T W) :=
  Uncached.executor configuration (database.staged T)

namespace Uncached

variable {driver : Driver D} {ledger : W → Ledger D} {database : Database W}

theorem serves (describes : driver.Describes ledger database) (configuration : Configuration (Stage T W))
    (bare : configuration.chain = Chain.empty) (region : String) :
    Serves driver ledger configuration region Eq (fun stage => stage.own.closed = false)
      (configuration.uncached database) where
  failed _ := rfl
  query := by
    intro statement parameter bounds stage opened _
    change ∃ outcome after, (query configuration _ statement parameter bounds none).run stage = (outcome, after) ∧ _
    unfold query Driver.select
    cases made : configuration.command statement parameter with
    | error cause => exact ⟨_, stage, rfl, rfl, rfl, opened⟩
    | ok command =>
        obtain ⟨world, ran, same⟩ := Direct.run_fetch describes configuration bare statement bounds command stage
        refine ⟨_, { stage with world := world }, ?_, rfl, same, opened⟩
        refine (Action.run_bind_ok (Action.run_answer command stage)).trans ?_
        exact (Action.run_bind_ok (Direct.run_ensure_open stage opened)).trans ran
  update := by
    intro statement parameter stage opened _
    obtain ⟨world, ran, left⟩ := Direct.run_send describes configuration bare statement parameter stage
    exact ⟨{ stage with world := world }, (Action.run_bind_ok (Direct.run_ensure_open stage opened)).trans ran, left, opened⟩
  commit := by
    intro required stage opened _
    obtain ⟨world, ran, left⟩ := Database.run_ending ledger Ledger.commit describes.commit required stage
    refine ⟨{ stage with world := world }, (Action.run_bind_ok (Action.run_look _ _)).trans ?_, left, opened⟩
    rw [opened]
    exact ran
  rollback := by
    intro required stage opened
    obtain ⟨world, ran, left⟩ := Database.run_ending ledger Ledger.rollback describes.rollback required stage
    refine ⟨{ stage with world := world }, (Action.run_bind_ok (Action.run_look _ _)).trans ?_, left, opened⟩
    rw [opened]
    exact ran
  forget := fun stage opened => ⟨stage, rfl, rfl, opened⟩

end Uncached

end StatementMapper
