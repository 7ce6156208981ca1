import StatementMapper.Execution.Caching

set_option autoImplicit false

/-! A session is dirty after a write until it is committed or rolled back. -/

namespace StatementMapper

variable {T W : Type} [Cache.Store T]

namespace Configuration

variable (configuration : Configuration (Stage T W)) (database : Database W)

def direct : Executor (Stage T W) :=
  Direct.executor configuration (database.within Stage.world fun world stage => { stage with world })

def caching : Executor (Stage T W) := Caching.executor configuration (configuration.direct database)

def executor : Executor (Stage T W) :=
  configuration.chain.wrap
    (if configuration.settings.sharing then configuration.caching database else configuration.direct database)

end Configuration

structure Session (T W : Type) where
  configuration : Configuration (Stage T W)
  executor : Executor (Stage T W)
  autoCommit : Bool

structure Work (T W : Type) where
  dirty : Bool := false
  stage : Stage T W

namespace Session

def connect (configuration : Configuration (Stage T W)) (source : Action W (Database W)) (autoCommit : Bool) :
    Action W (Session T W) := do
  let database ← source
  pure ⟨configuration, configuration.executor database, autoCommit⟩

variable (session : Session T W)

def onStage {A : Type} (action : Action (Stage T W) A) : Action (Work T W) A :=
  Action.within Work.stage (fun stage work => { work with stage }) action

theorem run_on_stage {S V A : Type} {action : Action (Stage S V) A} {work : Work S V} {outcome : Except Fault A}
    {after : Stage S V} (ran : action.run work.stage = (outcome, after)) :
    (onStage action).run work = (outcome, { work with stage := after }) := by
  rw [onStage, Action.run_within, ran]

def setDirty (dirty : Bool) : Action (Work T W) Unit := Action.change fun work => { work with dirty }

def isClosed (work : Work T W) : Bool := session.executor.closed work.stage

def required (forced : Bool) (work : Work T W) : Bool := (!session.autoCommit && work.dirty) || forced

def statement (id : String) : Action (Work T W) Statement := Action.ofExcept (session.configuration.statement id)

def query (id : String) (parameter : Parameter) (bounds : Bounds) (receiver : Option (RowHandler (Stage T W))) :
    Action (Work T W) Rows := do
  let statement ← session.statement id
  onStage (session.executor.query statement parameter bounds receiver)

def prepare (id : String) (parameter : Parameter) (bounds : Bounds) (given : Option Cache.Key) :
    Action (Work T W) (Statement × Command × Cache.Key) := do
  let statement ← session.statement id
  let command ← Action.ofExcept (session.configuration.command statement parameter)
  match given with
  | some key => pure (statement, command, key)
  | none => do
    let key ← onStage (session.executor.createKey statement parameter bounds command)
    pure (statement, command, key)

def selectList (id : String) (parameter : Parameter) (bounds : Bounds) : Action (Work T W) Rows :=
  session.query id parameter bounds none

def selectOne (id : String) (parameter : Parameter) : Action (Work T W) (Option (List Value)) := do
  let rows ← session.selectList id parameter .all
  match rows.rows with
  | [] => pure none
  | [row] => pure (some row)
  | _ => Action.fail (.tooManyResults rows.count)

def selectEach (id : String) (parameter : Parameter) (bounds : Bounds) (receiver : RowHandler (Stage T W)) :
    Action (Work T W) Unit := do
  let _ ← session.query id parameter bounds (some receiver)
  pure ()

-- Runs a statement that changes data; the session is dirty even if that fails.
def update (id : String) (parameter : Parameter) : Action (Work T W) Nat := do
  let statement ← session.statement id
  setDirty true
  onStage (session.executor.update statement parameter)

def commit (forced : Bool) : Action (Work T W) Unit := do
  let required ← Action.look (session.required forced)
  onStage (session.executor.commit required)
  setDirty false

def rollback (forced : Bool) : Action (Work T W) Unit := do
  let required ← Action.look (session.required forced)
  onStage (session.executor.rollback required)
  setDirty false

def clearCache : Action (Work T W) Unit := onStage session.executor.clearLocal

-- Ends the session once. Writes that were not committed are rolled back.
def close : Action (Work T W) Unit := do
  let closed ← Action.look session.isClosed
  if closed then pure ()
  else do
    let required ← Action.look (session.required false)
    let outcome ← Action.attempt (onStage (session.executor.close required))
    setDirty false
    Action.ofExcept outcome

end Session

end StatementMapper
