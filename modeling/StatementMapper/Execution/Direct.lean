import StatementMapper.Execution.Handlers
import StatementMapper.Execution.Stage

set_option autoImplicit false

namespace StatementMapper.Direct

variable {T W : Type}

def ensureOpen : Action (Stage T W) Unit := do
  let closed ← Action.look fun stage => stage.own.closed
  if closed then Action.fail .executorClosed else pure ()

def clearLocal : Action (Stage T W) Unit :=
  Stage.changeOwn fun own => if own.closed then own else { own with kept := {} }

-- A bound as part of a key; those beyond 63 bits are the same.
def boundValue (bound : Nat) : Value := .integer (Int64.ofNat (min bound (Word.signedBound - 1)))

def keyOf (settings : Settings) (statement : Statement) (bounds : Bounds) (command : Command) : Cache.Key :=
  ⟨[.text statement.id, boundValue bounds.offset, boundValue bounds.limit, .text command.sql] ++
    command.inputs.map Prod.snd ++ [.text settings.environment]⟩

variable (configuration : Configuration (Stage T W)) (database : Database (Stage T W))

def createKey (statement : Statement) (bounds : Bounds) (command : Command) : Action (Stage T W) Cache.Key := do
  ensureOpen
  pure (keyOf configuration.settings statement bounds command)

def update (statement : Statement) (parameter : Parameter) : Action (Stage T W) Nat := do
  ensureOpen
  clearLocal
  let command ← Action.ofExcept (configuration.command statement parameter)
  let handler := configuration.statementHandler database statement .all none command
  let prepared ← handler.prepare
  let request ← handler.parameterize prepared
  handler.update request

def fetch (statement : Statement) (bounds : Bounds) (receiver : Option (RowHandler (Stage T W)))
    (command : Command) : Action (Stage T W) Rows := do
  let handler := configuration.statementHandler database statement bounds receiver command
  let prepared ← handler.prepare
  let request ← handler.parameterize prepared
  handler.query request

def endQuery : Action (Stage T W) Unit :=
  if configuration.settings.localScope = .statement then clearLocal else pure ()

def fetchOnce (statement : Statement) (bounds : Bounds) (key : Cache.Key) (command : Command) :
    Action (Stage T W) Rows := do
  let known ← Action.look fun stage => stage.own.kept.get? key
  match known with
  | some rows => pure rows
  | none => do
    let rows ← fetch configuration database statement bounds none command
    Stage.changeOwn fun own => { own with kept := own.kept.put key rows }
    endQuery configuration
    pure rows

def stream (statement : Statement) (bounds : Bounds) (receiver : RowHandler (Stage T W)) (command : Command) :
    Action (Stage T W) Rows := do
  let rows ← fetch configuration database statement bounds (some receiver) command
  endQuery configuration
  pure rows

def queryBound (statement : Statement) (bounds : Bounds) (receiver : Option (RowHandler (Stage T W)))
    (key : Cache.Key) (command : Command) : Action (Stage T W) Rows := do
  ensureOpen
  if statement.flushing then clearLocal else pure ()
  match receiver with
  | none => fetchOnce configuration database statement bounds key command
  | some receiver => stream configuration database statement bounds receiver command

def query (statement : Statement) (parameter : Parameter) (bounds : Bounds)
    (receiver : Option (RowHandler (Stage T W))) : Action (Stage T W) Rows := do
  let command ← Action.ofExcept (configuration.command statement parameter)
  let key ← createKey configuration statement bounds command
  queryBound configuration database statement bounds receiver key command

def commit (required : Bool) : Action (Stage T W) Unit := do
  let closed ← Action.look fun stage => stage.own.closed
  if closed then Action.fail (.execution .alreadyClosed)
  else do
    clearLocal
    if required then database.commit else pure ()

def rollback (required : Bool) : Action (Stage T W) Unit := do
  let closed ← Action.look fun stage => stage.own.closed
  if closed then pure ()
  else do
    clearLocal
    if required then database.rollback else pure ()

def isCached (key : Cache.Key) : Action (Stage T W) Bool :=
  Action.look fun stage => (stage.own.kept.get? key).isSome

-- Ends the session with the database, even if a part of that fails; the first failure is the outcome.
def close (forced : Bool) : Action (Stage T W) Unit := do
  let closed ← Action.look fun stage => stage.own.closed
  if closed then pure ()
  else do
    let undone ← Action.attempt (rollback database forced)
    let ended ← Action.attempt database.close
    Stage.changeOwn fun own => { own with closed := true, kept := {} }
    Action.ofExcept (undone.bind fun _ => ended)

def executor : Executor (Stage T W) where
  view stage := stage.own.closed
  call
    | .update, (statement, parameter, ()) => update configuration database statement parameter
    | .query, (statement, parameter, bounds, receiver, ()) =>
      query configuration database statement parameter bounds receiver
    | .queryBound, (statement, _, bounds, receiver, key, command, ()) =>
      queryBound configuration database statement bounds receiver key command
    | .commit, (required, ()) => commit database required
    | .rollback, (required, ()) => rollback database required
    | .createKey, (statement, _, bounds, command, ()) => createKey configuration statement bounds command
    | .isCached, (_, key, ()) => isCached key
    | .clearLocal, () => clearLocal
    | .close, (forced, ()) => close database forced

end StatementMapper.Direct
