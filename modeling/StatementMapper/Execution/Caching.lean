import StatementMapper.Execution.Direct

set_option autoImplicit false

/-! What the executor stores and clears stays in the buffers of the session until the transaction is committed. -/

namespace StatementMapper.Caching

open Cache

variable {T W : Type} [Store T]

def regionOf (statement : Statement) : Action (Stage T W) (Option String) :=
  match statement.region with
  | none => pure none
  | some space => do
    let known ← Action.look fun stage => Table.contains space stage.shared.regions
    if known then pure (some space) else Action.fail (.cache (.noRegion space statement.id))

-- Refuses to keep the rows of a call that has outputs, since they would be lost.
def refuseOutputs (statement : Statement) (command : Command) : Action (Stage T W) Unit :=
  if statement.form = .callable ∧ command.mappings.any (fun mapping => mapping.mode ≠ .input) then
    Action.fail (.cache (.outParameters statement.id))
  else pure ()

def flush (statement : Statement) (region : String) : Action (Stage T W) Unit :=
  if statement.flushing then Stage.inStaging (Staging.clear region) else pure ()

variable (configuration : Configuration (Stage T W)) (inner : Executor (Stage T W))

-- A write to a region: the buffer is cleared before it and goes back to what it was if it fails.
def updateIn (region : String) (statement : Statement) (parameter : Parameter) : Action (Stage T W) Nat := do
  let checkpoint ← Action.look fun stage => stage.staging.checkpoint region
  flush statement region
  let outcome ← Action.attempt (inner.update statement parameter)
  match outcome with
  | .ok count => pure count
  | .error cause => do
    Action.change fun stage => stage.setStaging (stage.staging.restore region checkpoint)
    Action.fail cause

def update (statement : Statement) (parameter : Parameter) : Action (Stage T W) Nat := do
  let region ← regionOf statement
  match region with
  | some region => updateIn inner region statement parameter
  | none => inner.update statement parameter

def consult (region : String) (statement : Statement) (parameter : Parameter) (bounds : Bounds) (key : Key)
    (command : Command) : Action (Stage T W) Rows := do
  refuseOutputs statement command
  let known ← Stage.inStaging (Staging.get region key)
  match known with
  | some rows => pure rows
  | none => do
    let rows ← inner.queryBound statement parameter bounds none key command
    Stage.inStaging (Staging.put region key rows)
    pure rows

def queryBound (statement : Statement) (parameter : Parameter) (bounds : Bounds)
    (receiver : Option (RowHandler (Stage T W))) (key : Key) (command : Command) : Action (Stage T W) Rows := do
  let region ← regionOf statement
  match region with
  | none => inner.queryBound statement parameter bounds receiver key command
  | some region => do
    flush statement region
    if statement.cached && receiver.isNone then consult inner region statement parameter bounds key command
    else inner.queryBound statement parameter bounds receiver key command

def query (statement : Statement) (parameter : Parameter) (bounds : Bounds)
    (receiver : Option (RowHandler (Stage T W))) : Action (Stage T W) Rows := do
  let command ← Action.ofExcept (configuration.command statement parameter)
  let key ← inner.createKey statement parameter bounds command
  queryBound inner statement parameter bounds receiver key command

-- Commits the data first: what has been kept back becomes visible only if that succeeds.
def commit (required : Bool) : Action (Stage T W) Unit := do
  inner.commit required
  Stage.inStaging Staging.commit

def rollback (required : Bool) : Action (Stage T W) Unit := do
  let outcome ← Action.attempt (inner.rollback required)
  if required then Stage.inStaging Staging.rollback else pure ()
  Action.ofExcept outcome

def settle (forced : Bool) : Action (Stage T W) Unit :=
  if forced then Stage.inStaging Staging.rollback else Stage.inStaging Staging.commit

def close (forced : Bool) : Action (Stage T W) Unit := do
  let settled ← Action.attempt (settle forced)
  let closed ← Action.attempt (inner.close forced)
  Action.ofExcept (settled.bind fun _ => closed)

def executor : Executor (Stage T W) where
  view := inner.view
  call
    | .update, (statement, parameter, ()) => update inner statement parameter
    | .query, (statement, parameter, bounds, receiver, ()) =>
      query configuration inner statement parameter bounds receiver
    | .queryBound, (statement, parameter, bounds, receiver, key, command, ()) =>
      queryBound inner statement parameter bounds receiver key command
    | .commit, (required, ()) => commit inner required
    | .rollback, (required, ()) => rollback inner required
    | .createKey, (statement, parameter, bounds, command, ()) =>
      inner.createKey statement parameter bounds command
    | .isCached, (statement, key, ()) => inner.isCached statement key
    | .clearLocal, () => inner.clearLocal
    | .close, (forced, ()) => close inner forced

end StatementMapper.Caching
