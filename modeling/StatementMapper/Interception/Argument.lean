import StatementMapper.Cache.Key
import StatementMapper.Database
import StatementMapper.Interception.Step

set_option autoImplicit false

namespace StatementMapper

variable {S : Type}

def ArgumentKind.Carrier (S : Type) : ArgumentKind → Type
  | .statement => Statement
  | .parameter => Parameter
  | .bounds => Bounds
  | .rowHandler => Option (RowHandler S)
  | .key => Cache.Key
  | .command => Command
  | .flag => Bool
  | .request => Request
  | .rows => Rows

def ReplyKind.Carrier : ReplyKind → Type
  | .count => Nat
  | .rows => Rows
  | .key => Cache.Key
  | .flag => Bool
  | .request => Request
  | .unit => Unit

def Arguments (S : Type) : List ArgumentKind → Type
  | [] => Unit
  | kind :: rest => kind.Carrier S × Arguments S rest

structure Argument (S : Type) where
  kind : ArgumentKind
  content : kind.Carrier S

structure Reply where
  kind : ReplyKind
  content : kind.Carrier

namespace Argument

def as? (kind : ArgumentKind) (argument : Argument S) : Option (kind.Carrier S) :=
  if same : argument.kind = kind then some (same ▸ argument.content) else none

theorem as_self (kind : ArgumentKind) (content : kind.Carrier S) : as? kind ⟨kind, content⟩ = some content := by
  simp [as?]

end Argument

namespace Reply

def as? (kind : ReplyKind) (reply : Reply) : Option kind.Carrier :=
  if same : reply.kind = kind then some (same ▸ reply.content) else none

theorem as_self (kind : ReplyKind) (content : kind.Carrier) : as? kind ⟨kind, content⟩ = some content := by
  simp [as?]

end Reply

-- Arguments that are read one by one for a step: those left, and how many have been read.
structure Reading (S : Type) where
  rest : List (Argument S)
  position : Nat := 0

variable {capability : Capability}

namespace Reading

-- The next argument, which must be of a kind. One of another kind is used up but does not count as read.
def next (step : Step capability) (kind : ArgumentKind) : Action (Reading S) (kind.Carrier S) := fun reading =>
  let expected := step.parameterNames.length
  match reading.rest with
  | [] => (.error (.plugin (.tooFewArguments step.display expected reading.position)), reading)
  | argument :: rest =>
    match argument.as? kind with
    | some content => (.ok content, ⟨rest, reading.position + 1⟩)
    | none =>
      let name := (step.parameterNames[reading.position]?).getD "?"
      (.error (.plugin (.wrongArgument reading.position step.display name argument.kind.name)),
        ⟨rest, reading.position⟩)

def finish (step : Step capability) : Action (Reading S) Unit := fun reading =>
  match reading.rest with
  | [] => (.ok (), reading)
  | _ :: _ => (.error (.plugin (.tooManyArguments step.display step.parameterNames.length)), reading)

def all : (step : Step capability) → Action (Reading S) (Arguments S step.parameters)
  | .update => do
    let statement ← next Step.update .statement
    let parameter ← next Step.update .parameter
    finish Step.update
    pure (statement, parameter, ())
  | .query => do
    let statement ← next Step.query .statement
    let parameter ← next Step.query .parameter
    let bounds ← next Step.query .bounds
    let receiver ← next Step.query .rowHandler
    finish Step.query
    pure (statement, parameter, bounds, receiver, ())
  | .queryBound => do
    let statement ← next Step.queryBound .statement
    let parameter ← next Step.queryBound .parameter
    let bounds ← next Step.queryBound .bounds
    let receiver ← next Step.queryBound .rowHandler
    let key ← next Step.queryBound .key
    let command ← next Step.queryBound .command
    finish Step.queryBound
    pure (statement, parameter, bounds, receiver, key, command, ())
  | .commit => do
    let required ← next Step.commit .flag
    finish Step.commit
    pure (required, ())
  | .rollback => do
    let required ← next Step.rollback .flag
    finish Step.rollback
    pure (required, ())
  | .createKey => do
    let statement ← next Step.createKey .statement
    let parameter ← next Step.createKey .parameter
    let bounds ← next Step.createKey .bounds
    let command ← next Step.createKey .command
    finish Step.createKey
    pure (statement, parameter, bounds, command, ())
  | .isCached => do
    let statement ← next Step.isCached .statement
    let key ← next Step.isCached .key
    finish Step.isCached
    pure (statement, key, ())
  | .clearLocal => do
    finish Step.clearLocal
    pure ()
  | .close => do
    let forced ← next Step.close .flag
    finish Step.close
    pure (forced, ())
  | .prepare => do
    finish Step.prepare
    pure ()
  | .parameterize => do
    let request ← next Step.parameterize .request
    finish Step.parameterize
    pure (request, ())
  | .runUpdate => do
    let request ← next Step.runUpdate .request
    finish Step.runUpdate
    pure (request, ())
  | .runQuery => do
    let request ← next Step.runQuery .request
    finish Step.runQuery
    pure (request, ())
  | .setParameters => do
    let request ← next Step.setParameters .request
    finish Step.setParameters
    pure (request, ())
  | .handleRows => do
    let rows ← next Step.handleRows .rows
    finish Step.handleRows
    pure (rows, ())

end Reading

namespace Arguments

def tag : (step : Step capability) → Arguments S step.parameters → List (Argument S)
  | .update, (statement, parameter, ()) => [⟨.statement, statement⟩, ⟨.parameter, parameter⟩]
  | .query, (statement, parameter, bounds, receiver, ()) =>
    [⟨.statement, statement⟩, ⟨.parameter, parameter⟩, ⟨.bounds, bounds⟩, ⟨.rowHandler, receiver⟩]
  | .queryBound, (statement, parameter, bounds, receiver, key, command, ()) =>
    [⟨.statement, statement⟩, ⟨.parameter, parameter⟩, ⟨.bounds, bounds⟩, ⟨.rowHandler, receiver⟩, ⟨.key, key⟩,
      ⟨.command, command⟩]
  | .commit, (required, ()) => [⟨.flag, required⟩]
  | .rollback, (required, ()) => [⟨.flag, required⟩]
  | .createKey, (statement, parameter, bounds, command, ()) =>
    [⟨.statement, statement⟩, ⟨.parameter, parameter⟩, ⟨.bounds, bounds⟩, ⟨.command, command⟩]
  | .isCached, (statement, key, ()) => [⟨.statement, statement⟩, ⟨.key, key⟩]
  | .clearLocal, () => []
  | .close, (forced, ()) => [⟨.flag, forced⟩]
  | .prepare, () => []
  | .parameterize, (request, ()) => [⟨.request, request⟩]
  | .runUpdate, (request, ()) => [⟨.request, request⟩]
  | .runQuery, (request, ()) => [⟨.request, request⟩]
  | .setParameters, (request, ()) => [⟨.request, request⟩]
  | .handleRows, (rows, ()) => [⟨.rows, rows⟩]

def read (step : Step capability) (given : List (Argument S)) : Except Fault (Arguments S step.parameters) :=
  ((Reading.all step).run ⟨given, 0⟩).1

theorem read_tag (step : Step capability) (arguments : Arguments S step.parameters) :
    read step (tag step arguments) = .ok arguments := by
  cases step <;> rfl

end Arguments

end StatementMapper
