import StatementMapper.Interception.Argument

set_option autoImplicit false

namespace StatementMapper

def Capability.View : Capability → Type
  | .executor => Bool
  | .statementHandler => Command
  | .parameterHandler => Parameter
  | .resultSetHandler => Unit

structure Component (S : Type) (capability : Capability) where
  view : S → capability.View
  call : (step : Step capability) → Arguments S step.parameters → Action S step.reply.Carrier

abbrev Executor (S : Type) := Component S .executor

abbrev StatementHandler (S : Type) := Component S .statementHandler

abbrev ParameterHandler (S : Type) := Component S .parameterHandler

abbrev ResultSetHandler (S : Type) := Component S .resultSetHandler

namespace Executor

variable {S : Type} (executor : Executor S)

def closed (state : S) : Bool := executor.view state

def update (statement : Statement) (parameter : Parameter) : Action S Nat :=
  executor.call .update (statement, parameter, ())

def query (statement : Statement) (parameter : Parameter) (bounds : Bounds) (handler : Option (RowHandler S)) :
    Action S Rows :=
  executor.call .query (statement, parameter, bounds, handler, ())

def queryBound (statement : Statement) (parameter : Parameter) (bounds : Bounds) (handler : Option (RowHandler S))
    (key : Cache.Key) (command : Command) : Action S Rows :=
  executor.call .queryBound (statement, parameter, bounds, handler, key, command, ())

def commit (required : Bool) : Action S Unit := executor.call .commit (required, ())

def rollback (required : Bool) : Action S Unit := executor.call .rollback (required, ())

def createKey (statement : Statement) (parameter : Parameter) (bounds : Bounds) (command : Command) :
    Action S Cache.Key :=
  executor.call .createKey (statement, parameter, bounds, command, ())

def isCached (statement : Statement) (key : Cache.Key) : Action S Bool :=
  executor.call .isCached (statement, key, ())

def clearLocal : Action S Unit := executor.call .clearLocal ()

def close (forced : Bool) : Action S Unit := executor.call .close (forced, ())

end Executor

namespace StatementHandler

variable {S : Type} (handler : StatementHandler S)

def command (state : S) : Command := handler.view state

def prepare : Action S Request := handler.call .prepare ()

def parameterize (request : Request) : Action S Request := handler.call .parameterize (request, ())

def update (request : Request) : Action S Nat := handler.call .runUpdate (request, ())

def query (request : Request) : Action S Rows := handler.call .runQuery (request, ())

end StatementHandler

namespace ParameterHandler

variable {S : Type} (handler : ParameterHandler S)

def parameter (state : S) : Parameter := handler.view state

def setParameters (request : Request) : Action S Request := handler.call .setParameters (request, ())

end ParameterHandler

def ResultSetHandler.handle {S : Type} (handler : ResultSetHandler S) (rows : Rows) : Action S Rows :=
  handler.call .handleRows (rows, ())

end StatementMapper
