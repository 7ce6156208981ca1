import StatementMapper.Fault

set_option autoImplicit false

/-! The steps of a run that interceptors may declare. Accessors are not listed; they are never intercepted. -/

namespace StatementMapper

inductive Capability where
  | executor
  | statementHandler
  | parameterHandler
  | resultSetHandler
deriving DecidableEq, Repr

namespace Capability

def all : List Capability := [executor, statementHandler, parameterHandler, resultSetHandler]

def name : Capability → String
  | executor => "Executor"
  | statementHandler => "StatementHandler"
  | parameterHandler => "ParameterHandler"
  | resultSetHandler => "ResultSetHandler"

def ofName? (name : String) : Option Capability := all.find? fun capability => capability.name = name

def parse (name : String) : Except Fault Capability :=
  match ofName? name with
  | some capability => .ok capability
  | none => .error (.plugin (.unknownCapability name))

end Capability

inductive ArgumentKind where
  | statement
  | parameter
  | bounds
  | rowHandler
  | key
  | command
  | flag
  | request
  | rows
deriving DecidableEq, Repr

def ArgumentKind.name : ArgumentKind → String
  | statement => "MappedStatement"
  | parameter => "Parameter"
  | bounds => "RowBounds"
  | rowHandler => "ResultHandler"
  | key => "CacheKey"
  | command => "BoundCommand"
  | flag => "bool"
  | request => "DriverRequest"
  | rows => "QueryResult"

def ArgumentKind.all : List ArgumentKind :=
  [statement, parameter, bounds, rowHandler, key, command, flag, request, rows]

def ArgumentKind.ofName? (name : String) : Option ArgumentKind := all.find? fun kind => kind.name = name

inductive ReplyKind where
  | count
  | rows
  | key
  | flag
  | request
  | unit
deriving DecidableEq, Repr

def ReplyKind.name : ReplyKind → String
  | count => "u64"
  | rows => "QueryResult"
  | key => "CacheKey"
  | flag => "bool"
  | request => "DriverRequest"
  | unit => "()"

inductive Step : Capability → Type where
  | update : Step .executor
  | query : Step .executor
  | queryBound : Step .executor
  | commit : Step .executor
  | rollback : Step .executor
  | createKey : Step .executor
  | isCached : Step .executor
  | clearLocal : Step .executor
  | close : Step .executor
  | prepare : Step .statementHandler
  | parameterize : Step .statementHandler
  | runUpdate : Step .statementHandler
  | runQuery : Step .statementHandler
  | setParameters : Step .parameterHandler
  | handleRows : Step .resultSetHandler
deriving DecidableEq, Repr

namespace Step

def all : (capability : Capability) → List (Step capability)
  | .executor => [update, query, queryBound, commit, rollback, createKey, isCached, clearLocal, close]
  | .statementHandler => [prepare, parameterize, runUpdate, runQuery]
  | .parameterHandler => [setParameters]
  | .resultSetHandler => [handleRows]

variable {capability : Capability}

-- The name in declarations; steps with one name differ in their parameters.
def name : Step capability → String
  | update => "update"
  | query => "query"
  | queryBound => "query"
  | commit => "commit"
  | rollback => "rollback"
  | createKey => "create_cache_key"
  | isCached => "is_cached"
  | clearLocal => "clear_local_cache"
  | close => "close"
  | prepare => "prepare"
  | parameterize => "parameterize"
  | runUpdate => "update"
  | runQuery => "query"
  | setParameters => "set_parameters"
  | handleRows => "handle_result_set"

-- The parameters of a step in declarations and messages.
def parameterNames : Step capability → List String
  | update => ["MappedStatement", "Parameter"]
  | query => ["MappedStatement", "Parameter", "RowBounds", "ResultHandler"]
  | queryBound => ["MappedStatement", "Parameter", "RowBounds", "ResultHandler", "CacheKey", "BoundCommand"]
  | commit => ["bool"]
  | rollback => ["bool"]
  | createKey => ["MappedStatement", "Parameter", "RowBounds", "BoundCommand"]
  | isCached => ["MappedStatement", "CacheKey"]
  | clearLocal => []
  | close => ["bool"]
  | prepare => []
  | parameterize => ["DriverRequest"]
  | runUpdate => ["DriverRequest"]
  | runQuery => ["DriverRequest"]
  | setParameters => ["DriverRequest"]
  | handleRows => ["QueryResult"]

-- What a component takes to carry out a step.
def parameters : Step capability → List ArgumentKind
  | update => [.statement, .parameter]
  | query => [.statement, .parameter, .bounds, .rowHandler]
  | queryBound => [.statement, .parameter, .bounds, .rowHandler, .key, .command]
  | commit => [.flag]
  | rollback => [.flag]
  | createKey => [.statement, .parameter, .bounds, .command]
  | isCached => [.statement, .key]
  | clearLocal => []
  | close => [.flag]
  | prepare => []
  | parameterize => [.request]
  | runUpdate => [.request]
  | runQuery => [.request]
  | setParameters => [.request]
  | handleRows => [.rows]

def reply : Step capability → ReplyKind
  | update => .count
  | query => .rows
  | queryBound => .rows
  | commit => .unit
  | rollback => .unit
  | createKey => .key
  | isCached => .flag
  | clearLocal => .unit
  | close => .unit
  | prepare => .request
  | parameterize => .request
  | runUpdate => .count
  | runQuery => .rows
  | setParameters => .request
  | handleRows => .rows

end Step

def describeStep (capability : Capability) (name : String) (parameters : List String) : String :=
  capability.name ++ "." ++ name ++ "(" ++ String.intercalate ", " parameters ++ ")"

def Step.display {capability : Capability} (step : Step capability) : String :=
  describeStep capability step.name step.parameterNames

end StatementMapper
