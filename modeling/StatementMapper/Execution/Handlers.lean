import StatementMapper.Configuration

set_option autoImplicit false

namespace StatementMapper

variable {S : Type}

namespace ParameterHandler

def ofCommand (command : Command) : ParameterHandler S where
  view _ := command.parameter
  call
    | .setParameters, (request, ()) => pure { request with slots := Slot.ofCommand command }

end ParameterHandler

namespace ResultSetHandler

def deliver (bounds : Bounds) (handler : Option (RowHandler S)) (rows : Rows) : Action S Rows :=
  let windowed := rows.window bounds
  match handler with
  | none => pure windowed
  | some receiver => do
    receiver.feed windowed.columns 1 windowed.rows
    pure ⟨windowed.columns, []⟩

def ofBounds (bounds : Bounds) (handler : Option (RowHandler S)) : ResultSetHandler S where
  view _ := ()
  call
    | .handleRows, (rows, ()) => deliver bounds handler rows

end ResultSetHandler

namespace StatementHandler

def request (settings : Settings) (statement : Statement) (command : Command) : Request where
  statement := statement.id
  sql := command.sql
  form := statement.form
  slots := []
  timeout := statement.timeout.or settings.timeoutMillis
  fetchSize := statement.fetchSize.or settings.fetchSize
  keys := statement.keys

def ofStatement (settings : Settings) (database : Database S) (parameters : ParameterHandler S)
    (results : ResultSetHandler S) (statement : Statement) (command : Command) : StatementHandler S where
  view _ := command
  call
    | .prepare, () => pure (request settings statement command)
    | .parameterize, (request, ()) => parameters.setParameters request
    | .runUpdate, (request, ()) => database.execute request
    | .runQuery, (request, ()) => do
      let rows ← database.query request
      results.handle rows

end StatementHandler

namespace Configuration

def statementHandler (configuration : Configuration S) (database : Database S) (statement : Statement)
    (bounds : Bounds) (handler : Option (RowHandler S)) (command : Command) : StatementHandler S :=
  let parameters := configuration.chain.wrap (ParameterHandler.ofCommand command)
  let results := configuration.chain.wrap (ResultSetHandler.ofBounds bounds handler)
  configuration.chain.wrap
    (StatementHandler.ofStatement configuration.settings database parameters results statement command)

end Configuration

end StatementMapper
