import StatementMapper.Interception.Component
import StatementMapper.Rehearsal.Recording
import StatementMapper.Rehearsal.Script

set_option autoImplicit false

namespace StatementMapper.Rehearsal

def marking (parameter : Parameter) (mark : String) : ParameterHandler Recording where
  view _ := parameter
  call
    | .setParameters, (request, ()) => pure (extend mark request)

def passing : ResultSetHandler Recording where
  view _ := ()
  call
    | .handleRows, (rows, ()) => do
      (Recording.receiver id none).feed rows.columns 1 rows.rows
      pure rows

end StatementMapper.Rehearsal
