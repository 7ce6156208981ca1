import StatementMapper.Fault
import StatementMapper.Template.Construction

set_option autoImplicit false

namespace StatementMapper

-- How long rows stay in the tier of a session: until a write or the end of a transaction, or for one statement.
inductive LocalScope where
  | session
  | statement
deriving DecidableEq, Repr

structure Settings where
  environment : String := "default"
  database : Option String := none
  sharing : Bool := true
  localScope : LocalScope := .session
  -- For statements without their own, in seconds.
  timeout : Option Nat := none
  fetchSize : Option Nat := none
  squeeze : Bool := false
  nullable : Bool := false
deriving DecidableEq, Repr

namespace Settings

def isBlank (text : String) : Bool := Text.allBlank text.toList

-- The settings, unless one of them has no meaning; of several faults the first counts.
def validate (settings : Settings) : Except Fault Unit :=
  if isBlank settings.environment then .error (.settings .emptyEnvironment)
  else if settings.database.any isBlank then .error (.settings .emptyDatabase)
  else if settings.timeout = some 0 then .error (.settings .zeroTimeout)
  else if settings.fetchSize = some 0 then .error (.settings .zeroFetchSize)
  else .ok ()

def options (settings : Settings) : Template.Options := ⟨settings.squeeze, settings.nullable⟩

def timeoutMillis (settings : Settings) : Option Nat := settings.timeout.map (· * 1000)

end Settings

end StatementMapper
