import StatementMapper.Interception.Plugin
import StatementMapper.Settings

set_option autoImplicit false

namespace StatementMapper

structure Configuration (S : Type) where
  settings : Settings := {}
  statements : Table String Statement := []
  chain : Chain S := Chain.empty

namespace Configuration

variable {S : Type}

def ofSettings (settings : Settings) : Except Fault (Configuration S) :=
  settings.validate.map fun _ => { settings }

def compileStatement (configuration : Configuration S) (id : String) (purpose : Statement.Purpose)
    (template : String) : Except Fault Statement :=
  match Source.compile configuration.settings.options template with
  | .ok source => .ok (.ofSource id purpose source)
  | .error (.template cause) => .error (.template (.inStatement id cause))
  | .error cause => .error cause

def addStatement (statement : Statement) (configuration : Configuration S) : Except Fault (Configuration S) :=
  if Table.contains statement.id configuration.statements then .error (.duplicateStatement statement.id)
  else .ok { configuration with statements := Table.put statement.id statement configuration.statements }

def statement (configuration : Configuration S) (id : String) : Except Fault Statement :=
  match Table.get? id configuration.statements with
  | some statement => .ok statement
  | none => .error (.statementNotFound id)

def hasStatement (configuration : Configuration S) (id : String) : Bool :=
  Table.contains id configuration.statements

def statementIds (configuration : Configuration S) : List String := Table.keys configuration.statements

def addInterceptor (interceptor : Interceptor S) (configuration : Configuration S) :
    Except Fault (Configuration S) :=
  (configuration.chain.add interceptor).map fun chain => { configuration with chain }

def addConfigured (make : Table String String → Except Fault (Interceptor S)) (properties : Table String String)
    (configuration : Configuration S) : Except Fault (Configuration S) :=
  (configuration.chain.addConfigured make properties).map fun chain => { configuration with chain }

def command (configuration : Configuration S) (statement : Statement) (parameter : Parameter) :
    Except Fault Command :=
  statement.source.command parameter configuration.settings.database

end Configuration

end StatementMapper
