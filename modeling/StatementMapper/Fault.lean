import StatementMapper.Value.Kind
import StatementMapper.Expr.Operator

set_option autoImplicit false

namespace StatementMapper

inductive TemplateFault where
  | emptyExpression (source : String)
  | malformedExpression (source : String)
  | unknownMethod (source name : String)
  | methodArguments (source name : String)
  | unterminatedCData
  | unterminatedComment
  | unexpectedClosing (name : String)
  | mismatchedClosing (expected found : String)
  | unclosedElement (name : String)
  | duplicateAttribute (name : String)
  | malformedTag (near : String)
  | unknownElement (name : String)
  | unknownBranch (name : String)
  | severalDefaults
  | missingAttribute (element key : String)
  | nullableFlag (text : String)
  | namelessMapping (content : String)
  | optionWithoutValue (content option : String)
  | unknownMode (mode : String)
  | numericScale (content : String)
  | unknownOption (name content : String)
  | inStatement (id : String) (cause : TemplateFault)
deriving DecidableEq, Repr

namespace TemplateFault

def validOptions : String := "javaType, jdbcType, jdbcTypeName, mode, numericScale, resultMap, typeHandler"

def message : TemplateFault → String
  | emptyExpression source => s!"Empty expression '{source}'"
  | malformedExpression source => s!"Malformed expression '{source}'"
  | unknownMethod source name => s!"Malformed expression '{source}': Unknown method '{name}'"
  | methodArguments source name => s!"Malformed expression '{source}': Method '{name}' does not take arguments"
  | unterminatedCData => "Unterminated CDATA section"
  | unterminatedComment => "Unterminated comment"
  | unexpectedClosing name => s!"Unexpected closing tag </{name}>"
  | mismatchedClosing expected found => s!"Mismatched closing tag: expected </{expected}>, found </{found}>"
  | unclosedElement name => s!"Element <{name}> is not closed"
  | duplicateAttribute name => s!"Duplicate attribute '{name}'"
  | malformedTag near => s!"Malformed tag near '{near}'"
  | unknownElement name => s!"Unknown element <{name}> in SQL statement."
  | unknownBranch name => s!"Unknown element <{name}> in <choose>."
  | severalDefaults => "Too many default (otherwise) elements in choose statement."
  | missingAttribute element key => s!"<{element}> requires attribute '{key}'"
  | nullableFlag text => s!"<foreach> attribute nullable must be true or false, found '{text}'"
  | namelessMapping content => s!"Parameter mapping '#\x7b{content}\x7d' names no property"
  | optionWithoutValue content option =>
    s!"Parsing error in #\x7b{content}\x7d: expected name=value, found '{option}'"
  | unknownMode mode => s!"Unknown parameter mode '{mode}'"
  | numericScale content => s!"numericScale must be a non-negative integer in #\x7b{content}\x7d"
  | unknownOption name content =>
    s!"An invalid property '{name}' was found in mapping #\x7b{content}\x7d. Valid properties are {validOptions}"
  | inStatement id cause =>
    let text := cause.message
    s!"Error compiling statement {id}: {text}"

end TemplateFault

inductive EvaluationFault where
  | notANumber (text : String) (other : Kind)
  | incomparable (left right : Kind)
  | overflow (operator : Operator)
  | negationOverflow
  | divisionByZero
  | notApplicable (operator : Operator) (left right : Kind)
  | notNegatable (kind : Kind)
  | noMethod (method : Method) (target : String) (kind : Kind)
  | noEvaluator
  | nullCollection (source : String)
  | notIterable (source : String) (kind : Kind)
  | inExpression (source : String) (cause : EvaluationFault)
deriving DecidableEq, Repr

namespace EvaluationFault

def message : EvaluationFault → String
  | notANumber text other =>
    let kind := other.name
    s!"Cannot compare TEXT '{text}' with {kind}"
  | incomparable left right =>
    let leftKind := left.name
    let rightKind := right.name
    s!"Cannot compare incompatible types: {leftKind} and {rightKind}"
  | overflow operator =>
    let name := operator.name
    s!"Integer overflow in {name}"
  | negationOverflow => "Integer overflow in negation"
  | divisionByZero => "Division by zero"
  | notApplicable operator left right =>
    let name := operator.name
    let leftKind := left.name
    let rightKind := right.name
    s!"Cannot apply {name} to {leftKind} and {rightKind}"
  | notNegatable kind =>
    let name := kind.name
    s!"Cannot negate {name}"
  | noMethod method target kind =>
    let name := method.name
    let type := kind.name
    s!"Cannot call {name} on '{target}' of type {type}"
  | noEvaluator => "No evaluator found for expression"
  | nullCollection source => s!"The expression '{source}' evaluated to a null value."
  | notIterable source kind =>
    let type := kind.name
    s!"The expression '{source}' returned a {type} which is not iterable."
  | inExpression source cause =>
    let text := cause.message
    s!"Error evaluating expression '{source}': {text}"

end EvaluationFault

inductive CacheFault where
  | emptyLru
  | noRegion (space statement : String)
  | outParameters (statement : String)
deriving DecidableEq, Repr

def CacheFault.message : CacheFault → String
  | emptyLru => "LRU cache size must be greater than zero"
  | noRegion space statement => s!"No cache region for namespace '{space}' referenced by {statement}"
  | outParameters statement =>
    "Caching stored procedures with OUT params is not supported.  " ++
      s!"Please configure useCache=false in {statement} statement."

inductive ExecutionFault where
  | alreadyClosed
  | reported (text : String)
deriving DecidableEq, Repr

def ExecutionFault.message : ExecutionFault → String
  | alreadyClosed => "Cannot commit, transaction already closed"
  | reported text => text

inductive PluginFault where
  | unknownCapability (name : String)
  | noMethod (capability method interceptor signature : String)
  | tooFewArguments (method : String) (expected given : Nat)
  | wrongArgument (position : Nat) (method expected given : String)
  | tooManyArguments (method : String) (expected : Nat)
  | wrongReply (interceptor given method : String)
  | reported (text : String)
deriving DecidableEq, Repr

def PluginFault.message : PluginFault → String
  | unknownCapability name => s!"Unknown interceptable type '{name}'"
  | noMethod capability method interceptor signature =>
    s!"Could not find method on {capability} named {method} for interceptor {interceptor}. " ++
      s!"Cause: no method {signature}"
  | tooFewArguments method expected given => s!"{method} expects {expected} arguments, got {given}"
  | wrongArgument position method expected given =>
    s!"Argument {position} of {method} must be {expected}, got {given}"
  | tooManyArguments method expected => s!"{method} expects {expected} arguments, got more"
  | wrongReply interceptor given method => s!"Interceptor {interceptor} returned {given} from {method}"
  | reported text => text

inductive SettingsFault where
  | unreadable
  | emptyEnvironment
  | emptyDatabase
  | zeroTimeout
  | zeroFetchSize
  | regionExists (id : String)
deriving DecidableEq, Repr

def SettingsFault.message : SettingsFault → String
  | unreadable => "Invalid settings"
  | emptyEnvironment => "environment_id must not be empty"
  | emptyDatabase => "database_id must not be empty when set"
  | zeroTimeout => "default_statement_timeout must be greater than 0"
  | zeroFetchSize => "default_fetch_size must be greater than 0"
  | regionExists id => s!"Cache region '{id}' already registered"

inductive Fault where
  | template (cause : TemplateFault)
  | evaluation (cause : EvaluationFault)
  | unboundProperty (property : String)
  | cache (cause : CacheFault)
  | execution (cause : ExecutionFault)
  | plugin (cause : PluginFault)
  | settings (cause : SettingsFault)
  | statementNotFound (id : String)
  | duplicateStatement (id : String)
  | tooManyResults (found : Nat)
  | executorClosed
deriving DecidableEq, Repr

def Fault.message : Fault → String
  | template cause => "Template error: " ++ cause.message
  | evaluation cause => "Evaluation error: " ++ cause.message
  | unboundProperty property =>
    s!"Binding error: There is no property named '{property}' in the parameter object"
  | cache cause => "Cache configuration error: " ++ cause.message
  | execution cause => "Execution error: " ++ cause.message
  | plugin cause => "Plugin configuration error: " ++ cause.message
  | settings cause => "Configuration error: " ++ cause.message
  | statementNotFound id => s!"Mapped statement '{id}' not found"
  | duplicateStatement id => s!"Mapped statement '{id}' already registered"
  | tooManyResults found => s!"Expected one result (or null) to be returned, but found: {found}"
  | executorClosed => "Executor was closed"

end StatementMapper
