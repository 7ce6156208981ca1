import StatementMapper.Mapping
import StatementMapper.Parameter
import StatementMapper.Scope

set_option autoImplicit false

namespace StatementMapper

structure Command where
  sql : String
  mappings : List Mapping
  values : List Value
  bindings : Table String Value
  parameter : Parameter

namespace Command

-- An absent parameter object gives null and a scalar itself, under any name.
def resolveIn? (parameter : Parameter) (property : String) : Option Value :=
  let (head, rest) := Value.splitPath property
  if head = Scope.parameterName then Parameter.follow? rest parameter.toValue
  else if parameter.isNone then some .null
  else if parameter.isScalar then some parameter.toValue
  else parameter.lookup? property

def resolve? (parameter : Parameter) (bindings : Table String Value) (property : String) : Option Value :=
  let (head, rest) := Value.splitPath property
  match Table.get? head bindings with
  | some bound => Parameter.follow? rest bound
  | none => resolveIn? parameter property

def valueOf (parameter : Parameter) (bindings : Table String Value) (mapping : Mapping) : Except Fault Value :=
  if mapping.mode.isInput then
    match resolve? parameter bindings mapping.property with
    | some value => .ok value
    | none => .error (.unboundProperty mapping.property)
  else .ok .null

def valuesOf (parameter : Parameter) (bindings : Table String Value) :
    List Mapping → Except Fault (List Value)
  | [] => .ok []
  | mapping :: rest => do
    let value ← valueOf parameter bindings mapping
    let more ← valuesOf parameter bindings rest
    .ok (value :: more)

def bind (sql : String) (mappings : List Mapping) (parameter : Parameter) (bindings : Table String Value) :
    Except Fault Command :=
  (valuesOf parameter bindings mappings).map fun values => ⟨sql, mappings, values, bindings, parameter⟩

def inputs (command : Command) : List (Mapping × Value) :=
  (command.mappings.zip command.values).filter fun pair => pair.1.mode.isInput

def hasBinding (command : Command) (property : String) : Bool :=
  Table.contains (Value.splitPath property).1 command.bindings

end Command

end StatementMapper
