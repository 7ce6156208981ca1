import StatementMapper.Statement

set_option autoImplicit false

namespace StatementMapper

structure Slot where
  index : Nat
  -- What is sent; an output takes nothing.
  value : Option Value
  mode : Mode
  jdbcType : Option String
  numericScale : Option Nat
deriving DecidableEq

structure Request where
  statement : String
  sql : String
  form : Statement.Form
  slots : List Slot
  -- In milliseconds.
  timeout : Option Nat
  fetchSize : Option Nat
  keys : Option Statement.Keys
deriving DecidableEq

namespace Slot

def ofMapping (index : Nat) (mapping : Mapping) (value : Value) : Slot where
  index := index
  value := if mapping.mode.isInput then some value else none
  mode := mapping.mode
  jdbcType := mapping.jdbcType
  numericScale := mapping.numericScale

def number (index : Nat) : List (Mapping × Value) → List Slot
  | [] => []
  | (mapping, value) :: rest => ofMapping index mapping value :: number (index + 1) rest

def ofCommand (command : Command) : List Slot := number 1 (command.mappings.zip command.values)

def describe (slot : Slot) : String :=
  match slot.value with
  | some value => if value.isNull then "null" else value.display ++ "(" ++ value.kind.name ++ ")"
  | none => "<" ++ slot.mode.name ++ ">"

end Slot

namespace Request

def inputs (request : Request) : List Value := request.slots.filterMap Slot.value

def describe (slots : List Slot) : String := String.intercalate ", " (slots.map Slot.describe)

end Request

end StatementMapper
