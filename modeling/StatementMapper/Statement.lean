import StatementMapper.Source

set_option autoImplicit false

namespace StatementMapper

namespace Statement

inductive Purpose where
  | select
  | insert
  | update
  | delete
deriving DecidableEq, Repr

def Purpose.name : Purpose → String
  | select => "SELECT"
  | insert => "INSERT"
  | update => "UPDATE"
  | delete => "DELETE"

def Purpose.ofName? (name : String) : Option Purpose :=
  [Purpose.select, Purpose.insert, Purpose.update, Purpose.delete].find? fun purpose => purpose.name = name

inductive Form where
  | simple
  | prepared
  | callable
deriving DecidableEq, Repr

def Form.name : Form → String
  | simple => "Statement"
  | prepared => "Prepared"
  | callable => "Callable"

def Form.ofName? (name : String) : Option Form :=
  [Form.simple, Form.prepared, Form.callable].find? fun form => form.name = name

structure Keys where
  properties : List String
  columns : List String
deriving DecidableEq, Repr

end Statement

open Statement

structure Statement where
  id : String
  purpose : Purpose
  form : Form
  source : Source
  region : Option String
  cached : Bool
  flushing : Bool
  ordered : Bool
  keys : Option Keys
  -- In milliseconds.
  timeout : Option Nat
  fetchSize : Option Nat

namespace Statement

-- A statement as its purpose implies: selects are cached, all others flush.
def ofSource (id : String) (purpose : Purpose) (source : Source) : Statement where
  id := id
  purpose := purpose
  form := .prepared
  source := source
  region := none
  cached := purpose = .select
  flushing := purpose ≠ .select
  ordered := false
  keys := none
  timeout := none
  fetchSize := none

def spaceOf (id : List Char) : List Char :=
  match Text.splitFirst '.' id.reverse with
  | (_, some front) => front.reverse
  | (_, none) => []

def space (statement : Statement) : String := String.ofList (spaceOf statement.id.toList)

end Statement

end StatementMapper
