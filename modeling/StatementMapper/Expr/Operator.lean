set_option autoImplicit false

namespace StatementMapper

inductive Operator where
  | add
  | subtract
  | multiply
  | divide
  | modulo
  | eq
  | notEq
  | lt
  | ltEq
  | gt
  | gtEq
  | and
  | or
deriving DecidableEq, Repr

namespace Operator

def name : Operator → String
  | add => "Add"
  | subtract => "Subtract"
  | multiply => "Multiply"
  | divide => "Divide"
  | modulo => "Modulo"
  | eq => "Eq"
  | notEq => "NotEq"
  | lt => "Lt"
  | ltEq => "LtEq"
  | gt => "Gt"
  | gtEq => "GtEq"
  | and => "And"
  | or => "Or"

def all : List Operator :=
  [add, subtract, multiply, divide, modulo, eq, notEq, lt, ltEq, gt, gtEq, and, or]

def ofName? (name : String) : Option Operator := all.find? fun operator => operator.name = name

def isArithmetic : Operator → Bool
  | add | subtract | multiply | divide | modulo => true
  | _ => false

def isComparison : Operator → Bool
  | eq | notEq | lt | ltEq | gt | gtEq => true
  | _ => false

def isLogical : Operator → Bool
  | and | or => true
  | _ => false

end Operator

inductive Method where
  | size
  | length
  | isEmpty
deriving DecidableEq, Repr

namespace Method

def name : Method → String
  | size => "Size"
  | length => "Length"
  | isEmpty => "IsEmpty"

def ofName? : String → Option Method
  | "size" => some size
  | "length" => some length
  | "isEmpty" => some isEmpty
  | "isempty" => some isEmpty
  | "is_empty" => some isEmpty
  | _ => none

end Method

end StatementMapper
