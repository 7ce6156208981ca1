import StatementMapper.Value
import StatementMapper.Expr.Operator

set_option autoImplicit false

namespace StatementMapper

inductive Expr where
  | literal (value : Value)
  | property (path : String)
  | call (target : String) (method : Method)
  | binary (operator : Operator) (left right : Expr)
  | not (operand : Expr)
  | negate (operand : Expr)
  | isNull (operand : Expr) (negated : Bool)
  | isIn (needle : Expr) (candidates : List Expr) (negated : Bool)

end StatementMapper
