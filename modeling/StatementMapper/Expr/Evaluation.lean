import StatementMapper.Expr.Reader
import StatementMapper.Scope
import StatementMapper.Value.Order
import StatementMapper.Value.Arithmetic

set_option autoImplicit false

/-! Names that lead nowhere read as null; `and` and `or` evaluate their right side only when the left does not decide. -/

namespace StatementMapper

namespace Expr

def callMethod (target : String) (method : Method) (value : Value) : Except EvaluationFault Value :=
  match value.size? with
  | none => .error (.noMethod method target value.kind)
  | some size =>
    match method with
    | .size | .length => .ok (.integer (Int64.ofNat size))
    | .isEmpty => .ok (.boolean (size == 0))

def decided? (operator : Operator) (left : Bool) : Option Bool :=
  match operator, left with
  | .and, false => some false
  | .or, true => some true
  | _, _ => none

-- What a membership test searches: the elements of a single list, else the candidates themselves.
def searched : List Value → List Value
  | [.list items] => items
  | candidates => candidates

def isMember (needle : Value) (candidates : List Value) : Bool :=
  (searched candidates).any fun candidate => candidate.looselyEquals needle

mutual
def evaluate (scope : Scope) : Expr → Except EvaluationFault Value
  | literal value => .ok value
  | property path => .ok ((scope.resolve? path).getD .null)
  | call target method => callMethod target method ((scope.resolve? target).getD .null)
  | binary operator left right => do
    let a ← evaluate scope left
    if operator.isLogical then
      match decided? operator a.truth with
      | some b => .ok (.boolean b)
      | none => do
        let b ← evaluate scope right
        .ok (.boolean b.truth)
    else
      let b ← evaluate scope right
      if operator.isComparison then (Value.comparison operator a b).map Value.boolean
      else Value.arithmetic operator a b
  | not operand => do
    let value ← evaluate scope operand
    .ok (.boolean !value.truth)
  | negate operand => do
    let value ← evaluate scope operand
    value.negate
  | isNull operand negated => do
    let value ← evaluate scope operand
    .ok (.boolean (value.isNull != negated))
  | isIn needle candidates negated => do
    let subject ← evaluate scope needle
    let values ← evaluateAll scope candidates
    .ok (.boolean (isMember subject values != negated))
def evaluateAll (scope : Scope) : List Expr → Except EvaluationFault (List Value)
  | [] => .ok []
  | expr :: rest => do
    let value ← evaluate scope expr
    let more ← evaluateAll scope rest
    .ok (value :: more)
end

def evaluateBare (scope : Scope) : Expr → Except EvaluationFault Value
  | literal value => .ok value
  | property path => .ok ((scope.resolve? path).getD .null)
  | call target method => callMethod target method ((scope.resolve? target).getD .null)
  | _ => .error .noEvaluator

end Expr

structure Expression where
  source : String
  root : Expr

namespace Expression

def parse (source : String) : Except TemplateFault Expression :=
  (Expr.parse source).map fun root => ⟨source, root⟩

def evaluate (scope : Scope) (expression : Expression) : Except EvaluationFault Value :=
  (expression.root.evaluate scope).mapError (.inExpression expression.source)

def holds (scope : Scope) (expression : Expression) : Except EvaluationFault Bool :=
  (expression.evaluate scope).map Value.truth

end Expression

end StatementMapper
