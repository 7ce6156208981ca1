import StatementMapper.Value
import StatementMapper.Fault

set_option autoImplicit false

/-! Integers are exact or fail; with one float the operation is one of floats; `+` joins texts if one side is a text. -/

namespace StatementMapper.Value

def exact (fault : EvaluationFault) (n : Int) : Except EvaluationFault Value :=
  if Word.fits n then .ok (integer (Int64.ofInt n)) else .error fault

def negate : Value → Except EvaluationFault Value
  | integer n => exact .negationOverflow (-n.toInt)
  | float x => .ok (float (-x))
  | other => .error (.notNegatable other.kind)

-- The remainder of the least integer by minus one counts as overflow, as its quotient does.
def applyIntegers (operator : Operator) (a b : Int) : Except EvaluationFault Value :=
  let fault := EvaluationFault.overflow operator
  match operator with
  | .add => exact fault (a + b)
  | .subtract => exact fault (a - b)
  | .multiply => exact fault (a * b)
  | .divide => if b = 0 then .error .divisionByZero else exact fault (a.tdiv b)
  | .modulo =>
    if b = 0 then .error .divisionByZero
    else if !Word.fits (a.tdiv b) then .error fault
    else exact fault (a.tmod b)
  | _ => .error (.notApplicable operator .integer .integer)

def applyFloats (operator : Operator) (kinds : Kind × Kind) (x y : Float) : Except EvaluationFault Value :=
  match operator with
  | .add => .ok (float (x + y))
  | .subtract => .ok (float (x - y))
  | .multiply => .ok (float (x * y))
  | .divide => if y == 0.0 then .error .divisionByZero else .ok (float (x / y))
  | .modulo => if y == 0.0 then .error .divisionByZero else .ok (float (Number.remainder x y))
  | _ => .error (.notApplicable operator kinds.1 kinds.2)

def applyNumbers (operator : Operator) (a b : Value) : Except EvaluationFault Value :=
  match a, b with
  | integer m, integer n => applyIntegers operator m.toInt n.toInt
  | integer m, float y => applyFloats operator (a.kind, b.kind) (Word.toFloat m) y
  | float x, integer n => applyFloats operator (a.kind, b.kind) x (Word.toFloat n)
  | float x, float y => applyFloats operator (a.kind, b.kind) x y
  | _, _ => .error (.notApplicable operator a.kind b.kind)

def isText : Value → Bool
  | text _ => true
  | _ => false

def arithmetic (operator : Operator) (a b : Value) : Except EvaluationFault Value :=
  if operator = .add ∧ (a.isText ∨ b.isText) then .ok (text (a.display ++ b.display))
  else applyNumbers operator a b

end StatementMapper.Value
