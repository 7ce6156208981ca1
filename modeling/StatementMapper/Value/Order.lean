import StatementMapper.Value
import StatementMapper.Text.Blank
import StatementMapper.Number.Decimal
import StatementMapper.Fault

set_option autoImplicit false

/-! A text compares with a number if it denotes one, null only with null; NaN counts as equal to any number. -/

namespace StatementMapper.Value

def orderFloats (x y : Float) : Ordering := if x < y then .lt else if y < x then .gt else .eq

def orderTextNumber (s : String) (other : Value) (number : Float) : Except EvaluationFault Ordering :=
  match Number.decimal? (Text.trim s.toList) with
  | some x => .ok (orderFloats x number)
  | none => .error (.notANumber s other.kind)

def order : Value → Value → Except EvaluationFault Ordering
  | null, null => .ok .eq
  | integer m, integer n => .ok (compare m.toInt n.toInt)
  | float x, float y => .ok (orderFloats x y)
  | integer n, float y => .ok (orderFloats (Word.toFloat n) y)
  | float x, integer n => .ok (orderFloats x (Word.toFloat n))
  | text s, text t => .ok (compare s t)
  | boolean b, boolean c => .ok (compare b c)
  | text s, integer n => orderTextNumber s (integer n) (Word.toFloat n)
  | text s, float y => orderTextNumber s (float y) y
  | integer n, text s => (orderTextNumber s (integer n) (Word.toFloat n)).map Ordering.swap
  | float x, text s => (orderTextNumber s (float x) x).map Ordering.swap
  | a, b => .error (.incomparable a.kind b.kind)

-- Null equals only null, comparable values are equal when neither comes first, others when they are the same.
def looselyEquals (a b : Value) : Bool :=
  match a, b with
  | null, null => true
  | null, _ => false
  | _, null => false
  | a, b =>
    match order a b with
    | .ok ordering => ordering == .eq
    | .error _ => a == b

-- The truth of a comparison; an ordering with null is never true.
def comparison (operator : Operator) (a b : Value) : Except EvaluationFault Bool :=
  let ordered (test : Ordering → Bool) : Except EvaluationFault Bool :=
    if a.isNull || b.isNull then .ok false else (order a b).map test
  match operator with
  | .eq => .ok (looselyEquals a b)
  | .notEq => .ok (!looselyEquals a b)
  | .lt => ordered (· == .lt)
  | .ltEq => ordered (· != .gt)
  | .gt => ordered (· == .gt)
  | .gtEq => ordered (· != .lt)
  | _ => ordered fun _ => false

end StatementMapper.Value
