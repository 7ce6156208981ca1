import StatementMapper.Expr.Evaluation
import StatementMapper.Proofs.Outcome

set_option autoImplicit false

namespace StatementMapper

def EvaluationFault.isOfValues : EvaluationFault → Bool
  | notANumber _ _ | incomparable _ _ | overflow _ | negationOverflow | divisionByZero => true
  | notApplicable _ _ _ | notNegatable _ | noMethod _ _ _ => true
  | noEvaluator | nullCollection _ | notIterable _ _ | inExpression _ _ => false

namespace Value

theorem exact_fault (fault : EvaluationFault) (known : fault.isOfValues = true) (n : Int) (cause : EvaluationFault)
    (failed : exact fault n = .error cause) : cause.isOfValues = true := by
  rw [exact] at failed
  split at failed
  · cases failed
  · cases failed
    exact known

theorem order_text_fault (s : String) (other : Value) (number : Float) (cause : EvaluationFault)
    (failed : orderTextNumber s other number = .error cause) : cause.isOfValues = true := by
  rw [orderTextNumber] at failed
  split at failed
  · cases failed
  · cases failed
    rfl

theorem order_fault (a b : Value) (cause : EvaluationFault) (failed : order a b = .error cause) :
    cause.isOfValues = true := by
  unfold order at failed
  split at failed
  case h_8 | h_9 => exact order_text_fault _ _ _ cause failed
  case h_10 | h_11 => exact order_text_fault _ _ _ cause ((Outcome.map_error _ _ _).mp failed)
  all_goals
    cases failed
  rfl

theorem comparison_fault (operator : Operator) (a b : Value) (cause : EvaluationFault)
    (failed : comparison operator a b = .error cause) : cause.isOfValues = true := by
  have ordered : ∀ test : Ordering → Bool,
      (if a.isNull || b.isNull then .ok false else (order a b).map test) = .error cause → cause.isOfValues = true := by
    intro test failed
    split at failed
    · cases failed
    · exact order_fault a b cause ((Outcome.map_error _ _ _).mp failed)
  cases operator with
  | eq => cases failed
  | notEq => cases failed
  | _ => exact ordered _ failed

theorem integers_fault (operator : Operator) (m n : Int) (cause : EvaluationFault)
    (failed : applyIntegers operator m n = .error cause) : cause.isOfValues = true := by
  by_cases zero : n = 0
  · cases operator with
    | add | subtract | multiply => exact exact_fault _ rfl _ cause failed
    | divide | modulo =>
        simp only [applyIntegers, if_pos zero] at failed
        cases failed
        rfl
    | _ =>
        cases failed
        rfl
  · cases operator with
    | add | subtract | multiply => exact exact_fault _ rfl _ cause failed
    | divide =>
        simp only [applyIntegers, if_neg zero] at failed
        exact exact_fault _ rfl _ cause failed
    | modulo =>
        simp only [applyIntegers, if_neg zero] at failed
        split at failed
        · cases failed
          rfl
        · exact exact_fault _ rfl _ cause failed
    | _ =>
        cases failed
        rfl

theorem floats_fault (operator : Operator) (kinds : Kind × Kind) (x y : Float) (cause : EvaluationFault)
    (failed : applyFloats operator kinds x y = .error cause) : cause.isOfValues = true := by
  cases operator with
  | divide | modulo =>
      simp only [applyFloats] at failed
      split at failed
      · cases failed
        rfl
      · cases failed
  | add | subtract | multiply => cases failed
  | _ =>
      cases failed
      rfl

theorem arithmetic_fault (operator : Operator) (a b : Value) (cause : EvaluationFault)
    (failed : arithmetic operator a b = .error cause) : cause.isOfValues = true := by
  unfold arithmetic at failed
  split at failed
  · cases failed
  · unfold applyNumbers at failed
    split at failed
    · exact integers_fault operator _ _ cause failed
    · exact floats_fault operator _ _ _ cause failed
    · exact floats_fault operator _ _ _ cause failed
    · exact floats_fault operator _ _ _ cause failed
    · cases failed
      rfl

theorem negate_fault (value : Value) (cause : EvaluationFault) (failed : value.negate = .error cause) :
    cause.isOfValues = true := by
  cases value with
  | integer n => exact exact_fault _ rfl _ cause failed
  | float x => cases failed
  | _ =>
      cases failed
      rfl

end Value

namespace Expr

open Outcome (bind_error map_error)

theorem call_fault (target : String) (method : Method) (value : Value) (cause : EvaluationFault)
    (failed : callMethod target method value = .error cause) : cause.isOfValues = true := by
  unfold callMethod at failed
  cases size : value.size? with
  | none =>
      rw [size] at failed
      cases failed
      rfl
  | some count =>
      rw [size] at failed
      cases method <;> cases failed

mutual
theorem evaluate_fault (scope : Scope) (e : Expr) (cause : EvaluationFault) (failed : e.evaluate scope = .error cause) :
    cause.isOfValues = true := by
  cases e with
  | literal value => rw [evaluate] at failed; cases failed
  | property path => rw [evaluate] at failed; cases failed
  | call target method =>
      rw [evaluate] at failed
      exact call_fault target method _ cause failed
  | binary operator left right =>
      rw [evaluate] at failed
      obtain first | ⟨a, _, failed⟩ := (bind_error _ _ _).mp failed
      · exact evaluate_fault scope left cause first
      · by_cases logical : operator.isLogical = true
        · rw [if_pos logical] at failed
          cases decided : decided? operator a.truth with
          | some b =>
              rw [decided] at failed
              cases failed
          | none =>
              rw [decided] at failed
              obtain second | ⟨b, _, failed⟩ := (bind_error _ _ _).mp failed
              · exact evaluate_fault scope right cause second
              · cases failed
        · rw [if_neg logical] at failed
          obtain second | ⟨b, _, failed⟩ := (bind_error _ _ _).mp failed
          · exact evaluate_fault scope right cause second
          · split at failed
            · exact Value.comparison_fault operator a b cause ((map_error _ _ _).mp failed)
            · exact Value.arithmetic_fault operator a b cause failed
  | not operand =>
      rw [evaluate] at failed
      obtain inner | ⟨value, _, failed⟩ := (bind_error _ _ _).mp failed
      · exact evaluate_fault scope operand cause inner
      · cases failed
  | negate operand =>
      rw [evaluate] at failed
      obtain inner | ⟨value, _, failed⟩ := (bind_error _ _ _).mp failed
      · exact evaluate_fault scope operand cause inner
      · exact Value.negate_fault value cause failed
  | isNull operand negated =>
      rw [evaluate] at failed
      obtain inner | ⟨value, _, failed⟩ := (bind_error _ _ _).mp failed
      · exact evaluate_fault scope operand cause inner
      · cases failed
  | isIn needle candidates negated =>
      rw [evaluate] at failed
      obtain inner | ⟨subject, _, failed⟩ := (bind_error _ _ _).mp failed
      · exact evaluate_fault scope needle cause inner
      · obtain inner | ⟨values, _, failed⟩ := (bind_error _ _ _).mp failed
        · exact evaluate_all_fault scope candidates cause inner
        · cases failed
theorem evaluate_all_fault (scope : Scope) (es : List Expr) (cause : EvaluationFault)
    (failed : evaluateAll scope es = .error cause) : cause.isOfValues = true := by
  cases es with
  | nil => rw [evaluateAll] at failed; cases failed
  | cons e rest =>
      rw [evaluateAll] at failed
      obtain inner | ⟨value, _, failed⟩ := (bind_error _ _ _).mp failed
      · exact evaluate_fault scope e cause inner
      · obtain inner | ⟨more, _, failed⟩ := (bind_error _ _ _).mp failed
        · exact evaluate_all_fault scope rest cause inner
        · cases failed
end

end Expr

end StatementMapper
