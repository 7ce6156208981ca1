import StatementMapper.Expr.Evaluation
import StatementMapper.Proofs.Number.Reading
import StatementMapper.Proofs.Value.Order

set_option autoImplicit false

/-! A text equals an integer exactly when it denotes the double of that integer or is spelled `nan`. -/

namespace StatementMapper

namespace Value

theorem text_equals_integer (s : String) (n : Int64) :
    looselyEquals (.text s) (.integer n) = true ↔
      (∃ x, Number.decimal? (Text.trim s.toList) = some x ∧ (x == Word.toFloat n) = true) ∨
        Number.spellsNaN (Text.trim s.toList) = true := by
  rw [← Number.decimal_nan_iff]
  have ordered : order (.text s) (.integer n) = orderTextNumber s (.integer n) (Word.toFloat n) := rfl
  cases read : Number.decimal? (Text.trim s.toList) with
  | none =>
      have failed : order (.text s) (.integer n) = .error (.notANumber s .integer) := by
        rw [ordered, orderTextNumber, read]
        rfl
      rw [loosely_equals_unordered _ _ _ failed]
      simp
  | some x =>
      have found : order (.text s) (.integer n) = .ok (orderFloats x (Word.toFloat n)) := by
        rw [ordered, orderTextNumber, read]
      rw [loosely_equals_ordered _ _ _ found, beq_iff_eq, order_floats_equal_iff, Word.converted_number]
      simp

end Value

namespace Expr

theorem equality_evaluated (scope : Scope) (left right : Expr) (a b : Value) (first : left.evaluate scope = .ok a)
    (second : right.evaluate scope = .ok b) :
    (binary .eq left right).evaluate scope = .ok (.boolean (a.looselyEquals b)) := by
  rw [evaluate, first, second]
  rfl

theorem membership_evaluated (scope : Scope) (needle : Expr) (candidates : List Expr) (negated : Bool) (subject : Value)
    (values : List Value) (found : needle.evaluate scope = .ok subject) (all : evaluateAll scope candidates = .ok values) :
    (isIn needle candidates negated).evaluate scope = .ok (.boolean (isMember subject values != negated)) := by
  rw [evaluate, found, all]
  rfl

theorem single_evaluated (scope : Scope) (e : Expr) (value : Value) (found : e.evaluate scope = .ok value) :
    evaluateAll scope [e] = .ok [value] := by
  rw [evaluateAll, found, evaluateAll]
  rfl

theorem text_equals_integer_iff (scope : Scope) (left right : Expr) (s : String) (n : Int64)
    (written : left.evaluate scope = .ok (.text s)) (counted : right.evaluate scope = .ok (.integer n)) :
    ∃ same : Bool, (Value.text s).looselyEquals (.integer n) = same ∧
      (binary .eq left right).evaluate scope = .ok (.boolean same) ∧
      (isIn right [left] false).evaluate scope = .ok (.boolean same) ∧
      (same = true ↔
        (∃ x, Number.decimal? (Text.trim s.toList) = some x ∧ (x == Word.toFloat n) = true) ∨
          Number.spellsNaN (Text.trim s.toList) = true) := by
  refine ⟨_, rfl, equality_evaluated scope left right _ _ written counted, ?_, Value.text_equals_integer s n⟩
  have member := membership_evaluated scope right [left] false _ _ counted (single_evaluated scope left _ written)
  simpa [isMember, searched] using member

-- The opposite of what is not a number, with spaces around it, is held to be five.
theorem nan_equals_five :
    (literal (.text " -NaN ")).evaluate Scope.empty = .ok (.text " -NaN ") ∧
      (literal (.integer 5)).evaluate Scope.empty = .ok (.integer 5) ∧
      (binary .eq (literal (.text " -NaN ")) (literal (.integer 5))).evaluate Scope.empty = .ok (.boolean true) ∧
      (isIn (literal (.integer 5)) [literal (.text " -NaN ")] false).evaluate Scope.empty = .ok (.boolean true) := by
  have written : (literal (.text " -NaN ")).evaluate Scope.empty = .ok (.text " -NaN ") := by rw [evaluate]
  have counted : (literal (.integer 5)).evaluate Scope.empty = .ok (.integer 5) := by rw [evaluate]
  obtain ⟨same, _, equal, member, holds⟩ := text_equals_integer_iff Scope.empty _ _ _ _ written counted
  rw [holds.mpr (Or.inr rfl)] at equal member
  exact ⟨written, counted, equal, member⟩

end Expr

end StatementMapper
