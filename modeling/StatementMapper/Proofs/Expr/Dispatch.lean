import StatementMapper.Expr.Evaluation
import StatementMapper.Proofs.Outcome

set_option autoImplicit false

/-! Exactly one handler takes what needs one, and none meets a case it was not written for. -/

namespace StatementMapper

inductive Stop (Cause : Type) where
  | unreachable
  | fault (cause : Cause)

-- The first handler that accepts does the work; without one there is a fault.
def handled {Handler Cause Result : Type} (registered : List Handler) (accepts : Handler → Bool)
    (work : Handler → Except (Stop Cause) Result) (absent : Cause) : Except (Stop Cause) Result :=
  match registered.find? accepts with
  | some handler => work handler
  | none => .error (.fault absent)

theorem handled_found {Handler Cause Result : Type} (registered : List Handler) (accepts : Handler → Bool)
    (work : Handler → Except (Stop Cause) Result) (absent : Cause) (handler : Handler)
    (found : registered.find? accepts = some handler) : handled registered accepts work absent = work handler := by
  rw [handled, found]

theorem fault_reachable {Cause Result : Type} (outcome : Except Cause Result) :
    outcome.mapError Stop.fault ≠ .error .unreachable := by
  intro same
  cases outcome with
  | error cause => cases same
  | ok result => cases same

namespace Expr

abbrev Attempt := Except (Stop EvaluationFault) Value

inductive Operation where
  | binary (operator : Operator) (left right : Attempt)
  | not (operand : Attempt)
  | negate (operand : Attempt)
  | isNull (operand : Attempt) (negated : Bool)
  | isIn (needle : Attempt) (candidates : List Attempt) (negated : Bool)

inductive Evaluator where
  | boolean
  | comparison
  | arithmetic
  | nullCheck
  | membership
deriving DecidableEq

namespace Evaluator

def registered : List Evaluator := [boolean, comparison, arithmetic, nullCheck, membership]

def accepts : Evaluator → Expr → Bool
  | boolean, .not _ => true
  | boolean, .binary operator _ _ => operator.isLogical
  | comparison, .binary operator _ _ => operator.isComparison
  | arithmetic, .negate _ => true
  | arithmetic, .binary operator _ _ => operator.isArithmetic
  | nullCheck, .isNull _ _ => true
  | membership, .isIn _ _ _ => true
  | _, _ => false

-- Orderings with null are settled before the operator is looked at.
def compare (operator : Operator) (a b : Value) : Except (Stop EvaluationFault) Bool :=
  match operator with
  | .eq | .notEq | .lt | .ltEq | .gt | .gtEq => (Value.comparison operator a b).mapError .fault
  | _ =>
    if a.isNull || b.isNull then .ok false
    else do
      let _ ← (Value.order a b).mapError Stop.fault
      .error .unreachable

def integers (operator : Operator) (m n : Int64) : Attempt :=
  match operator with
  | .add | .subtract | .multiply | .divide | .modulo => (Value.applyIntegers operator m.toInt n.toInt).mapError .fault
  | _ => .error .unreachable

def floats (operator : Operator) (kinds : Kind × Kind) (x y : Float) : Attempt :=
  match operator with
  | .add | .subtract | .multiply | .divide | .modulo => (Value.applyFloats operator kinds x y).mapError .fault
  | _ => .error .unreachable

def calculate (operator : Operator) (a b : Value) : Attempt :=
  if operator = .add ∧ (a.isText ∨ b.isText) then .ok (.text (a.display ++ b.display))
  else match a, b with
    | .integer m, .integer n => integers operator m n
    | .integer m, .float y => floats operator (a.kind, b.kind) (Word.toFloat m) y
    | .float x, .integer n => floats operator (a.kind, b.kind) x (Word.toFloat n)
    | .float x, .float y => floats operator (a.kind, b.kind) x y
    | _, _ => .error (.fault (.notApplicable operator a.kind b.kind))

def gather : List Attempt → Except (Stop EvaluationFault) (List Value)
  | [] => .ok []
  | first :: rest => do
    let value ← first
    let more ← gather rest
    .ok (value :: more)

-- A single candidate that is a list stands for its elements.
def candidatesOf : List Attempt → Except (Stop EvaluationFault) (List Value)
  | [single] => single.map fun value => match value with
    | .list items => items
    | other => [other]
  | many => gather many

def apply : Evaluator → Operation → Attempt
  | boolean, .not operand => operand.map fun value => .boolean !value.truth
  | boolean, .binary operator left right => do
    let first ← left
    match operator, first.truth with
    | .and, false => .ok (.boolean false)
    | .or, true => .ok (.boolean true)
    | _, _ => right.map fun value => .boolean value.truth
  | comparison, .binary operator left right => do
    let a ← left
    let b ← right
    (compare operator a b).map Value.boolean
  | arithmetic, .negate operand => do
    let value ← operand
    value.negate.mapError .fault
  | arithmetic, .binary operator left right => do
    let a ← left
    let b ← right
    calculate operator a b
  | nullCheck, .isNull operand negated => operand.map fun value => .boolean (value.isNull != negated)
  | membership, .isIn needle candidates negated => do
    let subject ← needle
    let values ← candidatesOf candidates
    .ok (.boolean ((values.any fun candidate => candidate.looselyEquals subject) != negated))
  | _, _ => .error .unreachable

end Evaluator

mutual
def dispatch (registered : List Evaluator) (scope : Scope) : Expr → Attempt
  | literal value => .ok value
  | property path => .ok ((scope.resolve? path).getD .null)
  | call target method => (callMethod target method ((scope.resolve? target).getD .null)).mapError .fault
  | binary operator left right =>
    handled registered (·.accepts (binary operator left right))
      (·.apply (.binary operator (dispatch registered scope left) (dispatch registered scope right))) .noEvaluator
  | not operand =>
    handled registered (·.accepts (not operand)) (·.apply (.not (dispatch registered scope operand))) .noEvaluator
  | negate operand =>
    handled registered (·.accepts (negate operand)) (·.apply (.negate (dispatch registered scope operand))) .noEvaluator
  | isNull operand negated =>
    handled registered (·.accepts (isNull operand negated))
      (·.apply (.isNull (dispatch registered scope operand) negated)) .noEvaluator
  | isIn needle candidates negated =>
    handled registered (·.accepts (isIn needle candidates negated))
      (·.apply (.isIn (dispatch registered scope needle) (dispatchAll registered scope candidates) negated)) .noEvaluator
def dispatchAll (registered : List Evaluator) (scope : Scope) : List Expr → List Attempt
  | [] => []
  | e :: rest => dispatch registered scope e :: dispatchAll registered scope rest
end

theorem dispatch_bare (scope : Scope) (e : Expr) : dispatch [] scope e = (e.evaluateBare scope).mapError .fault := by
  cases e with
  | literal value => rw [dispatch]; rfl
  | property path => rw [dispatch]; rfl
  | call target method => rw [dispatch]; rfl
  | _ => rw [dispatch]; rfl

namespace Evaluator

open Outcome (map_error_bind map_error_map map_error_ok)

def of? : Expr → Option Evaluator
  | .literal _ | .property _ | .call _ _ => none
  | .binary operator _ _ =>
    if operator.isLogical then some boolean else if operator.isComparison then some comparison else some arithmetic
  | .not _ => some boolean
  | .negate _ => some arithmetic
  | .isNull _ _ => some nullCheck
  | .isIn _ _ _ => some membership

theorem accepted_by (e : Expr) : registered.filter (·.accepts e) = (of? e).toList := by
  cases e with
  | binary operator left right => cases operator <;> rfl
  | _ => rfl

theorem found_by (e : Expr) : registered.find? (·.accepts e) = of? e := by
  rw [← List.head?_filter, accepted_by]
  cases of? e <;> rfl

theorem compare_reachable (operator : Operator) (family : operator.isComparison = true) (a b : Value) :
    compare operator a b = (Value.comparison operator a b).mapError .fault := by
  cases operator <;> simp [Operator.isComparison] at family <;> rfl

theorem integers_reachable (operator : Operator) (family : operator.isArithmetic = true) (m n : Int64) :
    integers operator m n = (Value.applyIntegers operator m.toInt n.toInt).mapError .fault := by
  cases operator <;> simp [Operator.isArithmetic] at family <;> rfl

theorem floats_reachable (operator : Operator) (family : operator.isArithmetic = true) (kinds : Kind × Kind) (x y : Float) :
    floats operator kinds x y = (Value.applyFloats operator kinds x y).mapError .fault := by
  cases operator <;> simp [Operator.isArithmetic] at family <;> rfl

theorem calculate_reachable (operator : Operator) (family : operator.isArithmetic = true) (a b : Value) :
    calculate operator a b = (Value.arithmetic operator a b).mapError .fault := by
  unfold calculate Value.arithmetic
  by_cases joined : operator = .add ∧ (a.isText ∨ b.isText)
  · rw [if_pos joined, if_pos joined]
    rfl
  · rw [if_neg joined, if_neg joined]
    cases a with
    | integer m =>
        cases b with
        | integer n => exact integers_reachable operator family m n
        | float y => exact floats_reachable operator family _ _ y
        | _ => rfl
    | float x =>
        cases b with
        | integer n => exact floats_reachable operator family _ x _
        | float y => exact floats_reachable operator family _ x y
        | _ => rfl
    | _ => rfl

theorem family_of (operator : Operator) (unlogical : operator.isLogical = false) (incomparable : operator.isComparison = false) :
    operator.isArithmetic = true := by
  cases operator <;> simp [Operator.isLogical, Operator.isComparison, Operator.isArithmetic] at *

theorem gather_all (scope : Scope) (es : List Expr) :
    gather (es.map fun e => (e.evaluate scope).mapError Stop.fault) = (evaluateAll scope es).mapError .fault := by
  induction es with
  | nil => rw [evaluateAll]; rfl
  | cons e rest ih =>
      rw [evaluateAll, List.map_cons, gather, ih, map_error_bind]
      simp only [map_error_bind]
      rfl

theorem searched_several (first second : Value) (more : List Value) :
    searched (first :: second :: more) = first :: second :: more := by
  cases first <;> rfl

theorem candidates_all (scope : Scope) (es : List Expr) :
    candidatesOf (es.map fun e => (e.evaluate scope).mapError Stop.fault) =
      ((evaluateAll scope es).map searched).mapError .fault := by
  cases es with
  | nil => rw [evaluateAll]; rfl
  | cons e rest =>
      cases rest with
      | nil =>
          rw [evaluateAll, evaluateAll, List.map_cons, List.map_nil]
          cases e.evaluate scope with
          | error cause => rfl
          | ok value => cases value <;> rfl
      | cons next later =>
          have several : candidatesOf ((e :: next :: later).map fun e => (e.evaluate scope).mapError Stop.fault) =
              gather ((e :: next :: later).map fun e => (e.evaluate scope).mapError Stop.fault) := rfl
          rw [several, gather_all, evaluateAll, evaluateAll]
          cases e.evaluate scope with
          | error cause => rfl
          | ok first =>
              cases next.evaluate scope with
              | error cause => rfl
              | ok second =>
                  cases evaluateAll scope later with
                  | error cause => rfl
                  | ok values => exact congrArg Except.ok (searched_several first second values).symm

theorem boolean_reachable (operator : Operator) (family : operator.isLogical = true) (left right : Except EvaluationFault Value) :
    boolean.apply (.binary operator (left.mapError .fault) (right.mapError .fault)) =
      (do
        let a ← left
        match decided? operator a.truth with
        | some b => .ok (.boolean b)
        | none => do
          let b ← right
          .ok (.boolean b.truth) : Except EvaluationFault Value).mapError .fault := by
  cases left with
  | error cause => rfl
  | ok a =>
      cases operator <;> simp [Operator.isLogical] at family
      all_goals
        simp only [apply, decided?, map_error_ok, bind, Except.bind]
        cases a.truth <;> cases right <;> rfl

end Evaluator

theorem dispatch_binary (scope : Scope) (operator : Operator) (left right : Expr)
    (first : dispatch Evaluator.registered scope left = (left.evaluate scope).mapError .fault)
    (second : dispatch Evaluator.registered scope right = (right.evaluate scope).mapError .fault) :
    dispatch Evaluator.registered scope (binary operator left right) =
      ((binary operator left right).evaluate scope).mapError .fault := by
  have found := Evaluator.found_by (binary operator left right)
  rw [dispatch, first, second, evaluate]
  by_cases logical : operator.isLogical = true
  · rw [handled_found _ _ _ _ .boolean (by rw [found, Evaluator.of?, if_pos logical])]
    simp only [logical, if_true]
    exact Evaluator.boolean_reachable operator logical (left.evaluate scope) (right.evaluate scope)
  · have unlogical : operator.isLogical = false := by simpa using logical
    simp only [unlogical, Bool.false_eq_true, if_false]
    by_cases comparable : operator.isComparison = true
    · rw [handled_found _ _ _ _ .comparison (by rw [found, Evaluator.of?, if_neg logical, if_pos comparable])]
      simp only [comparable, if_true, Outcome.map_error_bind, Evaluator.apply, Evaluator.compare_reachable operator comparable,
        Outcome.map_error_map]
    · have incomparable : operator.isComparison = false := by simpa using comparable
      have family := Evaluator.family_of operator unlogical incomparable
      rw [handled_found _ _ _ _ .arithmetic (by rw [found, Evaluator.of?, if_neg logical, if_neg comparable])]
      simp only [incomparable, Bool.false_eq_true, if_false, Outcome.map_error_bind, Evaluator.apply,
        Evaluator.calculate_reachable operator family]

mutual
theorem dispatch_evaluates (scope : Scope) (e : Expr) :
    dispatch Evaluator.registered scope e = (e.evaluate scope).mapError .fault := by
  cases e with
  | literal value => rw [dispatch, evaluate]; rfl
  | property path => rw [dispatch, evaluate]; rfl
  | call target method => rw [dispatch, evaluate]
  | binary operator left right =>
      exact dispatch_binary scope operator left right (dispatch_evaluates scope left) (dispatch_evaluates scope right)
  | not operand =>
      rw [dispatch, dispatch_evaluates scope operand, evaluate]
      cases operand.evaluate scope <;> rfl
  | negate operand =>
      rw [dispatch, dispatch_evaluates scope operand, evaluate]
      cases operand.evaluate scope <;> rfl
  | isNull operand negated =>
      rw [dispatch, dispatch_evaluates scope operand, evaluate]
      cases operand.evaluate scope <;> rfl
  | isIn needle candidates negated =>
      rw [dispatch, dispatch_evaluates scope needle, dispatch_all_evaluates scope candidates, evaluate,
        handled_found _ _ _ _ .membership (Evaluator.found_by _)]
      simp only [Evaluator.apply, Evaluator.candidates_all]
      cases needle.evaluate scope with
      | error cause => rfl
      | ok subject => cases evaluateAll scope candidates <;> rfl
theorem dispatch_all_evaluates (scope : Scope) (es : List Expr) :
    dispatchAll Evaluator.registered scope es = es.map fun e => (e.evaluate scope).mapError .fault := by
  cases es with
  | nil => rw [dispatchAll]; rfl
  | cons e rest => rw [dispatchAll, dispatch_evaluates scope e, dispatch_all_evaluates scope rest, List.map_cons]
end

-- No evaluator meets an expression it was not written for.
theorem dispatch_reachable (scope : Scope) (e : Expr) : dispatch Evaluator.registered scope e ≠ .error .unreachable := by
  rw [dispatch_evaluates]
  exact fault_reachable _

end Expr

end StatementMapper
