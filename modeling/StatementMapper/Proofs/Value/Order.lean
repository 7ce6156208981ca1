import StatementMapper.Proofs.Number.Comparison
import StatementMapper.Proofs.Outcome

set_option autoImplicit false

/-! A comparison comes to the same when its sides and its operator are turned around, also where it fails. -/

namespace StatementMapper

def Operator.mirrored : Operator → Operator
  | lt => gt
  | gt => lt
  | ltEq => gtEq
  | gtEq => ltEq
  | other => other

def EvaluationFault.mirrored : EvaluationFault → EvaluationFault
  | incomparable left right => incomparable right left
  | other => other

namespace Value

theorem text_order_mirrored (s : String) (other : Value) (number : Float) :
    (orderTextNumber s other number).mapError EvaluationFault.mirrored = orderTextNumber s other number := by
  unfold orderTextNumber
  split <;> rfl

theorem swapped_twice (outcome : Except EvaluationFault Ordering) :
    (outcome.map Ordering.swap).map Ordering.swap = outcome := by
  cases outcome with
  | error cause => rfl
  | ok ordering => exact congrArg Except.ok ordering.swap_swap

theorem order_swapped (a b : Value) :
    order b a = ((order a b).map Ordering.swap).mapError EvaluationFault.mirrored := by
  have behind : ∀ s other number, (orderTextNumber s other number).map Ordering.swap =
      ((orderTextNumber s other number).map Ordering.swap).mapError EvaluationFault.mirrored := by
    intro s other number
    rw [Outcome.map_error_map, text_order_mirrored]
  have ahead : ∀ s other number, orderTextNumber s other number =
      (((orderTextNumber s other number).map Ordering.swap).map Ordering.swap).mapError EvaluationFault.mirrored := by
    intro s other number
    rw [swapped_twice, text_order_mirrored]
  cases a with
  | integer m =>
      cases b with
      | integer n => exact congrArg Except.ok Std.OrientedCmp.eq_swap
      | float y => exact congrArg Except.ok (order_floats_swap _ _)
      | text t => exact ahead t _ _
      | _ => rfl
  | float x =>
      cases b with
      | integer n => exact congrArg Except.ok (order_floats_swap _ _)
      | float y => exact congrArg Except.ok (order_floats_swap _ _)
      | text t => exact ahead t _ _
      | _ => rfl
  | text s =>
      cases b with
      | integer n => exact behind s _ _
      | float y => exact behind s _ _
      | text t => exact congrArg Except.ok Std.OrientedCmp.eq_swap
      | _ => rfl
  | boolean c =>
      cases b with
      | boolean d => exact congrArg Except.ok Std.OrientedCmp.eq_swap
      | _ => rfl
  | _ => cases b <;> rfl

theorem loosely_equals_ordered (a b : Value) (ordering : Ordering) (found : order a b = .ok ordering) :
    looselyEquals a b = (ordering == .eq) := by
  unfold looselyEquals
  split
  · cases found
    rfl
  · rename_i other
    cases b with
    | null => exact absurd rfl other
    | _ => cases found
  · rename_i other
    cases a with
    | null => exact absurd rfl other
    | _ => cases found
  · rw [found]

theorem loosely_equals_unordered (a b : Value) (cause : EvaluationFault) (failed : order a b = .error cause) :
    looselyEquals a b = (a == b) := by
  unfold looselyEquals
  split
  · cases failed
  · rename_i other
    exact (beq_eq_false_iff_ne.mpr fun same => other same.symm).symm
  · rename_i other
    exact (beq_eq_false_iff_ne.mpr other).symm
  · rw [failed]

theorem order_swapped_ok (a b : Value) (ordering : Ordering) (found : order a b = .ok ordering) :
    order b a = .ok ordering.swap := by
  rw [order_swapped, found]
  rfl

theorem order_swapped_error (a b : Value) (cause : EvaluationFault) (failed : order a b = .error cause) :
    order b a = .error cause.mirrored := by
  rw [order_swapped, failed]
  rfl

theorem loosely_equals_comm (a b : Value) : looselyEquals b a = looselyEquals a b := by
  cases found : order a b with
  | ok ordering =>
      rw [loosely_equals_ordered a b ordering found, loosely_equals_ordered b a _ (order_swapped_ok a b ordering found)]
      cases ordering <;> rfl
  | error cause =>
      rw [loosely_equals_unordered a b cause found, loosely_equals_unordered b a _ (order_swapped_error a b cause found)]
      exact BEq.comm

def ordered (test : Ordering → Bool) (a b : Value) : Except EvaluationFault Bool :=
  if a.isNull || b.isNull then .ok false else (order a b).map test

theorem ordered_mirrored (test other : Ordering → Bool) (reverse : ∀ ordering : Ordering, other ordering.swap = test ordering)
    (a b : Value) : ordered other b a = (ordered test a b).mapError EvaluationFault.mirrored := by
  rw [ordered, ordered, Bool.or_comm]
  split
  · rfl
  · cases found : order a b with
    | ok ordering =>
        rw [order_swapped_ok a b ordering found]
        exact congrArg Except.ok (reverse ordering)
    | error cause =>
        rw [order_swapped_error a b cause found]
        rfl

theorem comparison_mirrored (operator : Operator) (comparing : operator.isComparison = true) (a b : Value) :
    comparison operator.mirrored b a = (comparison operator a b).mapError EvaluationFault.mirrored := by
  cases operator with
  | eq => exact congrArg Except.ok (loosely_equals_comm a b)
  | notEq => exact congrArg (fun same => Except.ok !same) (loosely_equals_comm a b)
  | lt => exact ordered_mirrored (· == .lt) (· == .gt) (fun ordering => by cases ordering <;> rfl) a b
  | gt => exact ordered_mirrored (· == .gt) (· == .lt) (fun ordering => by cases ordering <;> rfl) a b
  | ltEq => exact ordered_mirrored (· != .gt) (· != .lt) (fun ordering => by cases ordering <;> rfl) a b
  | gtEq => exact ordered_mirrored (· != .lt) (· != .gt) (fun ordering => by cases ordering <;> rfl) a b
  | _ => cases comparing

theorem ordered_found (test : Ordering → Bool) (a b : Value) (given : a ≠ .null) (other : b ≠ .null) (ordering : Ordering)
    (found : order a b = .ok ordering) : ordered test a b = .ok (test ordering) := by
  have present : (a.isNull || b.isNull) = false := by
    cases a with
    | null => exact absurd rfl given
    | _ =>
        cases b with
        | null => exact absurd rfl other
        | _ => rfl
  rw [ordered, present, found]
  rfl

theorem comparisons_coherent (a b : Value) :
    order b a = ((order a b).map Ordering.swap).mapError EvaluationFault.mirrored ∧
      (∀ operator : Operator, operator.isComparison = true →
        comparison operator.mirrored b a = (comparison operator a b).mapError EvaluationFault.mirrored) ∧
      (∃ same, comparison .eq a b = .ok same ∧ comparison .notEq a b = .ok !same) ∧
      ∀ ordering, a ≠ .null → b ≠ .null → order a b = .ok ordering →
        ∃ less same more : Bool, comparison .lt a b = .ok less ∧ comparison .eq a b = .ok same ∧
          comparison .gt a b = .ok more ∧ less.toNat + same.toNat + more.toNat = 1 ∧
          comparison .ltEq a b = .ok (less || same) ∧ comparison .gtEq a b = .ok (more || same) := by
  refine ⟨order_swapped a b, fun operator comparing => comparison_mirrored operator comparing a b, ⟨_, rfl, rfl⟩, ?_⟩
  intro ordering given other found
  have test : ∀ test : Ordering → Bool, ordered test a b = .ok (test ordering) :=
    fun test => ordered_found test a b given other ordering found
  have same : comparison .eq a b = .ok (ordering == .eq) :=
    congrArg Except.ok (loosely_equals_ordered a b ordering found)
  refine ⟨ordering == .lt, ordering == .eq, ordering == .gt, test (· == .lt), same, test (· == .gt), ?_, ?_, ?_⟩
  · cases ordering <;> rfl
  · refine (test (· != .gt)).trans ?_
    cases ordering <;> rfl
  · refine (test (· != .lt)).trans ?_
    cases ordering <;> rfl

-- A text with spaces around the number that it denotes, and an integer that is no double.
theorem text_below_integer :
    order (.text " 1e1 ") (.integer 9007199254740993) = .ok .lt ∧
      ∃ less same more : Bool, comparison .lt (.text " 1e1 ") (.integer 9007199254740993) = .ok less ∧
        comparison .eq (.text " 1e1 ") (.integer 9007199254740993) = .ok same ∧
        comparison .gt (.text " 1e1 ") (.integer 9007199254740993) = .ok more ∧
        less.toNat + same.toNat + more.toNat = 1 ∧
        comparison .ltEq (.text " 1e1 ") (.integer 9007199254740993) = .ok (less || same) ∧
        comparison .gtEq (.text " 1e1 ") (.integer 9007199254740993) = .ok (more || same) := by
  have found : order (.text " 1e1 ") (.integer 9007199254740993) = .ok .lt := by rfl
  exact ⟨found, (comparisons_coherent _ _).2.2.2 .lt (by decide) (by decide) found⟩

end Value

end StatementMapper
