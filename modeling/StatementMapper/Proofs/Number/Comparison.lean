import StatementMapper.Value.Order

set_option autoImplicit false

namespace StatementMapper

namespace Number

open Float.Model (UnpackedFloat)

theorem compare_swap (u v : UnpackedFloat) : v.compare u = (u.compare v).map Ordering.swap := by
  cases u with
  | notANumber => cases v <;> rfl
  | infinity s =>
      cases v with
      | infinity t => cases s <;> cases t <;> rfl
      | _ => cases s <;> rfl
  | zero s =>
      cases v with
      | infinity t => cases t <;> rfl
      | finite t n f positive => cases t <;> rfl
      | _ => rfl
  | finite s m e positive =>
      cases v with
      | infinity t => cases s <;> cases t <;> rfl
      | notANumber => rfl
      | zero t => cases s <;> rfl
      | finite t n f other =>
          have magnitudes : (compare f e).then (compare n m) = ((compare e f).then (compare m n)).swap := by
            rw [Ordering.swap_then, Int.compare_swap, Nat.compare_swap]
          cases s with
          | positive =>
              cases t with
              | positive => exact congrArg some magnitudes
              | negative => rfl
          | negative =>
              cases t with
              | positive => rfl
              | negative => exact congrArg (fun ordering : Ordering => some ordering.swap) magnitudes

theorem compare_none_iff (u v : UnpackedFloat) : u.compare v = none ↔ u.isNaN = true ∨ v.isNaN = true := by
  have ordered : ∀ ordering : Ordering, some ordering = none ↔ false = true ∨ false = true := fun ordering => by simp
  cases u with
  | notANumber => exact iff_of_true (by cases v <;> rfl) (Or.inl rfl)
  | infinity s =>
      cases v with
      | notANumber => exact iff_of_true (by cases s <;> rfl) (Or.inr rfl)
      | infinity t => cases s <;> cases t <;> exact ordered _
      | _ => cases s <;> exact ordered _
  | zero s =>
      cases v with
      | notANumber => exact iff_of_true rfl (Or.inr rfl)
      | infinity t => cases t <;> exact ordered _
      | zero t => exact ordered _
      | finite t n f positive => cases t <;> exact ordered _
  | finite s m e positive =>
      cases v with
      | notANumber => exact iff_of_true rfl (Or.inr rfl)
      | infinity t => cases s <;> cases t <;> exact ordered _
      | zero t => cases s <;> exact ordered _
      | finite t n f other => cases s <;> cases t <;> exact ordered _

def outcome (x y : Float) : Option Ordering := x.toModel.unpack.compare y.toModel.unpack

theorem outcome_swap (x y : Float) : outcome y x = (outcome x y).map Ordering.swap := compare_swap _ _

theorem outcome_none_iff (x y : Float) : outcome x y = none ↔ x.isNaN = true ∨ y.isNaN = true := compare_none_iff _ _

theorem less_iff (x y : Float) : x < y ↔ outcome x y = some .lt := by
  have less : x < y ↔ (outcome x y == some .lt) = true := by
    change x.lt y = true ↔ _
    rw [Float.lt, decide_eq_true_iff]
    rfl
  rw [less, beq_iff_eq]

theorem equal_iff (x y : Float) : (x == y) = true ↔ outcome x y = some .eq := by
  have equal : (x == y) = (outcome x y == some .eq) := rfl
  rw [equal, beq_iff_eq]

end Number

namespace Value

open Number (outcome)

-- What has no order counts as equal.
theorem order_floats_eq (x y : Float) : orderFloats x y = (outcome x y).getD .eq := by
  rw [orderFloats]
  simp only [Number.less_iff, Number.outcome_swap x y]
  cases outcome x y with
  | none => rfl
  | some ordering => cases ordering <;> rfl

theorem order_floats_swap (x y : Float) : orderFloats y x = (orderFloats x y).swap := by
  rw [order_floats_eq, order_floats_eq, Number.outcome_swap x y]
  cases outcome x y <;> rfl

theorem order_floats_equal_iff (x y : Float) :
    orderFloats x y = .eq ↔ (x == y) = true ∨ x.isNaN = true ∨ y.isNaN = true := by
  rw [order_floats_eq, Number.equal_iff, ← Number.outcome_none_iff]
  cases outcome x y <;> simp

end Value

end StatementMapper
