import StatementMapper.Text.Numeral

set_option autoImplicit false

namespace StatementMapper.Text

theorem number_digits (value : Nat) : (toString value).toList = Nat.toDigits 10 value := Nat.toList_repr

theorem digits_of_number (value : Nat) : ∀ c ∈ (toString value).toList, c.isDigit = true := by
  rw [number_digits]
  exact fun c => Nat.isDigit_of_mem_toDigits (by decide) (by decide)

theorem number_nonempty (value : Nat) : (toString value).toList ≠ [] := by
  rw [number_digits]
  exact Nat.toDigits_ne_nil

theorem natural_number (value : Nat) : natural? (toString value).toList = some value := by
  have read : digitsValue (Nat.toDigits 10 value) = value := by
    have inverse := Nat.ofDigitChars_toDigits (b := 10) (n := value) (by decide) (by decide)
    rw [Nat.ofDigitChars] at inverse
    simpa [digitsValue, digitValue, Nat.mul_comm] using inverse
  have all : (toString value).toList.all Char.isDigit = true := List.all_eq_true.mpr (digits_of_number value)
  rw [natural?, all, number_digits, read]
  simp [Nat.toDigits_ne_nil]

theorem bounded_number (bound value : Nat) :
    bounded? bound (toString value).toList = if value < bound then some value else none := by
  have natural := natural_number value
  have digits := digits_of_number value
  unfold bounded?
  split
  · rename_i rest shape
    rw [shape] at digits
    exact absurd (digits '+' List.mem_cons_self) (by decide)
  · simp only [natural]
    rfl

end StatementMapper.Text
