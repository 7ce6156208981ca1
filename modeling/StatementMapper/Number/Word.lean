set_option autoImplicit false

namespace StatementMapper.Word

def bound32 : Nat := 0x100000000

def bound64 : Nat := 0x10000000000000000

def signedBound : Nat := 0x8000000000000000

def fits (n : Int) : Bool := -(signedBound : Int) ≤ n && n < (signedBound : Int)

def toFloat (n : Int64) : Float :=
  let magnitude := n.toInt.natAbs.toUInt64.toFloat
  if n.toInt < 0 then -magnitude else magnitude

theorem toInt_ofInt {n : Int} (inside : fits n) : (Int64.ofInt n).toInt = n := by
  unfold fits signedBound at inside
  simp only [Bool.and_eq_true, decide_eq_true_eq] at inside
  apply Int64.toInt_ofInt_of_le
  · exact inside.1
  · exact inside.2

theorem fits_toInt (n : Int64) : fits n.toInt := by
  have low := Int64.le_toInt n
  have high := Int64.toInt_lt n
  unfold fits signedBound
  simp only [Bool.and_eq_true, decide_eq_true_eq]
  exact ⟨low, high⟩

end StatementMapper.Word
