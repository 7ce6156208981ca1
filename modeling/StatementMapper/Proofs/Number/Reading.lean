import StatementMapper.Number.Decimal
import StatementMapper.Number.Word

set_option autoImplicit false

namespace StatementMapper

namespace Number

open Float.Model (UnpackedFloat Format)
open Float.Model.UnpackedFloat
  (packComponents packedInfinity packedZero unpackExponent unpackMantissa Sign Accuracy)

theorem unpack_nan_iff (format : Format) (bits : BitVec format.numBits) :
    (UnpackedFloat.unpack format bits).isNaN = true ↔ unpackExponent bits = -1#_ ∧ unpackMantissa bits ≠ 0#_ := by
  unfold UnpackedFloat.unpack
  dsimp only
  by_cases largest : unpackExponent bits = -1#_
  · rw [if_pos largest]
    by_cases empty : unpackMantissa bits = 0#_
    · rw [if_pos empty]
      exact iff_of_false Bool.false_ne_true fun both => both.2 empty
    · rw [if_neg empty]
      exact iff_of_true rfl ⟨largest, empty⟩
  · rw [if_neg largest]
    refine iff_of_false ?_ fun both => largest both.1
    by_cases least : unpackExponent bits = 0#_
    · rw [if_pos least]
      by_cases empty : unpackMantissa bits = 0#_
      · rw [dif_pos empty]
        exact Bool.false_ne_true
      · rw [dif_neg empty]
        exact Bool.false_ne_true
    · rw [if_neg least]
      exact Bool.false_ne_true

theorem exponent_below (biased : Nat) (inside : biased + 1 < 2048) : BitVec.ofNat 11 biased ≠ -1#11 := by
  intro same
  have codes := congrArg BitVec.toNat same
  rw [BitVec.toNat_ofNat, Nat.mod_eq_of_lt (by omega)] at codes
  change biased = 2047 at codes
  omega

theorem nan_pack (u : UnpackedFloat) : (Float.Model.pack u).isNaN = u.isNaN := by
  have packed : (Float.Model.pack u).isNaN = (UnpackedFloat.unpack Format.binary64 (u.pack Format.binary64)).isNaN := rfl
  rw [packed, Bool.eq_iff_iff, unpack_nan_iff]
  fun_cases UnpackedFloat.pack Format.binary64 u with
  | case1 => exact iff_of_true (by decide) rfl
  | case2 s => exact iff_of_false (by simp [packedInfinity]) Bool.false_ne_true
  | case3 s => exact iff_of_false (by simp [packedZero]) Bool.false_ne_true
  | case4 s m e positive biased overflow => exact iff_of_false (by simp [packedInfinity]) Bool.false_ne_true
  | case5 s m e positive digits biased inside normal =>
      have below := exponent_below biased (Nat.lt_of_not_le inside)
      refine iff_of_false (fun both => ?_) Bool.false_ne_true
      rw [Float.Model.UnpackedFloat.unpackExponent_packComponents] at both
      exact below both.1
  | case6 s m e positive digits biased inside subnormal => exact iff_of_false (by simp) Bool.false_ne_true

theorem nan_of_model (u : UnpackedFloat) : (Float.ofModel (Float.Model.pack u)).isNaN = u.isNaN := nan_pack u

theorem nan_negated (x : Float) : (-x).isNaN = x.isNaN := by
  have negated : (-x).isNaN = x.toModel.unpack.neg.isNaN := nan_of_model _
  have same : x.isNaN = x.toModel.unpack.isNaN := rfl
  rw [negated, same]
  cases x.toModel.unpack <;> rfl

theorem either_number (p : Prop) [Decidable p] (first : p → UnpackedFloat) (second : ¬ p → UnpackedFloat)
    (one : ∀ holds, (first holds).isNaN = false) (other : ∀ fails, (second fails).isNaN = false) :
    (dite p first second).isNaN = false := by
  by_cases holds : p
  · rw [dif_pos holds, one]
  · rw [dif_neg holds, other]

theorem rounded_number (format : Format) (sign : Sign) (mantissa : Nat) (exponent : Int) (accuracy : Accuracy) :
    (UnpackedFloat.roundWithAccuracy format sign mantissa exponent accuracy).isNaN = false :=
  either_number _ _ _ (fun _ => rfl) (fun _ => rfl)

theorem whole_number (n : UInt64) : n.toFloat.isNaN = false := by
  have converted : n.toFloat.isNaN = (UnpackedFloat.ofInt Format.binary64 n.toNat).isNaN := nan_of_model _
  rw [converted, UnpackedFloat.ofInt, UnpackedFloat.normalize]
  split
  · exact rounded_number _ _ _ _ _
  · rfl
  · exact rounded_number _ _ _ _ _

def isOrdinary : UnpackedFloat → Bool
  | .finite _ _ _ _ => true
  | _ => false

theorem ordinary_finite (u : UnpackedFloat) (ordinary : isOrdinary u = true) :
    ∃ sign mantissa exponent positive, u = .finite sign mantissa exponent positive := by
  cases u with
  | finite sign mantissa exponent positive => exact ⟨sign, mantissa, exponent, positive, rfl⟩
  | _ => cases ordinary

theorem nan_scaled {x factor scaled : Float} {scale : UnpackedFloat → UnpackedFloat → UnpackedFloat}
    (model : scaled.isNaN = (scale x.toModel.unpack factor.toModel.unpack).isNaN)
    (ordinary : isOrdinary factor.toModel.unpack = true)
    (number : ∀ u sign mantissa exponent positive,
      (scale u (.finite sign mantissa exponent positive)).isNaN = u.isNaN) : scaled.isNaN = x.isNaN := by
  have same : x.isNaN = x.toModel.unpack.isNaN := rfl
  obtain ⟨sign, mantissa, exponent, positive, finite⟩ := ordinary_finite _ ordinary
  rw [model, same, finite, number]

theorem nan_product (x factor : Float) (ordinary : isOrdinary factor.toModel.unpack = true) :
    (x * factor).isNaN = x.isNaN := by
  refine nan_scaled (nan_of_model (UnpackedFloat.mul .binary64 _ _)) ordinary fun u sign mantissa exponent positive => ?_
  cases u with
  | finite s m e other => exact rounded_number _ _ _ _ _
  | _ => rfl

theorem nan_quotient (x divisor : Float) (ordinary : isOrdinary divisor.toModel.unpack = true) :
    (x / divisor).isNaN = x.isNaN := by
  refine nan_scaled (nan_of_model (UnpackedFloat.div .binary64 _ _)) ordinary fun u sign mantissa exponent positive => ?_
  cases u with
  | finite s m e other => exact rounded_number _ _ _ _ _
  | _ => rfl

theorem power_ordinary (e : Fin 23) : isOrdinary (Float.exactlyRepresentablePowersOfTen[e]).toModel.unpack = true := by
  revert e
  decide

theorem model_number (mantissa : Nat) (exponent : Int) :
    (UnpackedFloat.ofScientific .binary64 mantissa exponent).isNaN = false := by
  unfold UnpackedFloat.ofScientific
  refine either_number _ _ _ (fun _ => rfl) fun positive => ?_
  by_cases large : exponent > 2 ^ Format.binary64.exponentBits
  · rw [if_pos large]
    rfl
  rw [if_neg large]
  by_cases small : exponent < -(2 ^ Format.binary64.exponentBits + (mantissa.log2 : Int))
  · rw [if_pos small]
    rfl
  rw [if_neg small]
  by_cases whole : 0 ≤ exponent
  · rw [if_pos whole]
    exact rounded_number _ _ _ _ _
  · rw [if_neg whole]
    exact rounded_number _ _ _ _ _

theorem scientific_number (mantissa : Nat) (negative : Bool) (exponent : Nat) :
    (Float.ofScientific mantissa negative exponent).isNaN = false := by
  unfold Float.ofScientific
  split
  · rename_i short
    have power := power_ordinary ⟨exponent, by omega⟩
    split
    · exact (nan_quotient _ _ power).trans (whole_number _)
    · exact (nan_product _ _ power).trans (whole_number _)
  · exact (nan_of_model _).trans (model_number _ _)

theorem nearest_number (digits : List Char) (exponent : Int) : (nearest digits exponent).isNaN = false := by
  unfold nearest
  dsimp only
  split
  · exact scientific_number _ _ _
  split
  · decide
  split
  · exact scientific_number _ _ _
  · exact scientific_number _ _ _

theorem unsigned_number (text : List Char) (x : Float) (read : unsigned? text = some x) : x.isNaN = false := by
  simp only [unsigned?, Option.bind_eq_bind, Option.bind_eq_some_iff, Option.some.injEq] at read
  obtain ⟨parts, _, exponent, _, rfl⟩ := read
  exact nearest_number _ _

def unsignedPart : List Char → List Char
  | '-' :: rest => rest
  | '+' :: rest => rest
  | text => text

def spellsNaN (text : List Char) : Bool := (unsignedPart text).map Char.toLower = "nan".toList

theorem magnitude_nan_iff (text : List Char) :
    (∃ x, (named? text).or (unsigned? text) = some x ∧ x.isNaN = true) ↔ text.map Char.toLower = "nan".toList := by
  unfold named?
  dsimp only
  by_cases infinite : text.map Char.toLower = "inf".toList ∨ text.map Char.toLower = "infinity".toList
  · rw [if_pos infinite]
    refine iff_of_false ?_ ?_
    · rintro ⟨x, read, unequal⟩
      cases read
      exact absurd unequal (by decide)
    · intro same
      rw [same] at infinite
      exact absurd infinite (by decide)
  · rw [if_neg infinite]
    by_cases named : text.map Char.toLower = "nan".toList
    · rw [if_pos named]
      exact iff_of_true ⟨0.0 / 0.0, rfl, by decide⟩ named
    · rw [if_neg named]
      refine iff_of_false ?_ named
      rintro ⟨x, read, unequal⟩
      rw [Option.none_or] at read
      rw [unsigned_number text x read] at unequal
      cases unequal

theorem decimal_signed (text : List Char) :
    let magnitude := (named? (unsignedPart text)).or (unsigned? (unsignedPart text))
    decimal? text = magnitude ∨ decimal? text = magnitude.map Float.neg := by
  fun_cases unsignedPart text with
  | case1 rest => exact Or.inr rfl
  | case2 rest => exact Or.inl rfl
  | case3 other minus plus =>
      left
      unfold decimal?
      split
      rename_i signed
      split at signed
      · exact absurd rfl (minus _)
      · exact absurd rfl (plus _)
      · cases signed
        rfl

-- No other text is read as what is not a number.
theorem decimal_nan_iff (text : List Char) :
    (∃ x, decimal? text = some x ∧ x.isNaN = true) ↔ spellsNaN text = true := by
  rw [spellsNaN, decide_eq_true_iff, ← magnitude_nan_iff]
  rcases decimal_signed text with plain | negated
  · rw [plain]
  · rw [negated]
    constructor
    · rintro ⟨x, read, unequal⟩
      obtain ⟨y, magnitude, rfl⟩ := Option.map_eq_some_iff.mp read
      exact ⟨y, magnitude, (nan_negated y).symm.trans unequal⟩
    · rintro ⟨y, magnitude, unequal⟩
      exact ⟨-y, by rw [magnitude]; rfl, (nan_negated y).trans unequal⟩

end Number

namespace Word

open Number (whole_number nan_negated)

theorem converted_number (n : Int64) : (toFloat n).isNaN = false := by
  unfold toFloat
  dsimp only
  split
  · rw [nan_negated, whole_number]
  · rw [whole_number]

end Word

end StatementMapper
