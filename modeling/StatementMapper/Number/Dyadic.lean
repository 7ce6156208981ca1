set_option autoImplicit false

namespace StatementMapper.Number

structure Dyadic where
  negative : Bool
  mantissa : Nat
  exponent : Int
deriving DecidableEq, Repr

namespace Dyadic

def ofFloat? (x : Float) : Option Dyadic :=
  let bits := x.toBits.toNat
  let negative := bits / Nat.pow 2 63 == 1
  let scale : Nat := bits / Nat.pow 2 52 % Nat.pow 2 11
  let fraction : Nat := bits % Nat.pow 2 52
  if scale = 2047 then none
  else if scale = 0 then some ⟨negative, fraction, -1074⟩
  else some ⟨negative, Nat.pow 2 52 + fraction, (scale : Int) - 1075⟩

-- The double with these parts, where the mantissa has at most 53 bits and the exponent is at least -1074.
def toFloat (d : Dyadic) : Float :=
  let sign := if d.negative then Nat.pow 2 63 else 0
  if d.mantissa = 0 then Float.ofBits (UInt64.ofNat sign)
  else
    let shift := min (52 - d.mantissa.log2) (d.exponent + 1074).toNat
    let mantissa := d.mantissa * Nat.pow 2 shift
    let scale := (d.exponent - shift + 1075).toNat
    let magnitude := if mantissa < Nat.pow 2 52 then mantissa else scale * Nat.pow 2 52 + (mantissa - Nat.pow 2 52)
    Float.ofBits (UInt64.ofNat (sign + magnitude))

def truncate (d : Dyadic) : Int :=
  let magnitude := match d.exponent with
    | .ofNat e => d.mantissa * Nat.pow 2 e
    | .negSucc e => d.mantissa / Nat.pow 2 (e + 1)
  if d.negative then -magnitude else magnitude

def remainder (a b : Dyadic) : Dyadic :=
  let exponent := min a.exponent b.exponent
  let dividend := a.mantissa * Nat.pow 2 (a.exponent - exponent).toNat
  let divisor := b.mantissa * Nat.pow 2 (b.exponent - exponent).toNat
  ⟨a.negative, dividend % divisor, exponent⟩

end Dyadic

def truncate? (x : Float) : Option Int := (Dyadic.ofFloat? x).map Dyadic.truncate

-- The remainder of a division that rounds its quotient toward zero. An infinite divisor leaves the dividend.
def remainder (x y : Float) : Float :=
  match Dyadic.ofFloat? x, Dyadic.ofFloat? y with
  | some a, some b => if b.mantissa = 0 then 0.0 / 0.0 else (Dyadic.remainder a b).toFloat
  | some _, none => if y.isNaN then y else x
  | none, _ => 0.0 / 0.0

end StatementMapper.Number
