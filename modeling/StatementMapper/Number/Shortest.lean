import StatementMapper.Number.Dyadic

set_option autoImplicit false

/-! The fewest digits that read back to a double, and of those the nearest, written without exponent. -/

namespace StatementMapper.Number

-- The interval of the reals that round to a positive rational; its ends belong to it when `closed`.
structure Rounding where
  low : Nat
  value : Nat
  high : Nat
  denominator : Nat
  closed : Bool

namespace Rounding

-- Below a power of two the neighbour is half as far away.
def ofParts (mantissa : Nat) (exponent : Int) : Rounding :=
  let quarter := exponent - 2
  let factor := Nat.pow 2 quarter.toNat
  let below := if mantissa = Nat.pow 2 52 ∧ -1074 < exponent then 1 else 2
  { low := (4 * mantissa - below) * factor
    value := 4 * mantissa * factor
    high := (4 * mantissa + 2) * factor
    denominator := Nat.pow 2 (-quarter).toNat
    closed := mantissa % 2 = 0 }

def contains (r : Rounding) (numerator : Nat) : Bool :=
  if r.closed then r.low ≤ numerator && numerator ≤ r.high else r.low < numerator && numerator < r.high

def rescale (r : Rounding) (power : Int) : Rounding :=
  let up := Nat.pow 10 (-power).toNat
  { r with
    low := r.low * up
    value := r.value * up
    high := r.high * up
    denominator := r.denominator * Nat.pow 10 power.toNat }

-- The integer in the interval that is nearest to the value, if there is one; of two equally near the larger.
def integer? (r : Rounding) : Option Nat :=
  let down := r.value / r.denominator
  let up := down + 1
  match r.contains (down * r.denominator), r.contains (up * r.denominator) with
  | true, true =>
    if r.value - down * r.denominator < up * r.denominator - r.value then some down else some up
  | true, false => some down
  | false, true => some up
  | false, false => none

def magnitude (r : Rounding) : Int :=
  let estimate := ((r.value.log2 : Int) - r.denominator.log2) * 30103 / 100000 - 1
  let below (p : Int) : Bool := r.value * Nat.pow 10 (-p).toNat < r.denominator * Nat.pow 10 p.toNat
  match [estimate, estimate + 1, estimate + 2, estimate + 3].find? below with
  | some p => p
  | none => estimate + 4

def shortest (r : Rounding) : Nat × Int :=
  let size := r.magnitude
  let grids := (List.range 17).map fun (n : Nat) => size - (n + 1 : Nat)
  match grids.findSome? fun power => ((r.rescale power).integer?).map (·, power) with
  | some found => found
  | none => (r.value, 0)

end Rounding

def positional (digits : Nat) (power : Int) : List Char :=
  let written := (Nat.repr digits).toList
  match power with
  | .ofNat zeros => written ++ List.replicate zeros '0'
  | .negSucc n =>
    let places := n + 1
    let padded := List.replicate (places + 1 - written.length) '0' ++ written
    let whole := padded.take (padded.length - places)
    let fraction := (padded.drop (padded.length - places)).reverse.dropWhile (· == '0')
    if fraction.isEmpty then whole else whole ++ '.' :: fraction.reverse

def text (x : Float) : String :=
  match Dyadic.ofFloat? x with
  | none => if x.isNaN then "NaN" else if x < 0.0 then "-inf" else "inf"
  | some d =>
    let sign := if d.negative then ['-'] else []
    if d.mantissa = 0 then String.ofList (sign ++ ['0'])
    else
      let (digits, power) := (Rounding.ofParts d.mantissa d.exponent).shortest
      String.ofList (sign ++ positional digits power)

end StatementMapper.Number
