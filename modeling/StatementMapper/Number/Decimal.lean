import StatementMapper.Text.Numeral

set_option autoImplicit false

/-! An optional sign and a named value, or digits with an optional point and exponent; each is rounded to the nearest. -/

namespace StatementMapper.Number

def mantissa? (text : List Char) : Option (List Char × Nat × List Char) :=
  let whole := text.takeWhile Char.isDigit
  let (fraction, rest) := match text.dropWhile Char.isDigit with
    | '.' :: tail => (tail.takeWhile Char.isDigit, tail.dropWhile Char.isDigit)
    | tail => ([], tail)
  if whole.isEmpty && fraction.isEmpty then none else some (whole ++ fraction, fraction.length, rest)

def exponent? : List Char → Option Int
  | [] => some 0
  | mark :: rest =>
    if mark = 'e' ∨ mark = 'E' then
      match rest with
      | '-' :: digits => (Text.natural? digits).map fun n => -(n : Int)
      | '+' :: digits => (Text.natural? digits).map Int.ofNat
      | digits => (Text.natural? digits).map Int.ofNat
    else none

-- The double nearest to `digits * 10 ^ exponent`. Beyond the range of doubles no power of ten is computed.
def nearest (digits : List Char) (exponent : Int) : Float :=
  let value := Text.digitsValue digits
  let size : Int := (digits.dropWhile (· == '0')).length + exponent
  if value = 0 ∨ size < -330 then 0.0
  else if 330 < size then 1.0 / 0.0
  else match exponent with
    | .ofNat e => Float.ofScientific value false e
    | .negSucc e => Float.ofScientific value true (e + 1)

def unsigned? (text : List Char) : Option Float := do
  let (digits, places, rest) ← mantissa? text
  let exponent ← exponent? rest
  some (nearest digits (exponent - places))

def named? (text : List Char) : Option Float :=
  let name := text.map Char.toLower
  if name = "inf".toList ∨ name = "infinity".toList then some (1.0 / 0.0)
  else if name = "nan".toList then some (0.0 / 0.0)
  else none

def decimal? (text : List Char) : Option Float :=
  let (negative, magnitude) := match text with
    | '-' :: rest => (true, rest)
    | '+' :: rest => (false, rest)
    | _ => (false, text)
  let value := (named? magnitude).or (unsigned? magnitude)
  if negative then value.map Float.neg else value

end StatementMapper.Number
