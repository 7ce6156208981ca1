set_option autoImplicit false

namespace StatementMapper.Text

def digitValue (c : Char) : Nat := c.toNat - '0'.toNat

def digitsValue (digits : List Char) : Nat :=
  digits.foldl (fun value c => value * 10 + digitValue c) 0

def natural? (text : List Char) : Option Nat :=
  if text.isEmpty || !text.all Char.isDigit then none else some (digitsValue text)

-- The value of a run of digits, after at most one plus sign, that lies below `bound`.
def bounded? (bound : Nat) (text : List Char) : Option Nat := do
  let digits := match text with
    | '+' :: rest => rest
    | _ => text
  let value ← natural? digits
  if value < bound then some value else none

def hexValue? (c : Char) : Option Nat :=
  if c.isDigit then some (c.toNat - '0'.toNat)
  else if 'a' ≤ c && c ≤ 'f' then some (c.toNat - 'a'.toNat + 10)
  else if 'A' ≤ c && c ≤ 'F' then some (c.toNat - 'A'.toNat + 10)
  else none

def hexadecimal? (text : List Char) : Option Nat :=
  if text.isEmpty then none
  else text.foldl (fun value c => do some ((← value) * 16 + (← hexValue? c))) (some 0)

end StatementMapper.Text
