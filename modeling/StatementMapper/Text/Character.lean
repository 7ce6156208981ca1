import StatementMapper.Text.Ranges

set_option autoImplicit false

namespace StatementMapper.Text

def within (ranges : List (Nat × Nat)) (code : Nat) : Bool :=
  ranges.any fun range => range.1 ≤ code && code ≤ range.2

-- White space as the Unicode property of that name defines it.
def isBlank (c : Char) : Bool :=
  let code := c.toNat
  (9 ≤ code && code ≤ 13) || code == 32 || code == 0x85 || code == 0xA0 || code == 0x1680 ||
    (0x2000 ≤ code && code ≤ 0x200A) || code == 0x2028 || code == 0x2029 || code == 0x202F ||
    code == 0x205F || code == 0x3000

def isLetter (c : Char) : Bool :=
  if c.toNat < 128 then c.isAlpha else within letterRanges c.toNat

def isAlphanumeric (c : Char) : Bool :=
  if c.toNat < 128 then c.isAlphanum else within letterRanges c.toNat || within numberRanges c.toNat

-- Characters that continue a name in markup: letters, marks, decimal digits, connectors and joiners.
def isWordChar (c : Char) : Bool :=
  if c.toNat < 128 then c.isAlphanum || c == '_'
  else within letterRanges c.toNat || within connectorRanges c.toNat

def upper (text : List Char) : List Char := text.map Char.toUpper

def lower (text : List Char) : List Char := text.map Char.toLower

end StatementMapper.Text
