import StatementMapper.Text.Numeral
import StatementMapper.Text.Search

set_option autoImplicit false

namespace StatementMapper.Markup

def character? (code : Nat) : Option Char :=
  if code.isValidChar then some (Char.ofNat code) else none

def entity? (name : List Char) : Option Char :=
  match name with
  | ['l', 't'] => some '<'
  | ['g', 't'] => some '>'
  | ['a', 'm', 'p'] => some '&'
  | ['q', 'u', 'o', 't'] => some '"'
  | ['a', 'p', 'o', 's'] => some '\''
  | '#' :: 'x' :: digits => (Text.hexadecimal? digits).bind character?
  | '#' :: digits => (Text.natural? digits).bind character?
  | _ => none

def reference? (text : List Char) : Option (Char × List Char) :=
  match Text.splitFirst ';' text with
  | (name, some rest) => (entity? name).map (·, rest)
  | (_, none) => none

def decode (text : List Char) : List Char :=
  match text with
  | [] => []
  | c :: rest =>
    match (if c = '&' then reference? rest else none) with
    | some (decoded, tail) => if tail.length ≤ rest.length then decoded :: decode tail else [decoded]
    | none => c :: decode rest
termination_by text.length

end StatementMapper.Markup
