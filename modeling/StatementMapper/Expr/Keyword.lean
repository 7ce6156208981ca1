import StatementMapper.Text.Character

set_option autoImplicit false

namespace StatementMapper

inductive Keyword where
  | and
  | or
  | not
  | is
  | null
  | in
  | true
  | false
deriving DecidableEq, Repr

namespace Keyword

def ofWord? (word : List Char) : Option Keyword :=
  match String.ofList (Text.lower word) with
  | "and" => some and
  | "or" => some or
  | "not" => some not
  | "is" => some is
  | "null" => some null
  | "in" => some .in
  | "true" => some .true
  | "false" => some .false
  | _ => none

end Keyword

end StatementMapper
