set_option autoImplicit false

namespace StatementMapper

inductive Kind where
  | null
  | integer
  | float
  | text
  | boolean
  | list
  | map
deriving DecidableEq, Repr

def Kind.name : Kind → String
  | .null => "NULL"
  | .integer => "INTEGER"
  | .float => "FLOAT"
  | .text => "TEXT"
  | .boolean => "BOOLEAN"
  | .list => "LIST"
  | .map => "MAP"

end StatementMapper
