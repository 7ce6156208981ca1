import StatementMapper.Document

set_option autoImplicit false

namespace StatementMapper

inductive Parameter where
  | none
  | value (v : Value)
  | document (d : Document)
  | table (fields : Table String Value)

namespace Parameter

def follow? (rest : Option String) (v : Value) : Option Value :=
  match rest with
  | .none => some v
  | .some path => v.getPath? path

-- The value at a dotted path. A path that does not exist differs from one that leads to null.
def lookup? (path : String) : Parameter → Option Value
  | none => .none
  | value v => v.getPath? path
  | document d => (d.getPath? path).map Document.toValue
  | table fields =>
    let (head, rest) := Value.splitPath path
    (Table.get? head fields).bind (follow? rest)

def toValue : Parameter → Value
  | none => .null
  | value v => v
  | document d => d.toValue
  | table fields => .ofFields fields

def isNone : Parameter → Bool
  | none => true
  | _ => false

def isScalar : Parameter → Bool
  | none => false
  | value v => v.isScalar
  | document d => d.isScalar
  | table _ => false

def same (a b : Parameter) : Bool := a.isNone == b.isNone && a.toValue == b.toValue

end Parameter

end StatementMapper
