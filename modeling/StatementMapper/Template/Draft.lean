import StatementMapper.Text.Blank
import StatementMapper.Value

set_option autoImplicit false

namespace StatementMapper.Template

structure Draft where
  sql : List Char := []
  bindings : Table String Value := []
  next : Nat := 0

namespace Draft

def fuses (left right : List Char) : Bool :=
  match left.getLast?, right.head? with
  | some last, some first => !Text.isBlank last && !Text.isBlank first
  | _, _ => false

def joined (left right : List Char) : List Char :=
  if fuses left right then left ++ ' ' :: right else left ++ right

def append (fragment : List Char) (draft : Draft) : Draft := { draft with sql := joined draft.sql fragment }

def bind (name : String) (value : Value) (draft : Draft) : Draft :=
  { draft with bindings := Table.put name value draft.bindings }

def fresh (draft : Draft) : Nat × Draft := (draft.next, { draft with next := draft.next + 1 })

def aside (draft : Draft) : Draft := { draft with sql := [] }

def resume (outer : Draft) (inner : Draft) : Draft := { inner with sql := outer.sql }

def finish (draft : Draft) : List Char := Text.trim draft.sql

end Draft

end StatementMapper.Template
