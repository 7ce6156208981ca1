import StatementMapper.Number.Word

set_option autoImplicit false

namespace StatementMapper

structure Bounds where
  offset : Nat
  limit : Nat
deriving DecidableEq, Repr

namespace Bounds

def unlimited : Nat := Word.bound64 - 1

def all : Bounds := ⟨0, unlimited⟩

def isAll (bounds : Bounds) : Bool := bounds = all

end Bounds

end StatementMapper
