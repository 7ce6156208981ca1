import StatementMapper.Value

set_option autoImplicit false

namespace StatementMapper.Cache

structure Key where
  parts : List Value
deriving DecidableEq

namespace Key

def empty : Key := ⟨[]⟩

def add (part : Value) (key : Key) : Key := ⟨key.parts ++ [part]⟩

def addAll (parts : List Value) (key : Key) : Key := ⟨key.parts ++ parts⟩

def count (key : Key) : Nat := key.parts.length

def display (key : Key) : String := String.intercalate ":" (key.parts.map Value.display)

end Key

end StatementMapper.Cache
