import StatementMapper.Cache.Key

set_option autoImplicit false

/-! Keys as they are built part by part; they are compared by their numbers first. -/

namespace StatementMapper.Cache

-- All of it is arithmetic of words, which wraps.
structure Fingerprint where
  code : Int64 := 17
  checksum : Int64 := 0
  count : Int64 := 0
deriving DecidableEq

namespace Fingerprint

def multiplier : Int64 := 37

-- What a part counts for. Equal values have one hash; nothing else is known of it.
def weight (hash : Value → Int64) (part : Value) : Int64 := if part.isNull then 1 else hash part

def add (hash : Value → Int64) (part : Value) (numbers : Fingerprint) : Fingerprint :=
  let count := numbers.count + 1
  { code := multiplier * numbers.code + weight hash part * count
    checksum := numbers.checksum + weight hash part
    count := count }

end Fingerprint

structure HashedKey where
  numbers : Fingerprint := {}
  parts : List Value := []

namespace HashedKey

def add (hash : Value → Int64) (part : Value) (key : HashedKey) : HashedKey :=
  ⟨key.numbers.add hash part, key.parts ++ [part]⟩

def addAll (hash : Value → Int64) (parts : List Value) (key : HashedKey) : HashedKey :=
  parts.foldl (fun key part => key.add hash part) key

def same (one other : HashedKey) : Bool := one.numbers = other.numbers ∧ one.parts = other.parts

end HashedKey

def Key.hashed (hash : Value → Int64) (key : Key) : HashedKey := HashedKey.addAll hash key.parts {}

end StatementMapper.Cache
