import StatementMapper.Action
import StatementMapper.Cache.Key
import StatementMapper.Rows
import StatementMapper.Table

set_option autoImplicit false

namespace StatementMapper.Cache

class Store (T : Type) where
  get : Key → Action T (Option Rows)
  put : Key → Rows → Action T Unit
  remove : Key → Action T (Option Rows)
  clear : Action T Unit
  size : T → Nat

structure Perpetual where
  entries : Table Key Rows := []

namespace Perpetual

def get? (key : Key) (store : Perpetual) : Option Rows := Table.get? key store.entries

def put (key : Key) (rows : Rows) (store : Perpetual) : Perpetual := ⟨Table.put key rows store.entries⟩

def remove (key : Key) (store : Perpetual) : Perpetual := ⟨Table.erase key store.entries⟩

instance : Store Perpetual where
  get key := Action.look (get? key)
  put key rows := Action.change (put key rows)
  remove key store := (.ok (store.get? key), store.remove key)
  clear := Action.change fun _ => {}
  size store := store.entries.length

end Perpetual

structure Lru where
  capacity : Nat
  entries : Table Key Rows := []
  capacity_positive : 0 < capacity

namespace Lru

def defaultCapacity : Nat := 1024

def ofCapacity (capacity : Nat) : Except Fault Lru :=
  if positive : 0 < capacity then .ok ⟨capacity, [], positive⟩ else .error (.cache .emptyLru)

def ofDefault : Lru := ⟨defaultCapacity, [], by decide⟩

def get? (key : Key) (store : Lru) : Option Rows := Table.get? key store.entries

def touch (key : Key) (store : Lru) : Lru :=
  match store.get? key with
  | some rows => { store with entries := (key, rows) :: Table.erase key store.entries }
  | none => store

def put (key : Key) (rows : Rows) (store : Lru) : Lru :=
  { store with entries := ((key, rows) :: Table.erase key store.entries).take store.capacity }

def remove (key : Key) (store : Lru) : Lru := { store with entries := Table.erase key store.entries }

instance : Store Lru where
  get key store := (.ok (store.get? key), store.touch key)
  put key rows := Action.change (put key rows)
  remove key store := (.ok (store.get? key), store.remove key)
  clear := Action.change fun store => { store with entries := [] }
  size store := store.entries.length

end Lru

end StatementMapper.Cache
