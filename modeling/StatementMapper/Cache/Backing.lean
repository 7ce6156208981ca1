import StatementMapper.Cache.Store

set_option autoImplicit false

/-! A store that is out of reach refuses to find and to keep; removing and clearing succeed. -/

namespace StatementMapper.Cache

inductive Backing where
  | perpetual (store : Perpetual)
  | lru (store : Lru)
  | unreachable (cause : Fault)

namespace Backing

def unbounded : Backing := perpetual {}

def ofCapacity : Option Nat → Except Fault Backing
  | some capacity => (Lru.ofCapacity capacity).map lru
  | none => .ok (lru .ofDefault)

def capacity? : Backing → Option Nat
  | lru store => some store.capacity
  | _ => none

def use {A : Type} (action : (T : Type) → [Store T] → Action T A) (otherwise : Fault → Except Fault A) :
    Action Backing A := fun backing =>
  match backing with
  | perpetual store =>
    match action Perpetual store with
    | (outcome, after) => (outcome, perpetual after)
  | lru store =>
    match action Lru store with
    | (outcome, after) => (outcome, lru after)
  | unreachable cause => (otherwise cause, unreachable cause)

instance : Store Backing where
  get key := use (fun _ => Store.get key) .error
  put key rows := use (fun _ => Store.put key rows) .error
  remove key := use (fun _ => Store.remove key) fun _ => .ok none
  clear := use (fun _ => Store.clear) fun _ => .ok ()
  size
    | perpetual store => Store.size store
    | lru store => Store.size store
    | unreachable _ => 0

end Backing

end StatementMapper.Cache
