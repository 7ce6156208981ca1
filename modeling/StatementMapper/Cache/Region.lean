import StatementMapper.Cache.Store

set_option autoImplicit false

/-! A region empties itself when its interval has passed. The time is an argument, in milliseconds. -/

namespace StatementMapper.Cache

structure Region (T : Type) where
  id : String
  interval : Option Nat
  store : T
  requests : Nat := 0
  hits : Nat := 0
  clearedAt : Nat := 0

namespace Region

variable {T A : Type} [Store T]

def inStore (action : Action T A) : Action (Region T) A :=
  Action.within store (fun store region => { region with store }) action

def isStale (now : Nat) (region : Region T) : Bool :=
  match region.interval with
  | some interval => interval ≤ now - region.clearedAt
  | none => false

def clear (now : Nat) : Action (Region T) Unit := do
  inStore Store.clear
  Action.change fun region => { region with clearedAt := now }

def clearWhenStale (now : Nat) : Action (Region T) Unit := do
  let stale ← Action.look (isStale now)
  if stale then clear now else pure ()

-- The rows under a key. A request counts even if the store refuses it.
def get (now : Nat) (key : Key) : Action (Region T) (Option Rows) := do
  clearWhenStale now
  Action.change fun region => { region with requests := region.requests + 1 }
  let found ← inStore (Store.get key)
  if found.isSome then Action.change fun region => { region with hits := region.hits + 1 }
  pure found

def put (now : Nat) (key : Key) (rows : Rows) : Action (Region T) Unit := do
  clearWhenStale now
  inStore (Store.put key rows)

def putAll : List (Key × Rows) → Action (Region T) Unit
  | [] => pure ()
  | (key, rows) :: rest => do
    inStore (Store.put key rows)
    putAll rest

def apply (now : Nat) (clearing : Bool) (entries : Table Key Rows) : Action (Region T) Unit := do
  if clearing then clear now
  putAll entries

def size (region : Region T) : Nat := Store.size region.store

def hitRatio (region : Region T) : Float :=
  if region.requests = 0 then 0 else region.hits.toFloat / region.requests.toFloat

end Region

structure Shared (T : Type) where
  regions : Table String (Region T)
  now : Nat := 0

namespace Shared

variable {T A : Type} [Store T]

def register (region : Region T) (shared : Shared T) : Except Fault (Shared T) :=
  if Table.contains region.id shared.regions then .error (.settings (.regionExists region.id))
  else .ok { shared with regions := Table.put region.id region shared.regions }

def inRegion (id : String) (absent : A) (action : Nat → Action (Region T) A) : Action (Shared T) A :=
  fun shared =>
    match Table.get? id shared.regions with
    | none => (.ok absent, shared)
    | some region =>
      match action shared.now region with
      | (outcome, after) => (outcome, { shared with regions := Table.put id after shared.regions })

end Shared

end StatementMapper.Cache
