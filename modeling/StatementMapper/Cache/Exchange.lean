import StatementMapper.Cache.Buffer

set_option autoImplicit false

namespace StatementMapper.Cache

inductive Move where
  | get (region : String) (key : Key)
  | put (region : String) (key : Key) (rows : Rows)
  | clear (region : String)
  | checkpoint (region : String)
  | restore (region : String)
  | commit
  | rollback

inductive Answer where
  | found (rows : Option Rows)
  | remembered (there : Bool)
  | done

structure Exchange (T : Type) where
  shared : Shared T
  buffers : Table String Buffers := []
  remembered : Table (String × String) Buffer := []

namespace Exchange

variable {T A : Type} [Store T]

def buffersOf (session : String) (exchange : Exchange T) : Buffers := (Table.get? session exchange.buffers).getD []

def stagingOf (session : String) (exchange : Exchange T) : Staging T := ⟨exchange.buffersOf session, exchange.shared⟩

def settle (session : String) (staging : Staging T) (exchange : Exchange T) : Exchange T :=
  { exchange with shared := staging.shared, buffers := Table.put session staging.buffers exchange.buffers }

def as (session : String) (action : Action (Staging T) A) : Action (Exchange T) A :=
  Action.within (stagingOf session) (settle session) action

def forget (session region : String) (exchange : Exchange T) : Exchange T :=
  { exchange with remembered := Table.erase (session, region) exchange.remembered }

def remember (session region : String) (buffer : Option Buffer) (exchange : Exchange T) : Exchange T :=
  match buffer with
  | some buffer => { exchange with remembered := Table.put (session, region) buffer exchange.remembered }
  | none => exchange.forget session region

def perform (session : String) : Move → Action (Exchange T) Answer
  | .get region key => do
    let rows ← as session (Staging.get region key)
    pure (.found rows)
  | .put region key rows => do
    as session (Staging.put region key rows)
    pure .done
  | .clear region => do
    as session (Staging.clear region)
    pure .done
  | .checkpoint region => do
    let buffer ← as session (Action.look (Staging.checkpoint region))
    Action.change (remember session region buffer)
    pure (.remembered buffer.isSome)
  | .restore region => do
    let buffer ← Action.look fun exchange => Table.get? (session, region) exchange.remembered
    Action.change (forget session region)
    as session (Action.change (Staging.restore region buffer))
    pure .done
  | .commit => do
    as session Staging.commit
    pure .done
  | .rollback => do
    as session Staging.rollback
    pure .done

def performAll (exchange : Exchange T) (moves : List (String × Move)) : Exchange T :=
  moves.foldl (fun exchange move => ((perform move.1 move.2).run exchange).2) exchange

end Exchange

end StatementMapper.Cache
