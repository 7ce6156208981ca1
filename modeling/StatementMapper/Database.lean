import StatementMapper.Action
import StatementMapper.Request
import StatementMapper.Rows

set_option autoImplicit false

namespace StatementMapper

structure Database (S : Type) where
  query : Request → Action S Rows
  execute : Request → Action S Nat
  commit : Action S Unit
  rollback : Action S Unit
  close : Action S Unit

def Database.within {S W : Type} (part : S → W) (replace : W → S → S) (database : Database W) : Database S where
  query request := Action.within part replace (database.query request)
  execute request := Action.within part replace (database.execute request)
  commit := Action.within part replace database.commit
  rollback := Action.within part replace database.rollback
  close := Action.within part replace database.close

-- A receiver of rows, numbered from 1. The answer says whether it wants no more.
structure RowHandler (S : Type) where
  receive : Nat → List String → List Value → S → Bool × S

namespace RowHandler

def feed {S : Type} (handler : RowHandler S) (columns : List String) (number : Nat) :
    List (List Value) → Action S Unit
  | [] => pure ()
  | row :: rest => fun state =>
    match handler.receive number columns row state with
    | (true, after) => (.ok (), after)
    | (false, after) => feed handler columns (number + 1) rest after

end RowHandler

end StatementMapper
