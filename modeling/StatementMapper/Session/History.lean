import StatementMapper.Session

set_option autoImplicit false

namespace StatementMapper.Session

variable {T W : Type} [Cache.Store T]

inductive Operation (T W : Type) where
  | list (id : String) (parameter : Parameter) (bounds : Bounds)
  | one (id : String) (parameter : Parameter)
  | each (id : String) (parameter : Parameter) (bounds : Bounds) (receiver : RowHandler (Stage T W))
  | update (id : String) (parameter : Parameter)
  | commit (forced : Bool)
  | rollback (forced : Bool)
  | clearCache
  | close

inductive Answer where
  | rows (rows : Rows)
  | row (row : Option (List Value))
  | count (count : Nat)
  | done

def perform (session : Session T W) : Operation T W → Action (Work T W) Answer
  | .list id parameter bounds => do
    let rows ← session.selectList id parameter bounds
    pure (.rows rows)
  | .one id parameter => do
    let row ← session.selectOne id parameter
    pure (.row row)
  | .each id parameter bounds receiver => do
    session.selectEach id parameter bounds receiver
    pure .done
  | .update id parameter => do
    let count ← session.update id parameter
    pure (.count count)
  | .commit forced => do
    session.commit forced
    pure .done
  | .rollback forced => do
    session.rollback forced
    pure .done
  | .clearCache => do
    session.clearCache
    pure .done
  | .close => do
    session.close
    pure .done

def history (session : Session T W) (operations : List (Operation T W)) (work : Work T W) : Work T W :=
  operations.foldl (fun work operation => ((session.perform operation).run work).2) work

end StatementMapper.Session
