import StatementMapper.Session

set_option autoImplicit false

namespace StatementMapper

structure Seat (T W : Type) where
  session : Session T W
  dirty : Bool := false
  own : Own := {}

structure Sessions (T W : Type) where
  shared : Cache.Shared T
  world : W
  seats : Table String (Seat T W) := []

namespace Sessions

variable {T W A : Type} [Cache.Store T]

def onWorld (action : Action W A) : Action (Sessions T W) A :=
  Action.within world (fun world sessions => { sessions with world }) action

def onShared (action : Action (Cache.Shared T) A) : Action (Sessions T W) A :=
  Action.within shared (fun shared sessions => { sessions with shared }) action

def seat? (name : String) (sessions : Sessions T W) : Option (Seat T W) := Table.get? name sessions.seats

def workOf (seat : Seat T W) (sessions : Sessions T W) : Work T W :=
  ⟨seat.dirty, ⟨seat.own, sessions.shared, sessions.world⟩⟩

def settle (name : String) (seat : Seat T W) (work : Work T W) (sessions : Sessions T W) : Sessions T W where
  shared := work.stage.shared
  world := work.stage.world
  seats := Table.put name { seat with dirty := work.dirty, own := work.stage.own } sessions.seats

def perform (name : String) (seat : Seat T W) (action : Action (Work T W) A) : Action (Sessions T W) A :=
  Action.within (workOf seat) (settle name seat) action

-- Gives a session a name; an earlier one of that name is forgotten as it is.
def place (name : String) (session : Session T W) : Action (Sessions T W) Unit :=
  Action.change fun sessions => { sessions with seats := Table.put name { session } sessions.seats }

-- Gives a session a name. An earlier one of that name is closed, whatever comes of that.
def seat (name : String) (session : Session T W) : Action (Sessions T W) Unit := do
  let earlier ← Action.look (seat? name)
  match earlier with
  | some seat => do
    let _ ← Action.attempt (perform name seat seat.session.close)
    pure ()
  | none => pure ()
  place name session

def drop (name : String) : Action (Sessions T W) Bool := do
  let found ← Action.look (seat? name)
  match found with
  | none => pure false
  | some seat => do
    let _ ← Action.attempt (perform name seat seat.session.close)
    Action.change fun sessions => { sessions with seats := Table.erase name sessions.seats }
    pure true

def isClosed (seat : Seat T W) (sessions : Sessions T W) : Bool := seat.session.isClosed (workOf seat sessions)

end Sessions

end StatementMapper
