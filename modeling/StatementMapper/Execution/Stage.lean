import StatementMapper.Cache.Buffer

set_option autoImplicit false

namespace StatementMapper

structure Own where
  closed : Bool := false
  kept : Cache.Perpetual := {}
  buffers : Cache.Buffers := []

structure Stage (T W : Type) where
  own : Own
  shared : Cache.Shared T
  world : W

namespace Stage

variable {T W A : Type}

def inWorld (action : Action W A) : Action (Stage T W) A :=
  Action.within world (fun world stage => { stage with world }) action

def staging (stage : Stage T W) : Cache.Staging T := ⟨stage.own.buffers, stage.shared⟩

def setStaging (staging : Cache.Staging T) (stage : Stage T W) : Stage T W :=
  { stage with own := { stage.own with buffers := staging.buffers }, shared := staging.shared }

def inStaging (action : Action (Cache.Staging T) A) : Action (Stage T W) A :=
  Action.within staging setStaging action

def changeOwn (f : Own → Own) : Action (Stage T W) Unit :=
  Action.change fun stage => { stage with own := f stage.own }

end Stage

end StatementMapper
