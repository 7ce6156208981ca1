import StatementMapper.Cache.Region

set_option autoImplicit false

/-! Buffers: what a session keeps back from a shared region until it commits. They and their entries stand in the order in
which they came; `Proofs.Cache.Assorted` visits the buffers and `Proofs.Cache.Eviction` the entries in any other. -/

namespace StatementMapper.Cache

structure Buffer where
  clearing : Bool := false
  entries : Table Key Rows := []

namespace Buffer

variable {T : Type} [Store T]

def put (key : Key) (rows : Rows) (buffer : Buffer) : Buffer :=
  { buffer with entries := Table.put key rows buffer.entries }

def cleared : Buffer := ⟨true, []⟩

def pending (buffer : Buffer) : Nat := buffer.entries.length

def get (buffer : Buffer) (now : Nat) (key : Key) : Action (Region T) (Option Rows) :=
  match Table.get? key buffer.entries with
  | some rows => pure (some rows)
  | none => if buffer.clearing then pure none else Region.get now key

def publish (buffer : Buffer) (now : Nat) : Action (Region T) Unit :=
  Region.apply now buffer.clearing buffer.entries

end Buffer

abbrev Buffers := Table String Buffer

structure Staging (T : Type) where
  buffers : Buffers
  shared : Shared T

namespace Staging

variable {T A : Type} [Store T]

def buffer (id : String) (staging : Staging T) : Buffer := (Table.get? id staging.buffers).getD {}

def alter (id : String) (f : Buffer → Buffer) (staging : Staging T) : Staging T :=
  { staging with buffers := Table.put id (f (staging.buffer id)) staging.buffers }

def inShared (action : Action (Shared T) A) : Action (Staging T) A :=
  Action.within shared (fun shared staging => { staging with shared }) action

def get (id : String) (key : Key) : Action (Staging T) (Option Rows) := do
  Action.change (alter id fun buffer => buffer)
  let buffer ← Action.look (buffer id)
  inShared (Shared.inRegion id none fun now => buffer.get now key)

def put (id : String) (key : Key) (rows : Rows) : Action (Staging T) Unit :=
  Action.change (alter id (Buffer.put key rows))

def clear (id : String) : Action (Staging T) Unit := Action.change (alter id fun _ => Buffer.cleared)

def checkpoint (id : String) (staging : Staging T) : Option Buffer := Table.get? id staging.buffers

-- Goes back to a checkpoint; where there was no buffer there is none again.
def restore (id : String) (checkpoint : Option Buffer) (staging : Staging T) : Staging T :=
  match checkpoint with
  | some buffer => { staging with buffers := Table.put id buffer staging.buffers }
  | none => { staging with buffers := Table.erase id staging.buffers }

-- Publishes some buffers. A failure does not keep the others back; the first one is the outcome.
def publishAll : List (String × Buffer) → Action (Shared T) Unit
  | [] => pure ()
  | (id, buffer) :: rest => do
    let first ← Action.attempt (Shared.inRegion id () buffer.publish)
    let others ← Action.attempt (publishAll rest)
    Action.ofExcept (first.bind fun _ => others)

def emptied (buffers : Buffers) : Buffers := buffers.map fun entry => (entry.1, {})

-- Publishes all buffers; they are empty then, whatever the outcome.
def commit : Action (Staging T) Unit := do
  let buffers ← Action.look buffers
  Action.change fun staging => { staging with buffers := emptied staging.buffers }
  inShared (publishAll buffers)

def rollback : Action (Staging T) Unit :=
  Action.change fun staging => { staging with buffers := emptied staging.buffers }

end Staging

end StatementMapper.Cache
