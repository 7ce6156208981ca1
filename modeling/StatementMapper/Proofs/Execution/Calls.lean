import StatementMapper.Proofs.Execution.Buffering

set_option autoImplicit false

namespace StatementMapper

open Cache

def Outstanding {A : Type} (opens ends : A → Prop) : List A → Prop
  | [] => False
  | step :: rest => Outstanding opens ends rest ∨ opens step ∧ ∀ later ∈ rest, ¬ ends later

theorem outstanding_append {A : Type} (opens ends : A → Prop) (steps more : List A) :
    Outstanding opens ends (steps ++ more) ↔
      Outstanding opens ends more ∨ Outstanding opens ends steps ∧ ∀ later ∈ more, ¬ ends later := by
  induction steps with
  | nil => simp [Outstanding]
  | cons step rest ih =>
      simp only [List.cons_append, Outstanding, ih, List.mem_append, or_imp, forall_and, or_and_right, or_assoc, and_assoc]

theorem outstanding_of_mem {A : Type} (opens ends : A → Prop) (steps : List A) (outstanding : Outstanding opens ends steps) :
    ∃ step ∈ steps, opens step := by
  induction steps with
  | nil => exact outstanding.elim
  | cons step rest ih =>
      rcases outstanding with later | ⟨here, _⟩
      · obtain ⟨other, member, opened⟩ := ih later
        exact ⟨other, List.mem_cons_of_mem _ member, opened⟩
      · exact ⟨step, List.mem_cons_self, here⟩

inductive Ask where
  | query
  | execute
  | commit
  | rollback
  | close
deriving DecidableEq

structure Call where
  ask : Ask
  fine : Bool
deriving DecidableEq

namespace Call

def Writes (call : Call) : Prop := call.ask = .execute

def Ends (call : Call) : Prop := (call.ask = .commit ∨ call.ask = .rollback) ∧ call.fine = true

-- A write, whatever came of it, since the last commit or rollback that succeeded.
def Dangling (calls : List Call) : Prop := Outstanding Writes Ends calls

def ending (ask : Ask) (required fine : Bool) : List Call := if required then [⟨ask, fine⟩] else []

theorem ending_kind (ask : Ask) (required fine : Bool) : ∀ call ∈ ending ask required fine, call.ask = ask := by
  cases required with
  | true => exact fun call member => by rw [List.mem_singleton.mp member]
  | false => exact nofun

end Call

structure Logged (W : Type) where
  world : W
  calls : List Call := []

def Logged.noting {W A : Type} (ask : Ask) (action : Action W A) : Action (Logged W) A := fun logged =>
  match action.run logged.world with
  | (outcome, world) => (outcome, ⟨world, logged.calls ++ [⟨ask, outcome.isOk⟩]⟩)

def Database.logged {W : Type} (database : Database W) : Database (Logged W) where
  query request := Logged.noting .query (database.query request)
  execute request := Logged.noting .execute (database.execute request)
  commit := Logged.noting .commit database.commit
  rollback := Logged.noting .rollback database.rollback
  close := Logged.noting .close database.close

variable {T W A : Type}

def RowHandler.Quiet (receiver : RowHandler (Stage T (Logged W))) : Prop :=
  ∀ number columns row stage,
    (receiver.receive number columns row stage).2.own.closed = stage.own.closed ∧
      (receiver.receive number columns row stage).2.world.calls = stage.world.calls

namespace Stage

structure Asked (ask : Ask) (start stage : Stage T (Logged W)) : Prop where
  closed : stage.own.closed = start.own.closed
  calls : ∃ later, stage.world.calls = start.world.calls ++ later ∧ ∀ call ∈ later, call.ask = ask

def Asks (ask : Ask) (start : Stage T (Logged W)) (action : Action (Stage T (Logged W)) A) : Prop :=
  Action.Keeps (Asked ask start) action

variable {ask : Ask} {start stage : Stage T (Logged W)}

theorem asked_refl (ask : Ask) (stage : Stage T (Logged W)) : Asked ask stage stage :=
  ⟨rfl, [], (List.append_nil _).symm, nofun⟩

theorem Asked.still (asked : Asked ask start stage) (after : Stage T (Logged W))
    (closed : after.own.closed = stage.own.closed) (calls : after.world.calls = stage.world.calls) :
    Asked ask start after :=
  ⟨closed.trans asked.closed, calls ▸ asked.calls⟩

theorem Asked.call (asked : Asked ask start stage) (world : W) (fine : Bool) :
    Asked ask start { stage with world := ⟨world, stage.world.calls ++ [⟨ask, fine⟩]⟩ } := by
  obtain ⟨later, grown, kind⟩ := asked.calls
  constructor
  · exact asked.closed
  · apply Exists.intro (later ++ [⟨ask, fine⟩])
    constructor
    · rw [grown, List.append_assoc]
    · intro call member
      rcases List.mem_append.mp member with before | here
      · exact kind call before
      · rw [List.mem_singleton.mp here]

theorem asks_noting (action : Action W A) : Asks ask start (Stage.inWorld (Logged.noting ask action)) :=
  Action.triple_of_after fun stage asked =>
    asked.call (action.run stage.world.world).2 (action.run stage.world.world).1.isOk

theorem asks_in_staging (action : Action (Staging T) A) : Asks ask start (Stage.inStaging action) :=
  Action.triple_of_after fun _ asked => asked.still _ rfl rfl

theorem asks_clear_local : Asks ask start Direct.clearLocal :=
  Direct.triple_clear_local fun _ asked => asked.still _ rfl rfl

end Stage

theorem RowHandler.asks_feed {ask : Ask} {start : Stage T (Logged W)} (receiver : RowHandler (Stage T (Logged W)))
    (quiet : receiver.Quiet) (columns : List String) (rows : List (List Value)) (number : Nat) :
    Stage.Asks ask start (receiver.feed columns number rows) := by
  apply RowHandler.triple_feed
  intro number columns row stage asked
  obtain ⟨closed, calls⟩ := quiet number columns row stage
  exact asked.still _ closed calls

namespace ResultSetHandler

theorem asks_deliver {ask : Ask} {start : Stage T (Logged W)} (bounds : Bounds)
    (receiver : Option (RowHandler (Stage T (Logged W)))) (quiet : ∀ handler, receiver = some handler → handler.Quiet)
    (rows : Rows) : Stage.Asks ask start (deliver bounds receiver rows) := by
  cases receiver with
  | none => exact Action.keeps_pure _
  | some handler =>
      apply Action.Keeps.before
      · exact handler.asks_feed (quiet handler rfl) _ _ _
      · exact fun _ => Action.keeps_pure _

end ResultSetHandler

end StatementMapper
