import StatementMapper.Proofs.Execution.Buffering

set_option autoImplicit false

namespace StatementMapper

open Cache
open StatementMapper.Action (Keeps Refuses)

variable {T W A B : Type}

namespace Stage

structure Rests (start stage : Stage T W) : Prop where
  closed : stage.own.closed = true
  shared : stage.shared = start.shared
  world : stage.world = start.world

variable {start : Stage T W}

theorem rests_refl (stage : Stage T W) (closed : stage.own.closed = true) : Rests stage stage := ⟨closed, rfl, rfl⟩

theorem refuses_command (outcome : Except Fault A) {next : A → Action (Stage T W) B}
    (refuses : ∀ a, Refuses (Rests start) (next a)) : Refuses (Rests start) (Action.ofExcept outcome >>= next) :=
  Keeps.before (Action.keeps_outcome outcome) refuses

theorem keeps_own (f : Own → Own) (closed : ∀ own, own.closed = true → (f own).closed = true) :
    Keeps (Rests start) (Stage.changeOwn f) :=
  Action.triple_change fun stage rests => ⟨closed stage.own rests.closed, rests.shared, rests.world⟩

theorem unless_closed {post : A → Stage T W → Prop} {done other : Action (Stage T W) A}
    (closing : Action.Triple (Rests start) done post (Rests start)) :
    Action.Triple (Rests start) (do
      let closed ← Action.look fun stage => stage.own.closed
      if closed then done else other) post (Rests start) := by
  apply Action.triple_bind fun closed stage => closed = true ∧ Rests start stage
  · exact Action.triple_look fun stage rests => ⟨rests.closed, rests⟩
  · intro closed
    cases closed with
    | true => exact Action.triple_weaken closing (fun _ known => known.2) (fun _ _ left => left) fun _ left => left
    | false => exact fun _ known => absurd known.1 Bool.false_ne_true

end Stage

open Stage (Rests)

structure Executor.Retires (executor : Executor (Stage T W)) : Prop where
  view : ∀ stage, executor.closed stage = stage.own.closed
  createKey : ∀ start statement parameter bounds command,
    Refuses (Rests start) (executor.createKey statement parameter bounds command)
  query : ∀ start statement parameter bounds receiver,
    Refuses (Rests start) (executor.query statement parameter bounds receiver)
  update : ∀ start statement parameter, Refuses (Rests start) (executor.update statement parameter)
  commit : ∀ start required, Refuses (Rests start) (executor.commit required)
  rollback : ∀ start required, Keeps (Rests start) (executor.rollback required)
  clearLocal : ∀ start, Keeps (Rests start) executor.clearLocal

namespace Direct

variable (configuration : Configuration (Stage T W)) (database : Database (Stage T W)) {start : Stage T W}

theorem refuses_ensure_open : Refuses (Rests start) ensureOpen :=
  Stage.unless_closed (Action.triple_fail fun _ rests => rests)

theorem keeps_clear_local : Keeps (Rests start) clearLocal := by
  apply Stage.keeps_own
  intro own closed
  rw [if_pos closed]
  exact closed

theorem refuses_create_key (statement : Statement) (bounds : Bounds) (command : Command) :
    Refuses (Rests start) (createKey configuration statement bounds command) :=
  refuses_ensure_open.before _

theorem retires : (executor configuration database).Retires where
  view _ := rfl
  createKey _ statement _ bounds command := refuses_create_key configuration statement bounds command
  query _ statement _ bounds _ :=
    Stage.refuses_command _ fun command => (refuses_create_key configuration statement bounds command).before _
  update _ _ _ := refuses_ensure_open.before _
  commit _ _ := Stage.unless_closed (Action.triple_fail fun _ rests => rests)
  rollback _ _ := Stage.unless_closed (Action.triple_pure fun _ rests => rests)
  clearLocal _ := keeps_clear_local

end Direct

namespace Caching

variable {inner : Executor (Stage T W)} {start : Stage T W}

theorem keeps_region_of (statement : Statement) : Keeps (Rests start) (regionOf statement) := triple_region_of _ statement

theorem keeps_flush (statement : Statement) (region : String) : Keeps (Rests start) (flush statement region) := by
  unfold flush
  cases statement.flushing with
  | true => exact Action.triple_change fun stage rests => ⟨rests.closed, rests.shared, rests.world⟩
  | false => exact Action.keeps_pure _

theorem keeps_restore (region : String) (checkpoint : Option Buffer) :
    Keeps (Rests start) (Action.change fun stage => stage.setStaging (stage.staging.restore region checkpoint)) := by
  apply Action.triple_change
  intro stage rests
  have same := Staging.restore_shared region checkpoint stage.staging
  exact ⟨rests.closed, same.trans rests.shared, rests.world⟩

variable (retires : inner.Retires)

include retires

theorem refuses_update_in (region : String) (statement : Statement) (parameter : Parameter) :
    Refuses (Rests start) (updateIn inner region statement parameter) := by
  apply Keeps.before (Action.keeps_look _)
  intro checkpoint
  apply Keeps.before (keeps_flush statement region)
  intro _
  apply Action.triple_bind _ (Action.triple_attempt (retires.update start statement parameter))
  intro outcome
  cases outcome with
  | ok count => exact Action.triple_false
  | error cause =>
      apply Keeps.before (keeps_restore region checkpoint)
      exact fun _ => Action.triple_fail fun _ rests => rests

theorem refuses_update (statement : Statement) (parameter : Parameter) :
    Refuses (Rests start) (update inner statement parameter) := by
  apply Keeps.before (keeps_region_of statement)
  intro region
  cases region with
  | none => exact retires.update start statement parameter
  | some region => exact refuses_update_in retires region statement parameter

theorem keeps_rollback (required : Bool) : Keeps (Rests start) (rollback inner required) := by
  apply Action.triple_bind (fun _ => Rests start) (Action.triple_try (retires.rollback start required))
  intro outcome
  cases required with
  | true =>
      apply Action.triple_bind (fun _ => Rests start) _ fun _ => Action.keeps_outcome outcome
      exact Action.triple_change fun stage rests => ⟨rests.closed, rests.shared, rests.world⟩
  | false => exact Action.keeps_outcome outcome

theorem retires_over [Store T] (configuration : Configuration (Stage T W)) : (executor configuration inner).Retires where
  view := retires.view
  createKey := retires.createKey
  query start statement parameter bounds _ :=
    Stage.refuses_command _ fun command => (retires.createKey start statement parameter bounds command).before _
  update _ statement parameter := refuses_update retires statement parameter
  commit start required := (retires.commit start required).before _
  rollback _ required := keeps_rollback retires required
  clearLocal := retires.clearLocal

end Caching

theorem Configuration.executor_retires [Store T] (configuration : Configuration (Stage T W))
    (bare : configuration.chain = Chain.empty) (database : Database W) : (configuration.executor database).Retires := by
  have direct : (configuration.direct database).Retires := Direct.retires configuration _
  rw [executor, bare]
  cases configuration.settings.sharing with
  | true => exact Caching.retires_over direct configuration
  | false => exact direct

end StatementMapper
