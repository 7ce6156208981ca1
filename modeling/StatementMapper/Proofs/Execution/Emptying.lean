import StatementMapper.Proofs.Execution.Failures
import StatementMapper.Proofs.Execution.Requests

set_option autoImplicit false

/-! A read that fails leaves every buffer as it was, but for the one that it has emptied before it was carried out. -/

namespace StatementMapper

open Cache
open StatementMapper.Action (Keeps)

variable {T W : Type}

theorem Cache.Staging.buffer_alter (id other : String) (f : Buffer → Buffer) (staging : Staging T) :
    (staging.alter id f).buffer other = if id = other then f (staging.buffer id) else staging.buffer other := by
  by_cases same : id = other
  · rw [if_pos same, ← same, buffer, alter, Table.get_put_same, Option.getD_some]
  · have unchanged := Table.get_put_other (Ne.symm same) (f (staging.buffer id)) staging.buffers
    rw [if_neg same, buffer, alter, unchanged, buffer]

namespace Stage

-- Stages with the same in their buffers. A buffer that is not there is one with nothing in it.
def SameBuffers (start stage : Stage T W) : Prop := ∀ id, stage.staging.buffer id = start.staging.buffer id

def SameBut (gone : Option String) (start stage : Stage T W) : Prop :=
  ∀ id, stage.staging.buffer id = if gone = some id then Buffer.cleared else start.staging.buffer id

variable {gone : Option String} {start stage : Stage T W}

theorem same_but_none (stage : Stage T W) : SameBut none stage stage := fun _ => rfl

theorem same_but_cleared (id : String) (stage : Stage T W) : SameBut (some id) stage (stage.cleared id) := by
  intro other
  rw [staging_cleared, Staging.buffer_alter]
  simp only [Option.some.injEq]

theorem SameBut.same_iff (left : SameBut gone start stage) :
    SameBuffers start stage ↔ ∀ id, gone = some id → start.staging.buffer id = Buffer.cleared := by
  constructor
  · intro unchanged id known
    rw [← unchanged id, left id, if_pos known]
  · intro before id
    by_cases known : gone = some id
    · rw [left id, if_pos known, before id known]
    · rw [left id, if_neg known]

theorem keeps_of_buffers {A : Type} {action : Action (Stage T W) A}
    (alone : ∀ buffers, Keeps (fun stage => stage.own.buffers = buffers) action) :
    Keeps (SameBut gone start) action := by
  apply Action.triple_of_after
  intro stage left id
  have same := Action.triple_after (alone stage.own.buffers) stage rfl
  have buffer : (action.run stage).2.staging.buffer id = stage.staging.buffer id := by
    simp only [Staging.buffer, staging, same]
  exact buffer.trans (left id)

end Stage

open Stage (SameBut)

namespace Caching

def emptied (statement : Statement) (shared : Shared T) : Option String :=
  if statement.flushing then statement.region.filter fun space => Table.contains space shared.regions else none

def emptiedUnbound (configuration : Configuration (Stage T W)) (statement : Statement) (parameter : Parameter)
    (stage : Stage T W) : Option String :=
  if (configuration.command statement parameter).isOk && !stage.own.closed then emptied statement stage.shared else none

section

variable (statement : Statement) (stage : Stage T W)

theorem run_region_of_exactly :
    (statement.region = none ∧ (regionOf statement).run stage = (.ok none, stage)) ∨
      ∃ region, statement.region = some region ∧
        (regionOf statement).run stage = if Table.contains region stage.shared.regions then (.ok (some region), stage)
          else (.error (.cache (.noRegion region statement.id)), stage) := by
  unfold regionOf
  cases statement.region with
  | none => exact Or.inl ⟨rfl, rfl⟩
  | some region =>
      refine Or.inr ⟨region, rfl, ?_⟩
      rw [Action.run_bind_ok (Action.run_look _ _)]
      cases Table.contains region stage.shared.regions with
      | true => rfl
      | false => rfl

theorem same_but_flushed (region : String) (named : statement.region = some region)
    (registered : Table.contains region stage.shared.regions = true) :
    SameBut (emptied statement stage.shared) stage (flushed statement region stage) := by
  unfold emptied flushed
  cases statement.flushing with
  | true =>
      rw [if_pos rfl, if_pos rfl, named, Option.filter_some, if_pos registered]
      exact Stage.same_but_cleared region stage
  | false => exact Stage.same_but_none stage

theorem emptied_unregistered
    (missing : ∀ region, statement.region = some region → Table.contains region stage.shared.regions = false) :
    emptied statement stage.shared = none := by
  unfold emptied
  cases statement.flushing with
  | true =>
      rw [if_pos rfl, Option.filter_eq_none_iff]
      intro region named known
      rw [missing region named] at known
      cases known
  | false => rfl

end

variable [Store T] (configuration : Configuration (Stage T W)) (database : Database W)

section

variable {inner : Executor (Stage T W)} {gone : Option String} {start : Stage T W} (statement : Statement)
  (parameter : Parameter) (bounds : Bounds) (receiver : Option (RowHandler (Stage T W))) (key : Key) (command : Command)

theorem keeps_get (region : String) : Keeps (SameBut gone start) (Stage.inStaging (Staging.get region key)) := by
  apply Action.triple_of_after
  intro stage left id
  have touched := Staging.buffer_alter region id (fun buffer => buffer) stage.staging
  have same : (stage.staging.alter region fun buffer => buffer).buffer id = stage.staging.buffer id := by
    by_cases here : region = id
    · rw [touched, if_pos here, here]
    · rw [touched, if_neg here]
  rw [run_get_staged]
  exact same.trans (left id)

theorem triple_consult_failed (region : String)
    (alone : ∀ buffers, Keeps (fun stage => stage.own.buffers = buffers)
      (inner.queryBound statement parameter bounds none key command)) :
    Action.Triple (SameBut gone start) (consult inner region statement parameter bounds key command)
      (fun _ _ => True) (SameBut gone start) := by
  apply Keeps.before (triple_refuse_outputs _ statement command)
  intro _
  apply Keeps.before (keeps_get key region)
  intro known
  cases known with
  | some rows => exact Action.triple_pure fun _ _ => trivial
  | none =>
      apply Keeps.before (Stage.keeps_of_buffers alone)
      intro rows
      exact Action.triple_bind (fun _ _ => True) (Action.triple_change fun _ _ => trivial) fun _ =>
        Action.triple_pure fun _ _ => trivial

variable (alone : ∀ buffers, Keeps (fun stage => stage.own.buffers = buffers)
  (inner.queryBound statement parameter bounds receiver key command))

include alone

theorem triple_read_failed (region : String) :
    Action.Triple (SameBut gone start)
      (if statement.cached && receiver.isNone then consult inner region statement parameter bounds key command
        else inner.queryBound statement parameter bounds receiver key command)
      (fun _ _ => True) (SameBut gone start) := by
  by_cases kept : (statement.cached && receiver.isNone) = true
  · have absent : receiver = none := Option.isNone_iff_eq_none.mp (Bool.and_eq_true_iff.mp kept).2
    subst absent
    rw [if_pos kept]
    exact triple_consult_failed statement parameter bounds key command region alone
  · rw [if_neg kept]
    exact Action.triple_weaken (Stage.keeps_of_buffers alone) (fun _ left => left) (fun _ _ _ => trivial) fun _ left => left

theorem query_bound_failed (stage after : Stage T W) (cause : Fault)
    (failed : (queryBound inner statement parameter bounds receiver key command).run stage = (.error cause, after)) :
    SameBut (emptied statement stage.shared) stage after := by
  rw [queryBound] at failed
  rcases run_region_of_exactly statement stage with ⟨named, known⟩ | ⟨region, named, known⟩
  · have plain := emptied_unregistered statement stage fun region other => nomatch named.symm.trans other
    have left := Action.triple_after (Stage.keeps_of_buffers alone) stage (Stage.same_but_none stage)
    rw [Action.run_bind_ok known] at failed
    rwa [failed, ← plain] at left
  · cases registered : Table.contains region stage.shared.regions with
    | false =>
        rw [registered] at known
        rw [Action.run_bind_error known] at failed
        cases failed
        have plain := emptied_unregistered statement stage fun other same => by
          rw [named, Option.some.injEq] at same
          exact same ▸ registered
        exact plain ▸ Stage.same_but_none stage
    | true =>
        rw [registered] at known
        rw [Action.run_bind_ok known] at failed
        have read := triple_read_failed statement parameter bounds receiver key command alone region
          (flushed statement region stage) (same_but_flushed statement stage region named registered)
        have ran := (Action.run_bind_ok (run_flush_stage statement region stage)).symm.trans failed
        rwa [ran] at read

end

section

variable (confined : ∀ buffers, configuration.chain.Heeds fun stage => stage.own.buffers = buffers) (statement : Statement)
  (parameter : Parameter) (bounds : Bounds) (receiver : Option (RowHandler (Stage T W)))
  (receives : ∀ handler, receiver = some handler → ∀ buffers, handler.Keeps fun stage => stage.own.buffers = buffers)
  (stage after : Stage T W) (cause : Fault)

include confined receives

theorem caching_query_bound_failed (key : Key) (command : Command)
    (failed : ((configuration.caching database).queryBound statement parameter bounds receiver key command).run stage =
      (.error cause, after)) : SameBut (emptied statement stage.shared) stage after := by
  refine query_bound_failed statement parameter bounds receiver key command (fun buffers => ?_) stage after cause failed
  have apart : Stage.Apart fun stage : Stage T W => stage.own.buffers = buffers :=
    Stage.apart_of_staging (·.buffers = buffers)
  exact Direct.keeps_query_bound apart configuration (confined buffers) _ (database.keeps_staged apart) statement bounds
    receiver (fun handler given => receives handler given buffers) key command

theorem caching_query_failed
    (failed : ((configuration.caching database).query statement parameter bounds receiver).run stage =
      (.error cause, after)) : SameBut (emptiedUnbound configuration statement parameter stage) stage after := by
  change (query configuration (configuration.direct database) statement parameter bounds receiver).run stage = _ at failed
  rw [query] at failed
  unfold emptiedUnbound
  cases made : configuration.command statement parameter with
  | error refusal =>
      rw [made] at failed
      cases failed
      exact Stage.same_but_none stage
  | ok command =>
      rw [made, Action.run_bind_ok (Action.run_of_except _ _)] at failed
      cases closed : stage.own.closed with
      | true =>
          have refused : ((configuration.direct database).createKey statement parameter bounds command).run stage =
              (.error .executorClosed, stage) :=
            Direct.run_create_key_closed configuration statement bounds command stage closed
          rw [Action.run_bind_error refused] at failed
          cases failed
          exact Stage.same_but_none stage
      | false =>
          have keyed : ((configuration.direct database).createKey statement parameter bounds command).run stage =
              (.ok _, stage) := Direct.run_create_key configuration statement bounds command stage closed
          rw [Action.run_bind_ok keyed] at failed
          exact caching_query_bound_failed configuration database confined statement parameter bounds receiver receives
            stage after cause _ command failed

-- Interceptors and the receiver of the rows have no hold on the buffers; on the regions and the world they may have.
theorem failed_read_empties :
    (∀ key command, ((configuration.caching database).queryBound statement parameter bounds receiver key command).run
          stage = (.error cause, after) →
        SameBut (emptied statement stage.shared) stage after ∧
          (Stage.SameBuffers stage after ↔
            ∀ id, emptied statement stage.shared = some id → stage.staging.buffer id = Buffer.cleared)) ∧
      (((configuration.caching database).query statement parameter bounds receiver).run stage = (.error cause, after) →
        SameBut (emptiedUnbound configuration statement parameter stage) stage after ∧
          (Stage.SameBuffers stage after ↔
            ∀ id, emptiedUnbound configuration statement parameter stage = some id →
              stage.staging.buffer id = Buffer.cleared)) := by
  constructor
  · intro key command failed
    have left := caching_query_bound_failed configuration database confined statement parameter bounds receiver receives
      stage after cause key command failed
    exact ⟨left, left.same_iff⟩
  · intro failed
    have left := caching_query_failed configuration database confined statement parameter bounds receiver receives
      stage after cause failed
    exact ⟨left, left.same_iff⟩

end

end Caching

namespace Refusing

theorem read_empties :
    ∃ after, ((configuration.caching database).query (statementOf .select) .none .all none).run stage =
        (.error (.execution (.reported "refused")), after) ∧
      after.staging.buffer "users" = Buffer.cleared ∧ ¬ Stage.SameBuffers stage after := by
  obtain ⟨left, same⟩ := (Caching.failed_read_empties configuration database
    (fun buffers => heeded (Stage.apart_of_staging (·.buffers = buffers))) (statementOf .select) .none .all none nofun
    stage _ _).2 rfl
  refine ⟨_, rfl, left "users", fun unchanged => ?_⟩
  have emptied := congrArg Buffer.clearing (same.mp unchanged "users" rfl)
  exact nomatch emptied

end Refusing

end StatementMapper
