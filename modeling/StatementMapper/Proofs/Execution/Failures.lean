import StatementMapper.Proofs.Execution.Buffering
import StatementMapper.Proofs.Execution.Confinement

set_option autoImplicit false

/-! A write that fails leaves every buffer and every region as it was. -/

namespace StatementMapper

open Cache
open StatementMapper.Action (Keeps)

variable {T W : Type}

namespace Cache.Staging

theorem restore_checkpoint (id : String) (staging : Staging T) :
    staging.restore id (staging.checkpoint id) = staging := by
  cases found : staging.checkpoint id with
  | none =>
      have same := Table.erase_absent id staging.buffers found
      rw [restore, same]
  | some buffer =>
      have same := Table.put_self id buffer staging.buffers found
      rw [restore, same]

theorem restore_alter (id : String) (f : Buffer → Buffer) (checkpoint : Option Buffer) (staging : Staging T) :
    (staging.alter id f).restore id checkpoint = staging.restore id checkpoint := by
  cases checkpoint with
  | none => simp only [restore, alter, Table.erase_put]
  | some buffer => simp only [restore, alter, Table.put_put]

end Cache.Staging

namespace Stage

theorem staging_cleared (id : String) (stage : Stage T W) :
    (stage.cleared id).staging = stage.staging.alter id fun _ => Buffer.cleared := rfl

end Stage

namespace Caching

section

variable {inner : Executor (Stage T W)} (statement : Statement)

def flushed (region : String) (stage : Stage T W) : Stage T W :=
  if statement.flushing then stage.cleared region else stage

theorem run_flush_stage (region : String) (stage : Stage T W) :
    (flush statement region).run stage = (.ok (), flushed statement region stage) := by
  unfold flush flushed
  cases statement.flushing with
  | true => rfl
  | false => rfl

theorem restore_flushed (region : String) (stage : Stage T W) :
    (flushed statement region stage).staging.restore region (stage.staging.checkpoint region) = stage.staging := by
  unfold flushed
  cases statement.flushing with
  | true =>
      rw [if_pos rfl, Stage.staging_cleared, Staging.restore_alter]
      exact Staging.restore_checkpoint region stage.staging
  | false => exact Staging.restore_checkpoint region stage.staging

theorem run_update_in_failed (region : String) (parameter : Parameter)
    (alone : ∀ staging, Keeps (fun stage => stage.staging = staging) (inner.update statement parameter))
    (stage after : Stage T W) (cause : Fault)
    (failed : (updateIn inner region statement parameter).run stage = (.error cause, after)) :
    after.staging = stage.staging := by
  have same := Action.triple_after (alone (flushed statement region stage).staging) (flushed statement region stage) rfl
  rw [updateIn, Action.run_bind_ok (Action.run_look _ _), Action.run_bind_ok (run_flush_stage statement region stage),
    Action.run_bind_ok (Action.run_attempt _ _)] at failed
  cases outcome : ((inner.update statement parameter).run (flushed statement region stage)).1 with
  | ok count =>
      rw [outcome] at failed
      cases failed
  | error refusal =>
      rw [outcome, Action.run_bind_ok (Action.run_change _ _)] at failed
      cases failed
      change Staging.restore _ _ _ = _
      rw [same]
      exact restore_flushed statement region stage

theorem run_update_failed (parameter : Parameter)
    (alone : ∀ staging, Keeps (fun stage => stage.staging = staging) (inner.update statement parameter))
    (stage after : Stage T W) (cause : Fault)
    (failed : (update inner statement parameter).run stage = (.error cause, after)) :
    after.staging = stage.staging := by
  rw [update] at failed
  rcases run_region_of_cases statement stage with known | ⟨refusal, unknown⟩
  · rw [Action.run_bind_ok known] at failed
    cases named : statement.region with
    | none =>
        rw [named] at failed
        have kept := Action.triple_after (alone stage.staging) stage rfl
        rwa [failed] at kept
    | some region =>
        rw [named] at failed
        exact run_update_in_failed statement region parameter alone stage after cause failed
  · rw [Action.run_bind_error unknown] at failed
    cases failed
    rfl

end

variable [Store T] (configuration : Configuration (Stage T W)) (database : Database W)

theorem run_commit_staged (required : Bool) (stage last : Stage T W) (outcome : Except Fault Unit)
    (ran : ((configuration.caching database).commit required).run stage = (outcome, last)) :
    ((∃ cause, outcome = .error cause) ∧ last.staging = stage.staging) ∨
      (outcome, last.staging) = Staging.commit.run stage.staging := by
  have apart : Stage.Apart fun state : Stage T W => state.staging = stage.staging :=
    Stage.apart_of_staging (· = stage.staging)
  have kept : (((configuration.direct database).commit required).run stage).2.staging = stage.staging :=
    Action.triple_after (Direct.keeps_committing apart _ (database.keeps_staged apart) required) stage rfl
  change (commit (configuration.direct database) required).run stage = _ at ran
  rcases begun : ((configuration.direct database).commit required).run stage with ⟨committed, middle⟩
  rw [begun] at kept
  cases committed with
  | error cause =>
      rw [commit, Action.run_bind_error begun] at ran
      cases ran
      exact Or.inl ⟨⟨cause, rfl⟩, kept⟩
  | ok _ =>
      rw [commit, Action.run_bind_ok begun, Stage.inStaging, Action.run_within, kept] at ran
      cases ran
      exact Or.inr rfl

-- Of interceptors it is asked that they do not reach for the buffers and the regions themselves.
theorem failed_write_undone (confined : ∀ staging, configuration.chain.Heeds fun stage => stage.staging = staging)
    (statement : Statement) (parameter : Parameter) (stage after : Stage T W) (cause : Fault)
    (failed : ((configuration.caching database).update statement parameter).run stage = (.error cause, after)) :
    after.own.buffers = stage.own.buffers ∧ after.shared = stage.shared ∧
      ∀ required outcome last, ((configuration.caching database).commit required).run after = (outcome, last) →
        ((∃ refusal, outcome = .error refusal) ∧ last.staging = stage.staging) ∨
          (outcome, last.staging) = Staging.commit.run stage.staging := by
  have same : after.staging = stage.staging := by
    refine run_update_failed statement parameter (fun staging => ?_) stage after cause failed
    have apart : Stage.Apart fun stage : Stage T W => stage.staging = staging := Stage.apart_of_staging (· = staging)
    exact Direct.keeps_update apart configuration (confined staging) _ (database.keeps_staged apart) statement parameter
  refine ⟨congrArg Staging.buffers same, congrArg Staging.shared same, fun required outcome last ran => ?_⟩
  rw [← same]
  exact run_commit_staged configuration database required after last outcome ran

end Caching

namespace Refusing

def counting : Interceptor (Stage Backing Nat) where
  name := "counting"
  signatures := []
  intercept invocation := do
    Stage.inWorld (Action.change fun count => count + 1)
    invocation.proceed

def running : Binding := ⟨[⟨.statementHandler, .runUpdate⟩, ⟨.statementHandler, .runQuery⟩]⟩

def configuration : Configuration (Stage Backing Nat) where
  chain := ⟨[⟨counting, running⟩]⟩

def database : Database Nat where
  query _ := Action.fail (.execution (.reported "refused"))
  execute _ := Action.fail (.execution (.reported "refused"))
  commit := pure ()
  rollback := pure ()
  close := pure ()

def statementOf (purpose : Statement.Purpose) : Statement :=
  { Statement.ofSource "any" purpose (.fixed "ANY" []) with region := some "users", flushing := true }

def staged : Buffer := ⟨false, [(⟨[.text "key"]⟩, ⟨["n"], [[.integer 1]]⟩)]⟩

def region : Region Backing := { id := "users", interval := none, store := .unbounded }

def stage : Stage Backing Nat := ⟨{ buffers := [("users", staged)] }, ⟨[("users", region)], 0⟩, 0⟩

theorem counting_heeds {good : Stage Backing Nat → Prop} (apart : Stage.Apart good) : counting.Heeds good := by
  intro invocation keeps
  apply Keeps.before (Action.keeps_within _ apart.world)
  exact fun _ => invocation.keeps_proceed_with keeps invocation.arguments

theorem heeded {good : Stage Backing Nat → Prop} (apart : Stage.Apart good) : configuration.chain.Heeds good := by
  intro plugin member
  rw [List.mem_singleton.mp member]
  exact counting_heeds apart

-- The write comes as far as the connection; the rows that were staged are published as if it had not been tried.
theorem write_undone :
    ∃ after, ((configuration.caching database).update (statementOf .update) .none).run stage =
        (.error (.execution (.reported "refused")), after) ∧
      after.world = 1 ∧ after.own.buffers = [("users", staged)] ∧
      ∀ outcome last, ((configuration.caching database).commit true).run after = (outcome, last) →
        ((∃ refusal, outcome = .error refusal) ∧ last.staging = stage.staging) ∨
          (outcome, last.staging) = Staging.commit.run stage.staging := by
  obtain ⟨buffers, _, later⟩ := Caching.failed_write_undone configuration database
    (fun staging => heeded (Stage.apart_of_staging (· = staging))) (statementOf .update) .none stage _ _ rfl
  exact ⟨_, rfl, rfl, buffers, later true⟩

end Refusing

end StatementMapper
