import StatementMapper.Proofs.Execution.Accounts
import StatementMapper.Proofs.Execution.Retired
import StatementMapper.Proofs.Session.Effects
import StatementMapper.Sessions

set_option autoImplicit false

namespace StatementMapper

open Cache
open StatementMapper.Action (Keeps)
open Stage (Asks)

variable {T W A : Type}

structure Posture where
  dirty : Bool
  closed : Bool
  calls : List Call

def Work.posture (work : Work T (Logged W)) : Posture := ⟨work.dirty, work.stage.own.closed, work.stage.world.calls⟩

structure Work.Asked (ask : Ask) (start work : Work T (Logged W)) : Prop where
  dirty : work.dirty = start.dirty
  stage : Stage.Asked ask start.stage work.stage

theorem Work.Asked.posture {ask : Ask} {start work : Work T (Logged W)} (asked : Work.Asked ask start work) :
    ∃ later, work.posture = { start.posture with calls := start.posture.calls ++ later } ∧
      ∀ call ∈ later, call.ask = ask := by
  obtain ⟨dirty, closed, later, grown, kind⟩ := asked
  apply Exists.intro later
  constructor
  · rw [Work.posture, dirty, closed, grown]
    rfl
  · exact kind

namespace Session

def Operation.Quiet : Operation T (Logged W) → Prop
  | .each _ _ _ receiver => receiver.Quiet
  | _ => True

def logged [Store T] (configuration : Configuration (Stage T (Logged W))) (database : Database W) (autoCommit : Bool) :
    Session T (Logged W) := ⟨configuration, configuration.executor database.logged, autoCommit⟩

def Knows (session : Session T W) (id : String) : Prop := ∃ statement, session.configuration.statement id = .ok statement

end Session

-- The ways in which an operation can end: whether it answers, and what the session has come to.
inductive Posture.Steps (session : Session T (Logged W)) (before : Posture) :
    Session.Operation T (Logged W) → Bool → Posture → Prop where
  | reads {operation : Session.Operation T (Logged W)} {fine : Bool} {later : List Call} (reads : operation.Reads)
      (asked : ∀ call ∈ later, call.ask = .query) :
      Steps session before operation fine { before with calls := before.calls ++ later }
  | unknown {id : String} {parameter : Parameter} : Steps session before (.update id parameter) false before
  | writes {id : String} {parameter : Parameter} {fine : Bool} {later : List Call} (known : session.Knows id)
      (asked : ∀ call ∈ later, call.ask = .execute) :
      Steps session before (.update id parameter) fine ⟨true, before.closed, before.calls ++ later⟩
  | refused {forced : Bool} (closed : before.closed = true) : Steps session before (.commit forced) false before
  | commits {forced fine done : Bool} (opened : before.closed = false) (sound : fine = true → done = true) :
      Steps session before (.commit forced) fine ⟨before.dirty && !fine, false,
        before.calls ++ Call.ending .commit ((!session.autoCommit && before.dirty) || forced) done⟩
  | forgets {forced fine : Bool} (closed : before.closed = true) :
      Steps session before (.rollback forced) fine ⟨before.dirty && !fine, true, before.calls⟩
  | rollsBack {forced fine done : Bool} (opened : before.closed = false) (sound : fine = true → done = true) :
      Steps session before (.rollback forced) fine ⟨before.dirty && !fine, false,
        before.calls ++ Call.ending .rollback ((!session.autoCommit && before.dirty) || forced) done⟩
  | already (closed : before.closed = true) : Steps session before .close true before
  | closes {fine undone gone : Bool} (opened : before.closed = false) :
      Steps session before .close fine ⟨false, true,
        before.calls ++ Call.ending .rollback (!session.autoCommit && before.dirty) undone ++ [⟨.close, gone⟩]⟩

namespace Session

variable {ask : Ask} {start : Work T (Logged W)}

theorem asks_on_stage {action : Action (Stage T (Logged W)) A} (asks : Asks ask start.stage action) :
    Keeps (Work.Asked ask start) (onStage action) :=
  Action.triple_of_after fun work asked => ⟨asked.dirty, Action.triple_after asks work.stage asked.stage⟩

variable {session : Session T (Logged W)}

theorem isOk_map {B : Type} (f : A → B) (outcome : Except Fault A) : (outcome.map f).isOk = outcome.isOk := by
  cases outcome <;> rfl

-- The end of a transaction that was carried out on the stage: a session is clean once it has answered.
theorem run_ending (session : Session T (Logged W)) (forced : Bool) (ending : Bool → Action (Stage T (Logged W)) Unit)
    (work : Work T (Logged W)) :
    ((do
      let required ← Action.look (session.required forced)
      onStage (ending required)
      setDirty false : Action (Work T (Logged W)) Unit) >>= fun _ => pure Answer.done).run work =
      (((ending (session.required forced work)).run work.stage).1.map fun _ => Answer.done,
        ⟨work.dirty && !((ending (session.required forced work)).run work.stage).1.isOk,
          ((ending (session.required forced work)).run work.stage).2⟩) := by
  refine Action.run_map (fun _ => Answer.done) ((Action.run_bind_ok (Action.run_look _ _)).trans ?_)
  rcases ran : (ending (session.required forced work)).run work.stage with ⟨outcome, after⟩
  cases outcome with
  | error cause =>
      rw [Action.run_bind_error (run_on_stage ran)]
      simp [Except.isOk, Except.toBool]
  | ok done =>
      rw [Action.run_bind_ok (run_on_stage ran)]
      simp [Except.isOk, Except.toBool, setDirty]

section

variable (retires : session.executor.Retires) (accounts : session.executor.Accounts)

include accounts

theorem asks_query (id : String) (parameter : Parameter) (bounds : Bounds)
    (receiver : Option (RowHandler (Stage T (Logged W)))) (quiet : ∀ handler, receiver = some handler → handler.Quiet) :
    Keeps (Work.Asked .query start) (session.query id parameter bounds receiver) := by
  apply Keeps.before (triple_statement session _ id)
  exact fun statement => asks_on_stage (accounts.query start.stage statement parameter bounds receiver quiet)

theorem steps_reads (operation : Operation T (Logged W)) (reads : operation.Reads) (quiet : operation.Quiet)
    (work : Work T (Logged W)) :
    Posture.Steps session work.posture operation ((session.perform operation).run work).1.isOk
      ((session.perform operation).run work).2.posture := by
  have kept : Keeps (Work.Asked .query work) (session.perform operation) := by
    apply triple_reads_of RowHandler.Quiet (asks_query accounts) _ operation reads
    · rintro id parameter bounds receiver rfl
      exact quiet
    · exact asks_on_stage (accounts.clearLocal work.stage)
  obtain ⟨later, same, kind⟩ := (Action.triple_after kept work ⟨rfl, Stage.asked_refl _ _⟩).posture
  rw [same]
  exact .reads reads kind

theorem steps_update (id : String) (parameter : Parameter) (work : Work T (Logged W)) :
    Posture.Steps session work.posture (.update id parameter) ((session.perform (.update id parameter)).run work).1.isOk
      ((session.perform (.update id parameter)).run work).2.posture := by
  cases found : session.configuration.statement id with
  | error cause =>
      have looked : (session.statement id).run work = (.error cause, work) := by rw [statement, found]; rfl
      have failed : (session.perform (.update id parameter)).run work = (.error cause, work) :=
        Action.run_bind_error (Action.run_bind_error looked)
      rw [failed]
      exact .unknown
  | ok statement =>
      have looked : (session.statement id).run work = (.ok statement, work) := by rw [Session.statement, found]; rfl
      have asked := Action.triple_after (accounts.update work.stage statement parameter) work.stage (Stage.asked_refl _ _)
      rcases ran : (session.executor.update statement parameter).run work.stage with ⟨outcome, after⟩
      rw [ran] at asked
      have wrote : (session.perform (.update id parameter)).run work = (outcome.map Answer.count, ⟨true, after⟩) := by
        apply Action.run_map
        rw [update, Action.run_bind_ok looked, setDirty, Action.run_bind_ok (Action.run_change _ _), onStage,
          Action.run_within, ran]
      obtain ⟨closed, later, grown, kind⟩ := asked
      rw [wrote, Work.posture, Work.posture, closed, grown]
      exact .writes ⟨statement, found⟩ kind

include retires

theorem steps_commit (forced : Bool) (work : Work T (Logged W)) :
    Posture.Steps session work.posture (.commit forced) ((session.perform (.commit forced)).run work).1.isOk
      ((session.perform (.commit forced)).run work).2.posture := by
  have performed : (session.perform (.commit forced)).run work = _ := run_ending session forced session.executor.commit work
  rw [performed, isOk_map]
  cases closed : work.stage.own.closed with
  | true =>
      obtain ⟨cause, after, failed, rests⟩ :=
        (retires.commit work.stage (session.required forced work)).run (Stage.rests_refl _ closed)
      rw [failed, Work.posture, Work.posture, rests.closed, rests.world, closed]
      simp only [Except.isOk, Except.toBool, Bool.not_false, Bool.and_true]
      exact .refused rfl
  | false =>
      obtain ⟨opened, done, called, sound⟩ := accounts.commit (session.required forced work) work.stage closed
      rw [Work.posture, Work.posture, opened, called, closed]
      exact .commits rfl sound

theorem steps_rollback (forced : Bool) (work : Work T (Logged W)) :
    Posture.Steps session work.posture (.rollback forced) ((session.perform (.rollback forced)).run work).1.isOk
      ((session.perform (.rollback forced)).run work).2.posture := by
  have performed : (session.perform (.rollback forced)).run work = _ := run_ending session forced session.executor.rollback work
  rw [performed, isOk_map]
  cases closed : work.stage.own.closed with
  | true =>
      have rests := Action.triple_after (retires.rollback work.stage (session.required forced work)) work.stage
        (Stage.rests_refl _ closed)
      rw [Work.posture, Work.posture, rests.closed, rests.world, closed]
      exact .forgets rfl
  | false =>
      obtain ⟨opened, done, called, sound⟩ := accounts.rollback (session.required forced work) work.stage closed
      rw [Work.posture, Work.posture, opened, called, closed]
      exact .rollsBack rfl sound

omit retires

theorem steps_close (work : Work T (Logged W)) :
    Posture.Steps session work.posture .close ((session.perform .close).run work).1.isOk
      ((session.perform .close).run work).2.posture := by
  have seen : session.isClosed work = work.stage.own.closed := accounts.view work.stage
  cases closed : work.stage.own.closed with
  | true =>
      rw [closed] at seen
      have idle : session.close.run work = (.ok (), work) := by
        rw [close, Action.run_bind_ok (Action.run_look _ _), seen]
        rfl
      have performed : (session.perform .close).run work = (.ok .done, work) := Action.run_map (fun _ => Answer.done) idle
      rw [performed]
      exact .already closed
  | false =>
      rw [closed] at seen
      obtain ⟨shut, undone, gone, called⟩ := accounts.close (session.required false work) work.stage closed
      rcases ran : (session.executor.close (session.required false work)).run work.stage with ⟨outcome, after⟩
      rw [ran] at shut called
      have performed : (session.perform .close).run work = (outcome.map fun _ => Answer.done, ⟨false, after⟩) := by
        apply Action.run_map
        rw [close, Action.run_bind_ok (Action.run_look _ _), seen, if_neg Bool.false_ne_true,
          Action.run_bind_ok (Action.run_look _ _), Action.run_bind_ok (Action.run_attempt_of (run_on_stage ran)), setDirty,
          Action.run_bind_ok (Action.run_change _ _), Action.run_of_except]
      rw [performed, Work.posture, Work.posture, shut, called, closed]
      rw [required, Bool.or_false]
      exact .closes rfl

include retires

theorem steps (operation : Operation T (Logged W)) (quiet : operation.Quiet) (work : Work T (Logged W)) :
    Posture.Steps session work.posture operation ((session.perform operation).run work).1.isOk
      ((session.perform operation).run work).2.posture := by
  have reading (reads : operation.Reads) := steps_reads accounts operation reads quiet work
  cases operation with
  | list id parameter bounds => exact reading trivial
  | one id parameter => exact reading trivial
  | each id parameter bounds receiver => exact reading trivial
  | clearCache => exact reading trivial
  | update id parameter => exact steps_update accounts id parameter work
  | commit forced => exact steps_commit retires accounts forced work
  | rollback forced => exact steps_rollback retires accounts forced work
  | close => exact steps_close accounts work

end

end Session

end StatementMapper
