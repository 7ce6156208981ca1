import StatementMapper.Proofs.Execution.Tiers
import StatementMapper.Session.History

set_option autoImplicit false

/-! What a session answers with both tiers of caches is what it would answer without them. -/

namespace StatementMapper

open Session
open Cache (Backing Contents Staging)

variable {D T W : Type}

namespace Session

inductive Turn where
  | list (id : String) (parameter : Parameter) (bounds : Bounds)
  | update (id : String) (parameter : Parameter)
  | commit (forced : Bool)
  | rollback (forced : Bool)
  | clearCache

def Turn.operation : Turn → Operation T W
  | list id parameter bounds => .list id parameter bounds
  | update id parameter => .update id parameter
  | commit forced => .commit forced
  | rollback forced => .rollback forced
  | clearCache => .clearCache

def Turn.Flushes (configuration : Configuration (Stage T W)) (region : String) : Turn → Prop
  | update id _ => ∀ statement, configuration.statement id = .ok statement → statement.Writes region
  | _ => True

structure Position (D : Type) where
  dirty : Bool
  data : Ledger D

def Position.Clean (position : Position D) : Prop := position.dirty = false → position.data.Settled

def position (ledger : W → Ledger D) (work : Work T W) : Position D := ⟨work.dirty, ledger work.stage.world⟩

end Session

def Driver.perform (driver : Driver D) (configuration : Configuration (Stage T W)) (position : Position D) :
    Turn → Except Fault Answer × Position D
  | .list id parameter bounds =>
    (((configuration.statement id).bind fun statement =>
      driver.select configuration statement parameter bounds position.data.working).map Answer.rows, position)
  | .update id parameter =>
    match configuration.statement id with
    | .error cause => (.error cause, position)
    | .ok statement =>
      ((driver.change configuration statement parameter position.data).1.map Answer.count,
        ⟨true, ⟨position.data.committed, (driver.change configuration statement parameter position.data).2⟩⟩)
  | .commit forced => (.ok .done, ⟨false, position.data.settle (position.dirty || forced) Ledger.commit⟩)
  | .rollback forced => (.ok .done, ⟨false, position.data.settle (position.dirty || forced) Ledger.rollback⟩)
  | .clearCache => (.ok .done, position)

theorem Driver.perform_clean (driver : Driver D) (configuration : Configuration (Stage T W)) (position : Position D)
    (turn : Turn) (clean : position.Clean) : (driver.perform configuration position turn).2.Clean := by
  have idle (forced : Bool) (optional : (position.dirty || forced) = false) : position.data.Settled :=
    clean (Bool.or_eq_false_iff.mp optional).1
  cases turn with
  | list id parameter bounds => exact clean
  | update id parameter =>
      simp only [Driver.perform]
      cases configuration.statement id with
      | error cause => exact clean
      | ok statement => exact fun undirtied => nomatch undirtied
  | commit forced => exact fun _ => Ledger.settled_settle _ _ _ rfl (idle forced)
  | rollback forced => exact fun _ => Ledger.settled_settle _ _ _ rfl (idle forced)
  | clearCache => exact clean

-- An answer as good as another, up to what `agrees` allows queries.
inductive Session.Answers (agrees : Except Fault Rows → Except Fault Rows → Prop) :
    Except Fault Answer → Except Fault Answer → Prop where
  | same (answer : Except Fault Answer) : Answers agrees answer answer
  | rows (outcome driven : Except Fault Rows) (agreed : agrees outcome driven) :
      Answers agrees (outcome.map Answer.rows) (driven.map Answer.rows)

namespace Serves

variable {driver : Driver D} {ledger : W → Ledger D} {configuration : Configuration (Stage T W)} {region : String}
  {agrees : Except Fault Rows → Except Fault Rows → Prop} {good : Stage T W → Prop} {executor : Executor (Stage T W)}

theorem run_perform (serves : Serves driver ledger configuration region agrees good executor)
    (reads : ∀ id statement, configuration.statement id = .ok statement → statement.Reads region) (turn : Turn)
    (flushes : turn.Flushes configuration region) (work : Work T W) (fine : good work.stage)
    (clean : (position ledger work).Clean) :
    ∃ answer after, (perform ⟨configuration, executor, false⟩ turn.operation).run work = (answer, after) ∧
      Answers agrees answer (driver.perform configuration (position ledger work) turn).1 ∧
      position ledger after = (driver.perform configuration (position ledger work) turn).2 ∧ good after.stage := by
  have looked (id : String) : (Session.statement ⟨configuration, executor, false⟩ id).run work =
      (configuration.statement id, work) := by
    unfold Session.statement
    cases configuration.statement id <;> rfl
  cases turn with
  | list id parameter bounds =>
      have found := looked id
      cases known : configuration.statement id with
      | error cause =>
          rw [known] at found
          refine ⟨_, work, Action.run_map Answer.rows (Action.run_bind_error found), ?_, rfl, fine⟩
          rw [Driver.perform, known]
          exact .rows _ _ (serves.failed cause)
      | ok statement =>
          rw [known] at found
          obtain ⟨outcome, after, ran, agreed, same, still⟩ :=
            serves.query statement parameter bounds work.stage fine (reads id statement known)
          refine ⟨_, { work with stage := after },
            Action.run_map Answer.rows ((Action.run_bind_ok found).trans (run_on_stage ran)), ?_, ?_, still⟩
          · rw [Driver.perform, known]
            exact .rows _ _ agreed
          · rw [position, same]
            rfl
  | update id parameter =>
      have found := looked id
      cases known : configuration.statement id with
      | error cause =>
          rw [known] at found
          refine ⟨_, work, Action.run_map Answer.count (Action.run_bind_error found), ?_, ?_, fine⟩
          · simp only [Driver.perform, known]
            exact .same _
          · simp only [Driver.perform, known]
      | ok statement =>
          rw [known] at found
          obtain ⟨after, ran, left, still⟩ :=
            serves.update statement parameter work.stage fine (flushes statement known)
          have staged : (onStage (executor.update statement parameter)).run { work with dirty := true } =
              (_, { work with dirty := true, stage := after }) := run_on_stage ran
          refine ⟨_, { work with dirty := true, stage := after }, Action.run_map Answer.count ((Action.run_bind_ok found).trans
            ((Action.run_bind_ok (Action.run_change _ _)).trans staged)), ?_, ?_, still⟩
          · simp only [Driver.perform, known]
            exact .same _
          · simp only [Driver.perform, known, position, left]
  | commit forced =>
      have idle (optional : (work.dirty || forced) = false) : (ledger work.stage.world).Settled :=
        clean (Bool.or_eq_false_iff.mp optional).1
      obtain ⟨after, ran, left, still⟩ := serves.commit (work.dirty || forced) work.stage fine idle
      have ended : (Session.commit ⟨configuration, executor, false⟩ forced).run work =
          (.ok (), { work with dirty := false, stage := after }) :=
        (Action.run_bind_ok (Action.run_look _ _)).trans (Action.run_bind_ok (run_on_stage ran))
      refine ⟨_, _, Action.run_map (fun _ => Answer.done) ended, .same _, ?_, still⟩
      rw [position, left]
      rfl
  | rollback forced =>
      obtain ⟨after, ran, left, still⟩ := serves.rollback (work.dirty || forced) work.stage fine
      have ended : (Session.rollback ⟨configuration, executor, false⟩ forced).run work =
          (.ok (), { work with dirty := false, stage := after }) :=
        (Action.run_bind_ok (Action.run_look _ _)).trans (Action.run_bind_ok (run_on_stage ran))
      refine ⟨_, _, Action.run_map (fun _ => Answer.done) ended, .same _, ?_, still⟩
      rw [position, left]
      rfl
  | clearCache =>
      obtain ⟨after, ran, same, still⟩ := serves.forget work.stage fine
      refine ⟨_, _, Action.run_map (fun _ => Answer.done) (run_on_stage ran), .same _, ?_, still⟩
      rw [position, same]
      rfl

theorem run_history (serves : Serves driver ledger configuration region agrees good executor)
    (reads : ∀ id statement, configuration.statement id = .ok statement → statement.Reads region) (turns : List Turn)
    (flushes : ∀ turn ∈ turns, turn.Flushes configuration region) (work : Work T W) (fine : good work.stage)
    (clean : (position ledger work).Clean) :
    position ledger (history ⟨configuration, executor, false⟩ (turns.map Turn.operation) work) =
        turns.foldl (fun position turn => (driver.perform configuration position turn).2) (position ledger work) ∧
      good (history ⟨configuration, executor, false⟩ (turns.map Turn.operation) work).stage ∧
      (position ledger (history ⟨configuration, executor, false⟩ (turns.map Turn.operation) work)).Clean := by
  induction turns generalizing work with
  | nil => exact ⟨rfl, fine, clean⟩
  | cons turn rest ih =>
      obtain ⟨answer, after, ran, _, moved, still⟩ :=
        serves.run_perform reads turn (flushes turn List.mem_cons_self) work fine clean
      have next := ih (fun other member => flushes other (List.mem_cons_of_mem _ member)) after still
        (moved ▸ Driver.perform_clean driver configuration _ turn clean)
      rw [moved] at next
      simpa only [history, List.map_cons, List.foldl_cons, ran] using next

end Serves

namespace Session

-- Data that a transaction has not touched, and in the region only what the driver would answer now.
structure Fresh (driver : Driver D) (ledger : W → Ledger D) (settings : Settings) (region : String)
    (work : Work Backing W) : Prop where
  undirtied : work.dirty = false
  own : work.stage.own = {}
  reachable : work.stage.shared.Reachable
  registered : work.stage.shared.Registered region
  settled : (ledger work.stage.world).Settled
  current : Contents.Current driver settings (ledger work.stage.world).working (work.stage.shared.contents region)

variable {driver : Driver D} {ledger : W → Ledger D}

theorem fresh_coherent (settings : Settings) (region : String) (work : Work Backing W)
    (fresh : Fresh driver ledger settings region work) : Coherent driver ledger settings region work.stage where
  opened := by rw [fresh.own]
  reachable := fresh.reachable
  registered := fresh.registered
  buffers := by
    rw [fresh.own]
    exact Staging.well_kept_nil
  own := by
    rw [fresh.own]
    exact Contents.current_nothing
  seen := by
    rw [fresh.own]
    exact fresh.current
  below := fresh.settled ▸ fresh.current

theorem sound_answer (mine theirs : Except Fault Answer) (close : Answers Caching.Sound mine theirs) (answer : Answer)
    (answered : mine = .ok answer) : theirs = .ok answer := by
  cases close with
  | same => exact answered
  | rows outcome driven agreed =>
      cases outcome with
      | error cause => exact nomatch answered
      | ok rows => rw [agreed rows rfl, ← answered]

theorem equal_answer (mine theirs : Except Fault Answer) (close : Answers Eq mine theirs) : mine = theirs := by
  cases close with
  | same => rfl
  | rows outcome driven agreed => rw [agreed]

theorem answers_transparent {database : Database W} (describes : driver.Describes ledger database)
    (configuration : Configuration (Stage Backing W)) (bare : configuration.chain = Chain.empty)
    (sharing : configuration.settings.sharing = true) (region : String)
    (reads : ∀ id statement, configuration.statement id = .ok statement → statement.Reads region)
    (work : Work Backing W) (fresh : Fresh driver ledger configuration.settings region work) (before : List Turn)
    (turn : Turn) (flushes : ∀ other ∈ before ++ [turn], other.Flushes configuration region) (answer : Answer)
    (answered : ((perform ⟨configuration, configuration.executor database, false⟩ turn.operation).run
      (history ⟨configuration, configuration.executor database, false⟩ (before.map Turn.operation) work)).1 = .ok answer) :
    ((perform ⟨configuration, configuration.uncached database, false⟩ turn.operation).run
      (history ⟨configuration, configuration.uncached database, false⟩ (before.map Turn.operation) work)).1 =
        .ok answer := by
  have tiers : configuration.executor database = configuration.caching database := by
    rw [Configuration.executor, bare, sharing]
    rfl
  rw [tiers] at answered
  have coherent := fresh_coherent configuration.settings region work fresh
  have clean : (position ledger work).Clean := fun _ => fresh.settled
  have earlier : ∀ other ∈ before, other.Flushes configuration region :=
    fun other member => flushes other (List.mem_append_left _ member)
  have last : turn.Flushes configuration region := flushes turn (by simp)
  have cached := Caching.serves describes configuration bare region
  have uncached := Uncached.serves describes configuration bare region
  obtain ⟨stands, still, tidy⟩ := cached.run_history reads before earlier work coherent clean
  obtain ⟨level, opened, neat⟩ := uncached.run_history reads before earlier work coherent.opened clean
  obtain ⟨mine, after, ran, close, _, _⟩ := cached.run_perform reads turn last _ still tidy
  obtain ⟨other, left, reran, equal, _, _⟩ := uncached.run_perform reads turn last _ opened neat
  rw [ran] at answered
  rw [stands] at close
  rw [level] at equal
  rw [reran, equal_answer _ _ equal]
  exact sound_answer _ _ close answer answered

end Session

namespace Counting

def database : Database (Ledger Nat) where
  query _ := Action.look fun data => ⟨["n"], [[.integer (Int64.ofNat data.working)]]⟩
  execute request := fun data =>
    if request.sql = "FAIL" then (.error (.execution (.reported "refused")), data)
    else (.ok 1, ⟨data.committed, data.working + 1⟩)
  commit := Action.change Ledger.commit
  rollback := Action.change Ledger.rollback
  close := pure ()

def driver : Driver Nat where
  answer _ _ _ data := .ok ⟨["n"], [[.integer (Int64.ofNat data)]]⟩
  write request data :=
    if request.sql = "FAIL" then (.error (.execution (.reported "refused")), data.working) else (.ok 1, data.working + 1)

theorem describes : driver.Describes id database where
  query request world := ⟨world, rfl, rfl⟩
  countable := by
    intro id sql inputs data rows answered
    cases answered
    exact show 1 < Word.signedBound by decide
  execute := by
    intro request world
    by_cases refused : request.sql = "FAIL"
    · exact ⟨world, by simp [Action.run, database, driver, refused], by simp [driver, refused]⟩
    · exact ⟨⟨world.committed, world.working + 1⟩, by simp [Action.run, database, driver, refused],
        by simp [driver, refused]⟩
  failing := by
    intro request data cause failed
    by_cases refused : request.sql = "FAIL"
    · simp [driver, refused]
    · simp [driver, refused] at failed
  commit world := ⟨world.commit, rfl, rfl⟩
  rollback world := ⟨world.rollback, rfl, rfl⟩

def statementOf (id : String) (purpose : Statement.Purpose) (sql : String) : Statement :=
  { Statement.ofSource id purpose (.fixed sql []) with region := some "numbers" }

def configuration : Configuration (Stage Backing (Ledger Nat)) where
  statements := [("show", statementOf "show" .select "SHOW"), ("add", statementOf "add" .update "ADD"),
    ("fail", statementOf "fail" .update "FAIL")]

def work : Work Backing (Ledger Nat) where
  stage := ⟨{}, ⟨[("numbers", { id := "numbers", interval := none, store := .unbounded })], 0⟩, ⟨0, 0⟩⟩

theorem fresh : Fresh driver id configuration.settings "numbers" work where
  undirtied := rfl
  own := rfl
  reachable := by
    intro id region found
    have only := Table.mem_of_get id region _ found
    simp only [work, List.mem_singleton, Prod.mk.injEq] at only
    rw [only.2]
    trivial
  registered := rfl
  settled := rfl
  current := Contents.current_nothing

theorem statement_cases (id : String) (statement : Statement) (found : configuration.statement id = .ok statement) :
    statement = statementOf "show" .select "SHOW" ∨ statement = statementOf "add" .update "ADD" ∨
      statement = statementOf "fail" .update "FAIL" := by
  unfold Configuration.statement at found
  cases registered : Table.get? id configuration.statements with
  | none =>
      rw [registered] at found
      exact nomatch found
  | some known =>
      rw [registered] at found
      cases found
      have member := Table.mem_of_get id statement _ registered
      simp only [configuration, List.mem_cons, Prod.mk.injEq, List.not_mem_nil, or_false] at member
      rcases member with shown | added | failed
      · exact Or.inl shown.2
      · exact Or.inr (Or.inl added.2)
      · exact Or.inr (Or.inr failed.2)

def before : List Turn :=
  [.list "show" .none .all, .commit false, .update "add" .none, .list "show" .none .all, .update "fail" .none,
    .list "show" .none .all, .rollback false]

-- Reads around a commit, a write, a failed write and a rollback; the last one finds what the commit published.
theorem shown_after_rollback :
    ((perform ⟨configuration, configuration.uncached database, false⟩ (Turn.list "show" .none .all).operation).run
      (history ⟨configuration, configuration.uncached database, false⟩ (before.map Turn.operation) work)).1 =
        .ok (.rows ⟨["n"], [[.integer 0]]⟩) := by
  have reads (id : String) (statement : Statement) (found : configuration.statement id = .ok statement) :
      statement.Reads "numbers" := by
    rcases statement_cases id statement found with rfl | rfl | rfl <;> exact Or.inr rfl
  have added : (Turn.update "add" .none).Flushes configuration "numbers" := by
    intro statement found
    cases found
    exact ⟨rfl, rfl⟩
  have failed : (Turn.update "fail" .none).Flushes configuration "numbers" := by
    intro statement found
    cases found
    exact ⟨rfl, rfl⟩
  have flushes : ∀ turn ∈ before ++ [Turn.list "show" .none .all], turn.Flushes configuration "numbers" := by
    intro turn member
    simp only [before, List.cons_append, List.nil_append, List.mem_cons, List.not_mem_nil, or_false] at member
    rcases member with rfl | rfl | rfl | rfl | rfl | rfl | rfl | rfl <;> trivial
  exact answers_transparent describes configuration rfl rfl "numbers" reads work fresh before _ flushes _ rfl

end Counting

end StatementMapper
