import StatementMapper.Session

set_option autoImplicit false

/-! What the library relies on of a connection. -/

namespace StatementMapper

theorem Action.run_map {S A B : Type} {action : Action S A} {state after : S} {outcome : Except Fault A} (f : A → B)
    (ran : action.run state = (outcome, after)) :
    (do let a ← action; pure (f a) : Action S B).run state = (outcome.map f, after) := by
  cases outcome with
  | error cause => exact run_bind_error ran
  | ok a => exact run_bind_ok ran

theorem Action.after_map {S A B : Type} (action : Action S A) (f : A → B) (state : S) :
    ((do let a ← action; pure (f a) : Action S B).run state).2 = (action.run state).2 := by
  rcases ran : action.run state with ⟨outcome, after⟩
  rw [run_map f ran]

structure Ledger (D : Type) where
  committed : D
  working : D

-- How a driver answers queries and what its writes make of the data.
structure Driver (D : Type) where
  answer : String → String → List Value → D → Except Fault Rows
  write : Request → Ledger D → Except Fault Nat × D

namespace Driver

variable {D W T : Type}

structure Describes (driver : Driver D) (ledger : W → Ledger D) (database : Database W) : Prop where
  query : ∀ request world, ∃ after, (database.query request).run world =
    (driver.answer request.statement request.sql request.inputs (ledger world).working, after) ∧
      ledger after = ledger world
  countable : ∀ id sql inputs data rows, driver.answer id sql inputs data = .ok rows → rows.count < Word.signedBound
  execute : ∀ request world, ∃ after, (database.execute request).run world =
    ((driver.write request (ledger world)).1, after) ∧
      ledger after = ⟨(ledger world).committed, (driver.write request (ledger world)).2⟩
  failing : ∀ request data cause, (driver.write request data).1 = .error cause →
    (driver.write request data).2 = data.working
  commit : ∀ world, ∃ after, database.commit.run world = (.ok (), after) ∧
    ledger after = ⟨(ledger world).working, (ledger world).working⟩
  rollback : ∀ world, ∃ after, database.rollback.run world = (.ok (), after) ∧
    ledger after = ⟨(ledger world).committed, (ledger world).committed⟩

def fetch (driver : Driver D) (statement : Statement) (bounds : Bounds) (command : Command) (data : D) :
    Except Fault Rows :=
  (driver.answer statement.id command.sql (command.inputs.map Prod.snd) data).map (Rows.window bounds)

def select (driver : Driver D) (configuration : Configuration (Stage T W)) (statement : Statement)
    (parameter : Parameter) (bounds : Bounds) (data : D) : Except Fault Rows :=
  (configuration.command statement parameter).bind fun command => driver.fetch statement bounds command data

def requestOf (configuration : Configuration (Stage T W)) (statement : Statement) (command : Command) : Request :=
  { StatementHandler.request configuration.settings statement command with slots := Slot.ofCommand command }

def change (driver : Driver D) (configuration : Configuration (Stage T W)) (statement : Statement)
    (parameter : Parameter) (data : Ledger D) : Except Fault Nat × D :=
  match configuration.command statement parameter with
  | .ok command => driver.write (requestOf configuration statement command) data
  | .error cause => (.error cause, data.working)

theorem change_failing {driver : Driver D} {ledger : W → Ledger D} {database : Database W}
    (describes : driver.Describes ledger database) (configuration : Configuration (Stage T W)) (statement : Statement)
    (parameter : Parameter) (data : Ledger D) (cause : Fault)
    (failed : (driver.change configuration statement parameter data).1 = .error cause) :
    (driver.change configuration statement parameter data).2 = data.working := by
  unfold change at failed ⊢
  cases made : configuration.command statement parameter with
  | error reason => rfl
  | ok command =>
      rw [made] at failed
      exact describes.failing _ data cause failed

end Driver

namespace Slot

theorem values_number (index : Nat) (pairs : List (Mapping × Value)) :
    (number index pairs).filterMap Slot.value = (pairs.filter fun pair => pair.1.mode.isInput).map Prod.snd := by
  induction pairs generalizing index with
  | nil => rfl
  | cons pair rest ih =>
      rcases pair with ⟨mapping, value⟩
      by_cases input : mapping.mode.isInput = true
      · simp [number, ofMapping, input, ih]
      · simp [number, ofMapping, input, ih]

theorem inputs_of_command (command : Command) :
    (ofCommand command).filterMap Slot.value = command.inputs.map Prod.snd := values_number 1 _

end Slot

namespace Database

def staged {W : Type} (T : Type) (database : Database W) : Database (Stage T W) :=
  database.within Stage.world fun world stage => { stage with world }

end Database

namespace Direct

variable {D W T : Type} {driver : Driver D} {ledger : W → Ledger D} {database : Database W}

def send (configuration : Configuration (Stage T W)) (database : Database (Stage T W)) (statement : Statement)
    (parameter : Parameter) : Action (Stage T W) Nat := do
  let command ← Action.ofExcept (configuration.command statement parameter)
  let handler := configuration.statementHandler database statement .all none command
  let prepared ← handler.prepare
  let request ← handler.parameterize prepared
  handler.update request

-- Without interceptors the handlers only build the request, send it and window the rows.
theorem fetch_bare (configuration : Configuration (Stage T W)) (bare : configuration.chain = Chain.empty)
    (database : Database (Stage T W)) (statement : Statement) (bounds : Bounds)
    (receiver : Option (RowHandler (Stage T W))) (command : Command) :
    fetch configuration database statement bounds receiver command = (do
      let rows ← database.query (Driver.requestOf configuration statement command)
      ResultSetHandler.deliver bounds receiver rows) := by
  simp only [fetch, Configuration.statementHandler, bare]
  rfl

theorem send_bare (configuration : Configuration (Stage T W)) (bare : configuration.chain = Chain.empty)
    (database : Database (Stage T W)) (statement : Statement) (parameter : Parameter) :
    send configuration database statement parameter = (do
      let command ← Action.ofExcept (configuration.command statement parameter)
      database.execute (Driver.requestOf configuration statement command)) := by
  simp only [send, Configuration.statementHandler, bare]
  rfl

theorem run_fetch (describes : driver.Describes ledger database) (configuration : Configuration (Stage T W))
    (bare : configuration.chain = Chain.empty) (statement : Statement) (bounds : Bounds) (command : Command)
    (stage : Stage T W) :
    ∃ world, (fetch configuration (database.staged T) statement bounds none command).run stage =
        (driver.fetch statement bounds command (ledger stage.world).working, { stage with world := world }) ∧
      ledger world = ledger stage.world := by
  obtain ⟨world, ran, same⟩ := describes.query (Driver.requestOf configuration statement command) stage.world
  have inputs : (Driver.requestOf configuration statement command).inputs = command.inputs.map Prod.snd :=
    Slot.inputs_of_command command
  have asked : ((database.staged T).query (Driver.requestOf configuration statement command)).run stage =
      (driver.answer statement.id command.sql (command.inputs.map Prod.snd) (ledger stage.world).working,
        { stage with world := world }) := by
    rw [← inputs]
    simp only [Database.staged, Database.within, Action.run_within, ran]
    rfl
  refine ⟨world, ?_, same⟩
  rw [fetch_bare configuration bare]
  exact Action.run_map (Rows.window bounds) asked

theorem run_send (describes : driver.Describes ledger database) (configuration : Configuration (Stage T W))
    (bare : configuration.chain = Chain.empty) (statement : Statement) (parameter : Parameter) (stage : Stage T W) :
    ∃ world, (send configuration (database.staged T) statement parameter).run stage =
        ((driver.change configuration statement parameter (ledger stage.world)).1, { stage with world := world }) ∧
      ledger world = ⟨(ledger stage.world).committed,
        (driver.change configuration statement parameter (ledger stage.world)).2⟩ := by
  rw [send_bare configuration bare]
  unfold Driver.change
  cases made : configuration.command statement parameter with
  | error cause => exact ⟨stage.world, rfl, rfl⟩
  | ok command =>
      obtain ⟨world, ran, left⟩ := describes.execute (Driver.requestOf configuration statement command) stage.world
      refine ⟨world, ?_, left⟩
      refine (Action.run_bind_ok (Action.run_answer command stage)).trans ?_
      simp only [Database.staged, Database.within, Action.run_within, ran]

end Direct

end StatementMapper
