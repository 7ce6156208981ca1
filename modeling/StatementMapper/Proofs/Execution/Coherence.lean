import StatementMapper.Proofs.Cache.Publication
import StatementMapper.Proofs.Execution.Keys
import StatementMapper.Proofs.Execution.Service

set_option autoImplicit false

/-! Caches that agree with the data: the rows under a current key are those the driver would answer with. -/

namespace StatementMapper

open Cache
open Table (assign)

variable {D W : Type}

namespace Cache.Contents

-- Whatever query a key stands for, the driver would answer it with the rows under the key.
def Current (driver : Driver D) (settings : Settings) (data : D) (contents : Contents) : Prop :=
  ∀ key rows, contents key = some rows → ∀ id bounds sql inputs, Direct.keyFor settings id bounds sql inputs = key →
    ∃ full, driver.answer id sql inputs data = .ok full ∧ rows = full.window bounds

variable {driver : Driver D} {settings : Settings} {data : D}

theorem current_nothing : Current driver settings data nothing := fun _ _ found => nomatch found

theorem current_within {inner outer : Contents} (within : inner.Within outer)
    (current : Current driver settings data outer) : Current driver settings data inner :=
  fun key rows found => current key rows (within key rows found)

theorem fetch_of_current (contents : Contents) (statement : Statement) (bounds : Bounds) (command : Command)
    (rows : Rows) (current : Current driver settings data contents)
    (found : contents (Direct.keyOf settings statement bounds command) = some rows) :
    driver.fetch statement bounds command data = .ok rows := by
  obtain ⟨full, answered, rfl⟩ := current _ rows found _ _ _ _ (Direct.key_of_eq settings statement bounds command).symm
  rw [Driver.fetch, answered]
  rfl

theorem current_assign (contents : Contents) (statement : Statement) (bounds : Bounds) (command : Command) (rows : Rows)
    (countable : ∀ id sql inputs data rows, driver.answer id sql inputs data = .ok rows → rows.count < Word.signedBound)
    (current : Current driver settings data contents) (fetched : driver.fetch statement bounds command data = .ok rows) :
    Current driver settings data (assign contents (Direct.keyOf settings statement bounds command, rows)) := by
  intro key kept found id window text values same
  by_cases here : key = Direct.keyOf settings statement bounds command
  · simp only [assign, if_pos here, Option.some.injEq] at found
    rw [here, Direct.key_of_eq] at same
    obtain ⟨rfl, offset, limit, rfl, rfl⟩ := Direct.key_for_inj _ _ _ _ _ _ _ _ _ same
    rw [Driver.fetch] at fetched
    cases answered : driver.answer statement.id command.sql (command.inputs.map Prod.snd) data with
    | error cause =>
        rw [answered] at fetched
        cases fetched
    | ok full =>
        rw [answered] at fetched
        cases fetched
        exact ⟨full, rfl, found ▸ Rows.window_congr full bounds window (countable _ _ _ _ _ answered) offset.symm limit.symm⟩
  · simp only [assign, if_neg here] at found
    exact current key kept found id window text values same

end Cache.Contents

-- What the session sees agrees with the data as it stands, what the region holds with the data last committed.
structure Coherent (driver : Driver D) (ledger : W → Ledger D) (settings : Settings) (region : String)
    (stage : Stage Backing W) : Prop where
  opened : stage.own.closed = false
  reachable : stage.shared.Reachable
  registered : stage.shared.Registered region
  buffers : Staging.WellKept stage.own.buffers
  own : Contents.Current driver settings (ledger stage.world).working fun key => stage.own.kept.get? key
  seen : Contents.Current driver settings (ledger stage.world).working
    (overlayOf stage.own.buffers region (stage.shared.contents region))
  below : Contents.Current driver settings (ledger stage.world).committed (stage.shared.contents region)

def Stage.forgotten {T : Type} (stage : Stage T W) : Stage T W := { stage with own := { stage.own with kept := {} } }

def Stage.cleared {T : Type} (region : String) (stage : Stage T W) : Stage T W :=
  stage.setStaging (stage.staging.alter region fun _ => Buffer.cleared)

namespace Coherent

variable {driver : Driver D} {ledger : W → Ledger D} {settings : Settings} {region : String} {stage : Stage Backing W}

theorem forget (coherent : Coherent driver ledger settings region stage) :
    Coherent driver ledger settings region stage.forgotten :=
  { coherent with own := Contents.current_nothing }

theorem elsewhere (coherent : Coherent driver ledger settings region stage) (world : W)
    (same : ledger world = ledger stage.world) :
    Coherent driver ledger settings region { stage with world := world } :=
  { coherent with
    own := same ▸ coherent.own
    seen := same ▸ coherent.seen
    below := same ▸ coherent.below }

theorem keep (coherent : Coherent driver ledger settings region stage) (statement : Statement) (bounds : Bounds)
    (command : Command) (rows : Rows)
    (countable : ∀ id sql inputs data rows, driver.answer id sql inputs data = .ok rows → rows.count < Word.signedBound)
    (fetched : driver.fetch statement bounds command (ledger stage.world).working = .ok rows) :
    Coherent driver ledger settings region
      { stage with own := { stage.own with
        kept := stage.own.kept.put (Direct.keyOf settings statement bounds command) rows } } := by
  have written := Contents.current_assign _ statement bounds command rows countable coherent.own fetched
  rw [show (fun key => stage.own.kept.get? key) = fun key => Table.get? key stage.own.kept.entries from rfl,
    ← Table.get_put] at written
  exact { coherent with own := written }

end Coherent

namespace Direct

variable {driver : Driver D} {ledger : W → Ledger D} {database : Database W}
  {configuration : Configuration (Stage Backing W)} {region : String}

theorem run_clear_local {T : Type} (stage : Stage T W) (opened : stage.own.closed = false) :
    clearLocal.run stage = (.ok (), stage.forgotten) := by
  simp [clearLocal, Stage.changeOwn, Stage.forgotten, opened]

theorem run_end_query (stage : Stage Backing W)
    (coherent : Coherent driver ledger configuration.settings region stage) :
    ∃ after, (endQuery configuration).run stage = (.ok (), after) ∧ after.world = stage.world ∧
      Coherent driver ledger configuration.settings region after := by
  unfold endQuery
  by_cases brief : configuration.settings.localScope = .statement
  · exact ⟨stage.forgotten, by rw [if_pos brief, run_clear_local stage coherent.opened], rfl, coherent.forget⟩
  · exact ⟨stage, by rw [if_neg brief, Action.run_pure], rfl, coherent⟩

theorem run_fetch_once (describes : driver.Describes ledger database) (bare : configuration.chain = Chain.empty)
    (statement : Statement) (bounds : Bounds) (command : Command) (stage : Stage Backing W)
    (coherent : Coherent driver ledger configuration.settings region stage) :
    ∃ after, (fetchOnce configuration (database.staged Backing) statement bounds
        (keyOf configuration.settings statement bounds command) command).run stage =
          (driver.fetch statement bounds command (ledger stage.world).working, after) ∧
      ledger after.world = ledger stage.world ∧ Coherent driver ledger configuration.settings region after := by
  rw [fetchOnce, Action.run_bind_ok (Action.run_look _ _)]
  cases known : stage.own.kept.get? (keyOf configuration.settings statement bounds command) with
  | some rows =>
      have answered := Contents.fetch_of_current _ statement bounds command rows coherent.own known
      exact ⟨stage, by rw [answered]; rfl, rfl, coherent⟩
  | none =>
      obtain ⟨world, ran, same⟩ := run_fetch describes configuration bare statement bounds command stage
      have moved := coherent.elsewhere world same
      cases fetched : driver.fetch statement bounds command (ledger stage.world).working with
      | error cause =>
          rw [fetched] at ran
          exact ⟨_, Action.run_bind_error ran, same, moved⟩
      | ok rows =>
          rw [fetched] at ran
          have kept := moved.keep statement bounds command rows describes.countable (same ▸ fetched)
          obtain ⟨after, ended, unmoved, still⟩ := run_end_query _ kept
          refine ⟨after, ?_, unmoved ▸ same, still⟩
          refine (Action.run_bind_ok ran).trans ((Action.run_bind_ok (Action.run_change _ _)).trans ?_)
          exact Action.run_bind_ok ended

theorem run_query_bound (describes : driver.Describes ledger database) (bare : configuration.chain = Chain.empty)
    (statement : Statement) (bounds : Bounds) (command : Command) (stage : Stage Backing W)
    (coherent : Coherent driver ledger configuration.settings region stage) :
    ∃ after, (queryBound configuration (database.staged Backing) statement bounds none
        (keyOf configuration.settings statement bounds command) command).run stage =
          (driver.fetch statement bounds command (ledger stage.world).working, after) ∧
      ledger after.world = ledger stage.world ∧ Coherent driver ledger configuration.settings region after := by
  rw [queryBound, Action.run_bind_ok (run_ensure_open stage coherent.opened)]
  cases flushing : statement.flushing with
  | false => exact run_fetch_once describes bare statement bounds command stage coherent
  | true =>
      obtain ⟨after, ran, rest⟩ := run_fetch_once describes bare statement bounds command _ coherent.forget
      exact ⟨after, (Action.run_bind_ok (run_clear_local stage coherent.opened)).trans ran, rest⟩

theorem run_update {T : Type} {configuration : Configuration (Stage T W)} (describes : driver.Describes ledger database)
    (bare : configuration.chain = Chain.empty) (statement : Statement) (parameter : Parameter) (stage : Stage T W)
    (opened : stage.own.closed = false) :
    ∃ world, (update configuration (database.staged T) statement parameter).run stage =
        ((driver.change configuration statement parameter (ledger stage.world)).1,
          { stage.forgotten with world := world }) ∧
      ledger world = ⟨(ledger stage.world).committed,
        (driver.change configuration statement parameter (ledger stage.world)).2⟩ := by
  obtain ⟨world, ran, left⟩ := run_send describes configuration bare statement parameter stage.forgotten
  refine ⟨world, ?_, left⟩
  refine (Action.run_bind_ok (run_ensure_open stage opened)).trans ?_
  exact (Action.run_bind_ok (run_clear_local stage opened)).trans ran

theorem run_opened {T : Type} (otherwise last : Action (Stage T W) Unit) (stage : Stage T W)
    (opened : stage.own.closed = false) :
    (do
        let closed ← Action.look fun stage => stage.own.closed
        if closed then otherwise
        else do
          clearLocal
          last : Action (Stage T W) Unit).run stage = last.run stage.forgotten := by
  rw [Action.run_bind_ok (Action.run_look _ _), opened]
  exact Action.run_bind_ok (run_clear_local stage opened)

theorem run_ending {T : Type} {ending : Action W Unit} (ledger : W → Ledger D) (change : Ledger D → Ledger D)
    (ends : ∀ world, ∃ after, ending.run world = (.ok (), after) ∧ ledger after = change (ledger world))
    (otherwise : Action (Stage T W) Unit) (required : Bool) (stage : Stage T W) (opened : stage.own.closed = false) :
    ∃ world, (do
        let closed ← Action.look fun stage => stage.own.closed
        if closed then otherwise
        else do
          clearLocal
          if required then Stage.inWorld ending else pure () : Action (Stage T W) Unit).run stage =
        (.ok (), { stage.forgotten with world := world }) ∧
      ledger world = (ledger stage.world).settle required change := by
  obtain ⟨world, ran, left⟩ := Database.run_ending ledger change ends required stage.forgotten
  exact ⟨world, (run_opened otherwise _ stage opened).trans ran, left⟩

end Direct

end StatementMapper
