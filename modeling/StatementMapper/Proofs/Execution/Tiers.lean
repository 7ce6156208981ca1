import StatementMapper.Proofs.Execution.Coherence

set_option autoImplicit false

namespace StatementMapper

open Cache
open Table (assign)

variable {D W : Type} {driver : Driver D} {ledger : W → Ledger D}

namespace Cache

theorem overlay_of_put (id : String) (buffer : Buffer) (buffers : Buffers) (below : Contents) :
    overlayOf (Table.put id buffer buffers) id below = buffer.overlay below := by
  rw [overlayOf, Table.get_put_same, Option.getD_some]

theorem Buffer.overlay_put (key : Key) (rows : Rows) (buffer : Buffer) (distinct : buffer.entries.Distinct)
    (below : Contents) : (buffer.put key rows).overlay below = assign (buffer.overlay below) (key, rows) := by
  funext query
  rw [overlay_lookup _ (Table.distinct_put _ _ _ distinct)]
  by_cases same : query = key
  · simp [assign, Buffer.put, same, Table.get_put_same]
  · rw [assign, if_neg same, overlay_lookup buffer distinct, put, Table.get_put_other same]

end Cache

namespace Coherent

variable {settings : Settings} {region : String} {stage : Stage Backing W}

-- A clear kept back hides the region from the session.
theorem clear (coherent : Coherent driver ledger settings region stage) :
    Coherent driver ledger settings region (stage.cleared region) := by
  refine { coherent with buffers := ?_, seen := ?_ }
  · exact Staging.well_kept_put _ _ _ coherent.buffers Table.distinct_nil
  · change Contents.Current driver settings _ (overlayOf (Table.put region Buffer.cleared stage.own.buffers) region _)
    rw [overlay_of_put]
    exact Contents.current_nothing

theorem put (coherent : Coherent driver ledger settings region stage) (statement : Statement) (bounds : Bounds)
    (command : Command) (rows : Rows)
    (countable : ∀ id sql inputs data rows, driver.answer id sql inputs data = .ok rows → rows.count < Word.signedBound)
    (fetched : driver.fetch statement bounds command (ledger stage.world).working = .ok rows) :
    Coherent driver ledger settings region (stage.setStaging
      (stage.staging.alter region (Buffer.put (Direct.keyOf settings statement bounds command) rows))) := by
  have distinct := Staging.well_kept_buffer region stage.staging coherent.buffers
  refine { coherent with buffers := ?_, seen := ?_ }
  · exact Staging.well_kept_put _ _ _ coherent.buffers (Table.distinct_put _ _ _ distinct)
  · have written := Contents.current_assign _ statement bounds command rows countable coherent.seen fetched
    rw [overlayOf, show (Table.get? region stage.own.buffers).getD {} = stage.staging.buffer region from rfl,
      ← Buffer.overlay_put _ _ _ distinct, ← overlay_of_put region _ stage.own.buffers] at written
    exact written

theorem thin (coherent : Coherent driver ledger settings region stage) (shared : Shared Backing)
    (left : Shared.Leaves stage.shared (fun id => stage.shared.contents id) shared) :
    Coherent driver ledger settings region
      (stage.setStaging ⟨Table.put region (stage.staging.buffer region) stage.own.buffers, shared⟩) := by
  refine { coherent with
    reachable := left.reachable
    registered := (left.registered region).mpr coherent.registered
    buffers := Staging.well_kept_put _ _ _ coherent.buffers (Staging.well_kept_buffer region stage.staging coherent.buffers)
    seen := Contents.current_within ?_ coherent.seen
    below := Contents.current_within (left.within region) coherent.below }
  change (overlayOf (Table.put region (stage.staging.buffer region) stage.own.buffers) region _).Within _
  rw [overlay_of_put]
  exact Buffer.overlay_within _ (left.within region)

-- A write changes the data under a clear that is kept back.
theorem write (coherent : Coherent driver ledger settings region stage) (world : W)
    (same : (ledger world).committed = (ledger stage.world).committed) :
    Coherent driver ledger settings region
      { (stage.cleared region).forgotten with world := world } := by
  refine { coherent.clear with own := Contents.current_nothing, seen := ?_, below := ?_ }
  · change Contents.Current driver settings _ (overlayOf (Table.put region Buffer.cleared stage.own.buffers) region _)
    rw [overlay_of_put]
    exact Contents.current_nothing
  · change Contents.Current driver settings (ledger world).committed (stage.shared.contents region)
    exact same ▸ coherent.below

-- A failed write goes back to what the session saw before its clear.
theorem restore (coherent : Coherent driver ledger settings region stage) (world : W)
    (same : ledger world = ledger stage.world) :
    Coherent driver ledger settings region
      (({ (stage.cleared region).forgotten with world := world } : Stage Backing W).setStaging
        ((stage.cleared region).staging.restore region (stage.staging.checkpoint region))) := by
  have shared : ((stage.cleared region).staging.restore region (stage.staging.checkpoint region)).shared = stage.shared :=
    Staging.restore_shared _ _ _
  have elsewhere (other : String) (different : other ≠ region) :
      Table.get? other (stage.cleared region).staging.buffers = Table.get? other stage.staging.buffers :=
    Table.get_put_other different _ _
  have buffers := Staging.well_kept_restore region stage.staging (stage.cleared region).staging elsewhere
    (Table.distinct_put _ _ _ coherent.buffers.regions) coherent.buffers
  have back := Staging.get_restore region region stage.staging (stage.cleared region).staging elsewhere
  generalize (stage.cleared region).staging.restore region (stage.staging.checkpoint region) = restored at *
  have reachable : restored.shared.Reachable := shared ▸ coherent.reachable
  have registered : restored.shared.Registered region := shared ▸ coherent.registered
  have seen : overlayOf restored.buffers region = overlayOf stage.own.buffers region := by
    funext below
    exact congrArg (fun found => (Option.getD found {}).overlay below) back
  refine { coherent with
    reachable := reachable
    registered := registered
    buffers := buffers
    own := Contents.current_nothing
    seen := ?_
    below := ?_ }
  · change Contents.Current driver settings (ledger world).working (overlayOf restored.buffers region
      (restored.shared.contents region))
    rw [same, seen, shared]
    exact coherent.seen
  · change Contents.Current driver settings (ledger world).committed (restored.shared.contents region)
    rw [same, shared]
    exact coherent.below

-- What a commit publishes is what the session saw, once the data it saw is committed.
theorem commit (coherent : Coherent driver ledger settings region stage) (world : W)
    (kept : (ledger world).working = (ledger stage.world).working) (settled : (ledger world).Settled)
    (shared : Shared Backing)
    (left : Shared.Leaves stage.shared (fun id => overlayOf stage.own.buffers id (stage.shared.contents id)) shared) :
    Coherent driver ledger settings region (({ stage.forgotten with world := world } : Stage Backing W).setStaging
      ⟨Staging.emptied stage.own.buffers, shared⟩) := by
  have published : Contents.Current driver settings (ledger world).working (shared.contents region) := by
    rw [kept]
    exact Contents.current_within (left.within region) coherent.seen
  refine { coherent with
    reachable := left.reachable
    registered := (left.registered region).mpr coherent.registered
    buffers := Staging.well_kept_emptied _ coherent.buffers
    own := Contents.current_nothing
    seen := ?_
    below := settled ▸ published }
  change Contents.Current driver settings (ledger world).working
    (overlayOf (Staging.emptied stage.own.buffers) region (shared.contents region))
  rw [Staging.overlay_of_emptied]
  exact published

theorem rollback (coherent : Coherent driver ledger settings region stage) (world : W)
    (undone : ledger world = (ledger stage.world).rollback) :
    Coherent driver ledger settings region { stage.forgotten.setStaging
      ⟨Staging.emptied stage.own.buffers, stage.shared⟩ with world := world } := by
  have below : Contents.Current driver settings (ledger world).committed (stage.shared.contents region) := by
    rw [undone]
    exact coherent.below
  refine { coherent with
    buffers := Staging.well_kept_emptied _ coherent.buffers
    own := Contents.current_nothing
    seen := ?_
    below := below }
  change Contents.Current driver settings (ledger world).working
    (overlayOf (Staging.emptied stage.own.buffers) region (stage.shared.contents region))
  rw [Staging.overlay_of_emptied, undone]
  exact coherent.below

end Coherent

namespace Caching

variable {database : Database W} {configuration : Configuration (Stage Backing W)} {region : String}
  {stage : Stage Backing W}

def Sound (outcome driven : Except Fault Rows) : Prop := ∀ rows, outcome = .ok rows → driven = .ok rows

theorem sound_refl (outcome : Except Fault Rows) : Sound outcome outcome := fun _ succeeded => succeeded

theorem sound_error (cause : Fault) (driven : Except Fault Rows) : Sound (.error cause) driven :=
  fun _ succeeded => nomatch succeeded

theorem run_region_of (statement : Statement) (reads : statement.Reads region)
    (coherent : Coherent driver ledger configuration.settings region stage) :
    (regionOf statement).run stage = (.ok statement.region, stage) := by
  unfold regionOf
  rcases reads with none | some
  · simp only [none]
    rfl
  · simp only [some]
    rw [Action.run_bind_ok (Action.run_look _ _), coherent.registered]
    rfl

theorem run_flush (statement : Statement)
    (coherent : Coherent driver ledger configuration.settings region stage) :
    ∃ after, (flush statement region).run stage = (.ok (), after) ∧ after.world = stage.world ∧
      Coherent driver ledger configuration.settings region after := by
  unfold flush
  cases statement.flushing with
  | false => exact ⟨stage, rfl, rfl, coherent⟩
  | true => exact ⟨_, rfl, rfl, coherent.clear⟩

theorem run_refuse_outputs (statement : Statement) (command : Command) (stage : Stage Backing W) :
    (refuseOutputs statement command).run stage = (.ok (), stage) ∨
      (refuseOutputs statement command).run stage = (.error (.cache (.outParameters statement.id)), stage) := by
  unfold refuseOutputs
  by_cases outputs : statement.form = .callable ∧ command.mappings.any (fun mapping => mapping.mode ≠ .input)
  · rw [if_pos outputs]
    exact Or.inr rfl
  · rw [if_neg outputs]
    exact Or.inl rfl

theorem run_consult (describes : driver.Describes ledger database) (bare : configuration.chain = Chain.empty)
    (statement : Statement) (parameter : Parameter) (bounds : Bounds) (command : Command)
    (coherent : Coherent driver ledger configuration.settings region stage) :
    ∃ outcome after, (consult (configuration.direct database) region statement parameter bounds
        (Direct.keyOf configuration.settings statement bounds command) command).run stage = (outcome, after) ∧
      Sound outcome (driver.fetch statement bounds command (ledger stage.world).working) ∧
      ledger after.world = ledger stage.world ∧ Coherent driver ledger configuration.settings region after := by
  unfold consult
  rcases run_refuse_outputs statement command stage with allowed | refused
  · rw [Action.run_bind_ok allowed]
    obtain ⟨shared, looked, left⟩ := Staging.run_get region (Direct.keyOf configuration.settings statement bounds command)
      stage.staging coherent.reachable coherent.registered coherent.buffers
    have thinned := coherent.thin shared left
    have asked : (Stage.inStaging (Staging.get region (Direct.keyOf configuration.settings statement bounds command))).run
        stage = (.ok ((stage.staging.buffer region).overlay (shared.contents region)
            (Direct.keyOf configuration.settings statement bounds command)),
          stage.setStaging ⟨Table.put region (stage.staging.buffer region) stage.own.buffers, shared⟩) := by
      rw [Stage.inStaging, Action.run_within, looked]
      rfl
    rw [Action.run_bind_ok asked]
    cases known : (stage.staging.buffer region).overlay (shared.contents region)
        (Direct.keyOf configuration.settings statement bounds command) with
    | some rows =>
        have seen := Contents.current_within (Buffer.overlay_within _ (left.within region)) coherent.seen
        have answered := Contents.fetch_of_current _ statement bounds command rows seen known
        exact ⟨.ok rows, _, rfl, fun _ same => answered.trans same, rfl, thinned⟩
    | none =>
        obtain ⟨after, ran, same, still⟩ :=
          Direct.run_query_bound describes bare statement bounds command _ thinned
        cases fetched : driver.fetch statement bounds command (ledger stage.world).working with
        | error cause =>
            exact ⟨.error cause, after, Action.run_bind_error (ran.trans (by rw [← fetched]; rfl)), sound_error _ _,
              same, still⟩
        | ok rows =>
            have put := still.put statement bounds command rows describes.countable (by rw [same]; exact fetched)
            refine ⟨.ok rows, after.setStaging (after.staging.alter region
              (Buffer.put (Direct.keyOf configuration.settings statement bounds command) rows)), ?_, sound_refl _, same, put⟩
            exact Action.run_bind_ok (ran.trans (by rw [← fetched]; rfl))
  · exact ⟨_, stage, Action.run_bind_error refused, sound_error _ _, rfl, coherent⟩

theorem run_query_bound (describes : driver.Describes ledger database) (bare : configuration.chain = Chain.empty)
    (statement : Statement) (parameter : Parameter) (bounds : Bounds) (command : Command)
    (reads : statement.Reads region) (coherent : Coherent driver ledger configuration.settings region stage) :
    ∃ outcome after, (queryBound (configuration.direct database) statement parameter bounds none
        (Direct.keyOf configuration.settings statement bounds command) command).run stage = (outcome, after) ∧
      Sound outcome (driver.fetch statement bounds command (ledger stage.world).working) ∧
      ledger after.world = ledger stage.world ∧ Coherent driver ledger configuration.settings region after := by
  rw [queryBound, Action.run_bind_ok (run_region_of statement reads coherent)]
  rcases reads with apart | shared
  · rw [apart]
    obtain ⟨after, ran, rest⟩ := Direct.run_query_bound describes bare statement bounds command stage coherent
    exact ⟨_, after, ran, sound_refl _, rest⟩
  · rw [shared]
    obtain ⟨flushed, ran, unmoved, ready⟩ := run_flush statement coherent
    rw [← unmoved]
    cases statement.cached with
    | true =>
        obtain ⟨outcome, after, consulted, rest⟩ := run_consult describes bare statement parameter bounds command ready
        exact ⟨outcome, after, (Action.run_bind_ok ran).trans consulted, rest⟩
    | false =>
        obtain ⟨after, fetched, rest⟩ := Direct.run_query_bound describes bare statement bounds command flushed ready
        exact ⟨_, after, (Action.run_bind_ok ran).trans fetched, sound_refl _, rest⟩

theorem run_query (describes : driver.Describes ledger database) (bare : configuration.chain = Chain.empty)
    (statement : Statement) (parameter : Parameter) (bounds : Bounds) (reads : statement.Reads region)
    (coherent : Coherent driver ledger configuration.settings region stage) :
    ∃ outcome after, (query configuration (configuration.direct database) statement parameter bounds none).run stage =
        (outcome, after) ∧
      Sound outcome (driver.select configuration statement parameter bounds (ledger stage.world).working) ∧
      ledger after.world = ledger stage.world ∧ Coherent driver ledger configuration.settings region after := by
  unfold query Driver.select
  cases made : configuration.command statement parameter with
  | error cause => exact ⟨.error cause, stage, rfl, sound_refl _, rfl, coherent⟩
  | ok command =>
      obtain ⟨outcome, after, ran, rest⟩ := run_query_bound describes bare statement parameter bounds command reads coherent
      have keyed : ((configuration.direct database).createKey statement parameter bounds command).run stage =
          (.ok (Direct.keyOf configuration.settings statement bounds command), stage) :=
        Action.run_bind_ok (Direct.run_ensure_open stage coherent.opened)
      refine ⟨outcome, after, ?_, rest⟩
      exact (Action.run_bind_ok (Action.run_answer command stage)).trans ((Action.run_bind_ok keyed).trans ran)

theorem run_update (describes : driver.Describes ledger database) (bare : configuration.chain = Chain.empty)
    (statement : Statement) (parameter : Parameter) (writes : statement.Writes region)
    (coherent : Coherent driver ledger configuration.settings region stage) :
    ∃ after, (update (configuration.direct database) statement parameter).run stage =
        ((driver.change configuration statement parameter (ledger stage.world)).1, after) ∧
      ledger after.world = ⟨(ledger stage.world).committed,
        (driver.change configuration statement parameter (ledger stage.world)).2⟩ ∧
      Coherent driver ledger configuration.settings region after := by
  rw [update, Action.run_bind_ok (run_region_of statement (Or.inr writes.1) coherent), writes.1]
  have flushed : (flush statement region).run stage =
      (.ok (), stage.cleared region) := by
    rw [flush, if_pos writes.2]
    rfl
  obtain ⟨world, ran, left⟩ := Direct.run_update describes bare statement parameter (stage.cleared region) coherent.opened
  change ledger world = ⟨(ledger stage.world).committed,
    (driver.change configuration statement parameter (ledger stage.world)).2⟩ at left
  have tried : (Action.attempt ((configuration.direct database).update statement parameter)).run
      (stage.cleared region) =
        (.ok (driver.change configuration statement parameter (ledger stage.world)).1,
          { (stage.cleared region).forgotten with world := world }) := by
    rw [Action.run_attempt]
    exact congrArg (fun result => (Except.ok result.1, result.2)) ran
  unfold updateIn
  rw [Action.run_bind_ok (Action.run_look _ _), Action.run_bind_ok flushed, Action.run_bind_ok tried]
  cases outcome : (driver.change configuration statement parameter (ledger stage.world)).1 with
  | ok count => exact ⟨_, rfl, left, coherent.write world (by rw [left])⟩
  | error cause =>
      have unchanged := Driver.change_failing describes configuration statement parameter (ledger stage.world) cause outcome
      exact ⟨_, rfl, left, coherent.restore world (by rw [left, unchanged])⟩

theorem run_commit (describes : driver.Describes ledger database) (required : Bool)
    (settled : required = false → (ledger stage.world).Settled)
    (coherent : Coherent driver ledger configuration.settings region stage) :
    ∃ after, (commit (configuration.direct database) required).run stage = (.ok (), after) ∧
      ledger after.world = (ledger stage.world).settle required Ledger.commit ∧
      Coherent driver ledger configuration.settings region after := by
  obtain ⟨world, ran, left⟩ := Direct.run_ending ledger Ledger.commit describes.commit _ required stage coherent.opened
  obtain ⟨shared, published, leaves⟩ := Staging.run_commit stage.staging coherent.reachable coherent.buffers
  have inside : (Stage.inStaging Staging.commit).run ({ stage.forgotten with world := world } : Stage Backing W) =
      (.ok (), ({ stage.forgotten with world := world } : Stage Backing W).setStaging
        ⟨Staging.emptied stage.own.buffers, shared⟩) := by
    rw [Stage.inStaging, Action.run_within]
    exact congrArg (fun result => (result.1, Stage.setStaging result.2 { stage.forgotten with world := world })) published
  refine ⟨_, (Action.run_bind_ok ran).trans inside, left, coherent.commit world ?_ ?_ shared leaves⟩
  · rw [left]
    cases required <;> rfl
  · rw [left]
    exact Ledger.settled_settle required _ _ rfl settled

theorem run_rollback (describes : driver.Describes ledger database) (required : Bool)
    (coherent : Coherent driver ledger configuration.settings region stage) :
    ∃ after, (rollback (configuration.direct database) required).run stage = (.ok (), after) ∧
      ledger after.world = (ledger stage.world).settle required Ledger.rollback ∧
      Coherent driver ledger configuration.settings region after := by
  obtain ⟨world, ran, left⟩ := Direct.run_ending ledger Ledger.rollback describes.rollback _ required stage coherent.opened
  have tried : (Action.attempt ((configuration.direct database).rollback required)).run stage =
      (.ok (.ok ()), { stage.forgotten with world := world }) := by
    rw [Action.run_attempt]
    exact congrArg (fun result => (Except.ok result.1, result.2)) ran
  rw [rollback, Action.run_bind_ok tried]
  cases required with
  | false => exact ⟨_, rfl, left, coherent.forget.elsewhere world left⟩
  | true => exact ⟨_, rfl, left, coherent.rollback world left⟩

theorem serves (describes : driver.Describes ledger database) (configuration : Configuration (Stage Backing W))
    (bare : configuration.chain = Chain.empty) (region : String) :
    Serves driver ledger configuration region Sound (Coherent driver ledger configuration.settings region)
      (configuration.caching database) where
  failed _ := sound_refl _
  query statement parameter bounds _ coherent reads :=
    run_query describes bare statement parameter bounds reads coherent
  update statement parameter _ coherent writes := run_update describes bare statement parameter writes coherent
  commit required _ coherent settled := run_commit describes required settled coherent
  rollback required _ coherent := run_rollback describes required coherent
  forget stage coherent := ⟨stage.forgotten, Direct.run_clear_local stage coherent.opened, rfl, coherent.forget⟩

end Caching

end StatementMapper
