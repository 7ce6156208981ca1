import StatementMapper.Proofs.Execution.Holding

set_option autoImplicit false

namespace StatementMapper

open Cache
open Stage (Moves Steady Knows)

variable {T W : Type} {thins : Shared T → Shared T → Prop} {allow : Entry → Prop} {region : String}
  {start stage : Stage T (Journaled W)} {database : Database W} {configuration : Configuration (Stage T (Journaled W))}

namespace Stage

def withBuffer (id : String) (buffer : Buffer) (stage : Stage T W) : Stage T W :=
  { stage with own := { stage.own with buffers := Table.put id buffer stage.own.buffers } }

theorem Moves.buffer (moves : Moves thins allow region start stage) (id : String) (buffer : Buffer)
    (distinct : Staging.WellKept stage.own.buffers → buffer.entries.Distinct)
    (known : id = region → ∀ key rows, Table.get? key buffer.entries = some rows →
      start.own.Holds region key rows ∨ Journal.Produced start.world.journal stage.world.journal rows) :
    Moves thins allow region start (stage.withBuffer id buffer) :=
  { moves with
    buffers := fun kept =>
      Staging.well_kept_put id buffer _ (moves.buffers kept) (distinct (moves.buffers kept))
    held := by
      rintro key rows (⟨found, there, entry⟩ | kept)
      · by_cases same : region = id
        · rw [withBuffer, same, Table.get_put_same, Option.some.injEq] at there
          exact known same.symm key rows (there ▸ entry)
        · rw [withBuffer, Table.get_put_other same] at there
          exact moves.held key rows (Or.inl ⟨found, there, entry⟩)
      · exact moves.held key rows (Or.inr kept) }

theorem staged_of_buffer {V : Type} {stage : Stage T V} (id : String) (key : Key) (rows : Rows)
    (found : Table.get? key (stage.staging.buffer id).entries = some rows) : stage.own.Staged id key rows := by
  unfold Staging.buffer at found
  cases there : Table.get? id stage.staging.buffers with
  | none =>
      rw [there] at found
      exact nomatch found
  | some buffer =>
      rw [there] at found
      exact ⟨buffer, there, found⟩

theorem Moves.touch (moves : Moves thins allow region start stage) (id : String) :
    Moves thins allow region start (stage.withBuffer id (stage.staging.buffer id)) :=
  moves.buffer id _ (Staging.well_kept_buffer id stage.staging) fun same key rows found =>
    moves.held key rows (Or.inl (same ▸ staged_of_buffer id key rows found))

theorem Moves.clear (moves : Moves thins allow region start stage) (id : String) :
    Moves thins allow region start (stage.cleared id) :=
  moves.buffer id Buffer.cleared (fun _ => Table.distinct_nil) fun _ _ _ found => nomatch found

theorem Moves.put (id : String) (key : Key) (rows : Rows) (knows : Knows thins allow region start key rows stage) :
    Moves thins allow region start (stage.withBuffer id (Buffer.put key rows (stage.staging.buffer id))) := by
  refine knows.1.buffer id _ (fun kept => Table.distinct_put _ _ _ (Staging.well_kept_buffer id stage.staging kept)) ?_
  intro same other found entry
  by_cases here : other = key
  · rw [here, Buffer.put, Table.get_put_same, Option.some.injEq] at entry
    exact here ▸ entry ▸ knows.2
  · rw [Buffer.put, Table.get_put_other here] at entry
    exact knows.1.held other found (Or.inl (same ▸ staged_of_buffer id other found entry))

theorem Moves.restore (moves : Moves thins allow region start stage) (id : String)
    (elsewhere : ∀ other, other ≠ id → Table.get? other stage.own.buffers = Table.get? other start.own.buffers) :
    Moves thins allow region start (stage.setStaging (stage.staging.restore id (start.staging.checkpoint id))) where
  closed := moves.closed
  grown := moves.grown
  held := by
    rintro key rows (⟨buffer, there, entry⟩ | kept)
    · have back := Staging.get_restore id region start.staging stage.staging elsewhere
      exact Or.inl (Or.inl ⟨buffer, back.symm.trans there, entry⟩)
    · exact moves.held key rows (Or.inr kept)
  buffers := fun kept =>
    Staging.well_kept_restore id start.staging stage.staging elsewhere (moves.buffers kept).regions kept
  thinned := by
    have same := Staging.restore_shared id (start.staging.checkpoint id) stage.staging
    change thins start.shared (stage.staging.restore id (start.staging.checkpoint id)).shared
    rw [same]
    exact moves.thinned

end Stage

namespace Caching

theorem run_region_of_cases (statement : Statement) (stage : Stage T W) :
    (regionOf statement).run stage = (.ok statement.region, stage) ∨
      ∃ cause, (regionOf statement).run stage = (.error cause, stage) := by
  unfold regionOf
  cases statement.region with
  | none => exact Or.inl rfl
  | some space =>
      rw [Action.run_bind_ok (Action.run_look _ _)]
      cases Table.contains space stage.shared.regions with
      | true => exact Or.inl rfl
      | false => exact Or.inr ⟨_, rfl⟩

theorem triple_region_of (good : Stage T W → Prop) (statement : Statement) :
    Action.Triple good (regionOf statement) (fun _ => good) good := by
  intro stage holds
  rcases run_region_of_cases statement stage with ran | ⟨cause, ran⟩
  · rw [ran]
    exact holds
  · rw [ran]
    exact holds

theorem triple_refuse_outputs (good : Stage T W → Prop) (statement : Statement) (command : Command) :
    Action.Triple good (refuseOutputs statement command) (fun _ => good) good := by
  unfold refuseOutputs
  by_cases outputs : statement.form = .callable ∧ command.mappings.any (fun mapping => mapping.mode ≠ .input)
  · rw [if_pos outputs]
    exact Action.triple_fail fun _ holds => holds
  · rw [if_neg outputs]
    exact Action.triple_pure fun _ holds => holds

theorem steady_flush (statement : Statement) (id : String) : Steady thins allow region start (flush statement id) := by
  unfold flush
  cases statement.flushing with
  | true => exact Action.triple_change fun _ moves => moves.clear id
  | false => exact Action.triple_pure fun _ moves => moves

variable [Store T]

def Looks (thins : Shared T → Shared T → Prop) : Prop := ∀ id key buffer shared,
  thins shared ((Shared.inRegion id none fun now => Buffer.get buffer now key).run shared).2

theorem run_get_staged (id : String) (key : Key) (stage : Stage T W) :
    (Stage.inStaging (Staging.get id key)).run stage =
      (((Shared.inRegion id none fun now => (stage.staging.buffer id).get now key).run stage.shared).1,
        { stage.withBuffer id (stage.staging.buffer id) with
          shared := ((Shared.inRegion id none fun now => (stage.staging.buffer id).get now key).run stage.shared).2 }) := by
  have same : (Staging.alter id (fun buffer => buffer) stage.staging).buffer id = stage.staging.buffer id := by
    simp only [Staging.alter, Staging.buffer, Table.get_put_same, Option.getD_some]
  rw [Stage.inStaging, Action.run_within, Staging.get, Action.run_bind_ok (Action.run_change _ _),
    Action.run_bind_ok (Action.run_look _ _), same, Staging.inShared, Action.run_within]
  rfl

theorem steady_get (trans : ∀ first second third, thins first second → thins second third → thins first third)
    (looks : Looks thins) (id : String) (key : Key) :
    Steady thins allow region start (Stage.inStaging (Staging.get id key)) := by
  intro stage moves
  have touched := (moves.touch id).share trans _ (looks id key (stage.staging.buffer id) stage.shared)
  rw [run_get_staged]
  cases ((Shared.inRegion id none fun now => (stage.staging.buffer id).get now key).run stage.shared).1 with
  | ok found => exact touched
  | error cause => exact touched

variable (trans : ∀ first second third, thins first second → thins second third → thins first third)
  (looks : Looks thins) (answers : ∀ rows, allow (.answered rows)) (bare : configuration.chain = Chain.empty)

include trans looks answers bare

theorem steady_consult (id : String) (statement : Statement) (parameter : Parameter) (bounds : Bounds) (key : Key)
    (command : Command) :
    Steady thins allow region start
      (consult (configuration.direct database.journaled) id statement parameter bounds key command) := by
  refine Action.triple_bind (fun _ => Moves thins allow region start) (triple_refuse_outputs _ statement command)
    fun _ => ?_
  refine Action.triple_bind (fun _ => Moves thins allow region start) (steady_get trans looks id key) fun known => ?_
  cases known with
  | some rows => exact Action.triple_pure fun _ moves => moves
  | none =>
      refine Action.triple_bind (Knows thins allow region start key)
        (Direct.triple_query_bound answers bare statement bounds key command) fun rows => ?_
      refine Action.triple_bind (fun _ => Moves thins allow region start) ?_ fun _ =>
        Action.triple_pure fun _ moves => moves
      exact Action.triple_change fun stage knows => Stage.Moves.put id key rows knows

theorem steady_query_bound (statement : Statement) (parameter : Parameter) (bounds : Bounds)
    (receiver : Option (RowHandler (Stage T (Journaled W))))
    (discreet : ∀ handler, receiver = some handler → handler.Discreet thins) (key : Key) (command : Command) :
    Steady thins allow region start
      (queryBound (configuration.direct database.journaled) statement parameter bounds receiver key command) := by
  have served : Steady thins allow region start
      ((configuration.direct database.journaled).queryBound statement parameter bounds receiver key command) :=
    Direct.steady_query_bound trans answers bare statement bounds receiver discreet key command
  refine Action.triple_bind (fun _ => Moves thins allow region start) (triple_region_of _ statement) fun known => ?_
  cases known with
  | none => exact served
  | some id =>
      refine Action.triple_bind (fun _ => Moves thins allow region start) (steady_flush statement id) fun _ => ?_
      cases statement.cached && receiver.isNone with
      | true => exact steady_consult trans looks answers bare id statement parameter bounds key command
      | false => exact served

theorem steady_query (statement : Statement) (parameter : Parameter) (bounds : Bounds)
    (receiver : Option (RowHandler (Stage T (Journaled W))))
    (discreet : ∀ handler, receiver = some handler → handler.Discreet thins) :
    Steady thins allow region start
      (query configuration (configuration.direct database.journaled) statement parameter bounds receiver) := by
  refine Action.triple_bind (fun _ => Moves thins allow region start)
    (Action.triple_of_except (fun _ _ _ moves => moves) fun _ moves => moves) fun command => ?_
  refine Action.triple_bind (fun _ => Moves thins allow region start) ?_ fun key =>
    steady_query_bound trans looks answers bare statement parameter bounds receiver discreet key command
  exact Action.triple_bind (fun _ => Moves thins allow region start) (Direct.triple_ensure_open _)
    fun _ => Action.triple_pure fun _ moves => moves

end Caching

namespace Direct

theorem run_update_moves (bare : configuration.chain = Chain.empty) (statement : Statement) (parameter : Parameter)
    (stage : Stage T (Journaled W)) (moves : Moves thins (fun entry => entry = .wrote) region start stage) :
    ∃ outcome after, (update configuration (database.journaled.staged T) statement parameter).run stage =
        (outcome, after) ∧ Moves thins (fun entry => entry = .wrote) region start after ∧
      after.own.buffers = stage.own.buffers ∧ ∀ count, outcome = .ok count → ∀ key, after.own.kept.get? key = none := by
  rcases run_update_journaled bare statement parameter stage with
    ⟨cause, ran⟩ | ⟨outcome, world, ran, grown⟩
  · exact ⟨_, _, ran, moves, rfl, nofun⟩
  · exact ⟨_, _, ran, moves.forget.elsewhere world grown, rfl, fun _ _ _ => rfl⟩

end Direct

namespace Caching

variable (refl : ∀ shared, thins shared shared) (bare : configuration.chain = Chain.empty)

include refl bare

theorem run_update_in (id : String) (statement : Statement) (parameter : Parameter) (stage : Stage T (Journaled W)) :
    ∃ outcome after, (updateIn (configuration.direct database.journaled) id statement parameter).run stage =
        (outcome, after) ∧ Moves thins (fun entry => entry = .wrote) region stage after ∧
      (∀ count, outcome = .ok count → id = region → statement.flushing = true →
        ∀ key rows, ¬ after.own.Holds region key rows) := by
  have idle : Moves thins (fun entry => entry = .wrote) region stage stage := Stage.moves_refl refl stage
  obtain ⟨flushed, ran, moves, elsewhere, emptied⟩ : ∃ flushed, (flush statement id).run stage = (.ok (), flushed) ∧
      Moves thins (fun entry => entry = .wrote) region stage flushed ∧
      (∀ other, other ≠ id → Table.get? other flushed.own.buffers = Table.get? other stage.own.buffers) ∧
      (statement.flushing = true → Table.get? id flushed.own.buffers = some Buffer.cleared) := by
    unfold flush
    cases statement.flushing with
    | true =>
        exact ⟨stage.cleared id, rfl, idle.clear id, fun _ different => Table.get_put_other different _ _,
          fun _ => Table.get_put_same _ _ _⟩
    | false => exact ⟨stage, rfl, idle, fun _ _ => rfl, fun flushing => absurd flushing Bool.false_ne_true⟩
  obtain ⟨outcome, after, wrote, still, same, forgotten⟩ :=
    Direct.run_update_moves bare statement parameter flushed moves
  have tried : (Action.attempt ((configuration.direct database.journaled).update statement parameter)).run flushed =
      (.ok outcome, after) := by
    rw [Action.run_attempt]
    exact congrArg (fun result => (Except.ok result.1, result.2)) wrote
  unfold updateIn
  rw [Action.run_bind_ok (Action.run_look _ _), Action.run_bind_ok ran, Action.run_bind_ok tried]
  cases outcome with
  | ok count =>
      refine ⟨.ok count, after, rfl, still, ?_⟩
      rintro _ - rfl flushing key rows (⟨buffer, there, entry⟩ | kept)
      · rw [same, emptied flushing, Option.some.injEq] at there
        subst there
        cases entry
      · rw [forgotten count rfl] at kept
        cases kept
  | error cause =>
      refine ⟨.error cause, _, rfl, still.restore id (same ▸ elsewhere), ?_⟩
      intro count answered
      cases answered

-- A write publishes nothing, and if it answers and flushes the region, the session holds nothing for the region.
theorem run_update_moves (statement : Statement) (parameter : Parameter) (stage : Stage T (Journaled W)) :
    ∃ outcome after, (update (configuration.direct database.journaled) statement parameter).run stage =
        (outcome, after) ∧ Moves thins (fun entry => entry = .wrote) region stage after ∧
      (∀ count, outcome = .ok count → statement.region = some region → statement.flushing = true →
        ∀ key rows, ¬ after.own.Holds region key rows) := by
  have idle : Moves thins (fun entry => entry = .wrote) region stage stage := Stage.moves_refl refl stage
  unfold update
  rcases run_region_of_cases statement stage with known | ⟨cause, unknown⟩
  · rw [Action.run_bind_ok known]
    cases statement.region with
    | none =>
        obtain ⟨outcome, after, ran, moves, _⟩ :=
          Direct.run_update_moves bare statement parameter stage idle
        exact ⟨outcome, after, ran, moves, nofun⟩
    | some id =>
        obtain ⟨outcome, after, ran, moves, flushed⟩ := run_update_in refl bare id statement parameter stage
        exact ⟨outcome, after, ran, moves, fun count answered same => flushed count answered (Option.some.inj same)⟩
  · exact ⟨.error cause, stage, Action.run_bind_error unknown, idle, nofun⟩

end Caching

end StatementMapper
