import StatementMapper.Proofs.Cache.Thinning
import StatementMapper.Proofs.Session.Effects

set_option autoImplicit false

namespace StatementMapper

open Cache

variable {W : Type} {region : String}

namespace Own

def Pending (own : Own) (region : String) : Prop :=
  ∃ buffer, Table.get? region own.buffers = some buffer ∧ buffer.clearing = true

end Own

namespace Stage

def Known (region : String) (start stage : Stage Backing (Journaled W)) (key : Key) (rows : Rows) : Prop :=
  start.own.Holds region key rows ∨ Journal.Produced start.world.journal stage.world.journal rows

-- New rows are in the region only if it may publish.
structure Spreads (publishing : Prop) (region : String) (start stage : Stage Backing (Journaled W)) : Prop where
  grown : Journal.Grown (fun _ => True) start.world.journal stage.world.journal
  held : ∀ key rows, stage.own.Holds region key rows → Known region start stage key rows
  buffers : Staging.WellKept start.own.buffers → Staging.WellKept stage.own.buffers
  stored : Staging.WellKept start.own.buffers → ∀ key rows, stage.shared.contents region key = some rows →
    start.shared.contents region key = some rows ∨ publishing ∧ Known region start stage key rows

variable {publishing : Prop} {start middle stage : Stage Backing (Journaled W)}

theorem spreads_refl (publishing : Prop) (region : String) (stage : Stage Backing (Journaled W)) :
    Spreads publishing region stage stage :=
  ⟨Journal.grown_refl _ _, fun _ _ holds => Or.inl holds, id, fun _ _ _ found => Or.inl found⟩

theorem known_trans (first : Spreads publishing region start middle) (second : Spreads publishing region middle stage)
    (key : Key) (rows : Rows) (known : Known region middle stage key rows) : Known region start stage key rows := by
  rcases known with holds | produced
  · exact (first.held key rows holds).imp_right fun produced => Journal.produced_grown produced second.grown
  · exact Or.inr (Journal.grown_produced first.grown produced)

theorem spreads_trans (first : Spreads publishing region start middle) (second : Spreads publishing region middle stage) :
    Spreads publishing region start stage where
  grown := Journal.grown_trans first.grown second.grown
  held := fun key rows holds => known_trans first second key rows (second.held key rows holds)
  buffers := fun kept => second.buffers (first.buffers kept)
  stored := by
    intro kept key rows found
    rcases second.stored (first.buffers kept) key rows found with before | ⟨publishes, known⟩
    · refine (first.stored kept key rows before).imp_right fun ⟨publishes, known⟩ => ⟨publishes, ?_⟩
      exact known.imp_right fun produced => Journal.produced_grown produced second.grown
    · exact Or.inr ⟨publishes, known_trans first second key rows known⟩

theorem Moves.spreads {allow : Entry → Prop} (publishing : Prop) (moves : Moves Shared.Thins allow region start stage) :
    Spreads publishing region start stage :=
  ⟨Journal.grown_weaken moves.grown fun _ _ => trivial, moves.held, moves.buffers,
    fun _ key rows found => Or.inl (moves.thinned region key rows found)⟩

theorem spreads_ended (publishing : Prop) (region : String) (world : W) (later : Journal)
    (stage : Stage Backing (Journaled W)) : Spreads publishing region stage (stage.ended world later) :=
  ⟨⟨later, rfl, fun _ _ => trivial⟩, fun _ _ holds => holds.elim (fun staged => Or.inl (Or.inl staged)) nofun, id,
    fun _ _ _ found => Or.inl found⟩

theorem spreads_unstaged (publishing : Prop) (region : String) (stage : Stage Backing (Journaled W)) :
    Spreads publishing region stage stage.unstaged where
  grown := Journal.grown_refl _ _
  held := fun key rows holds =>
    Or.inl (Or.inr (holds.resolve_left (not_staged_unstaged stage region key rows)))
  buffers := Staging.well_kept_emptied _
  stored := fun _ _ _ found => Or.inl found

theorem spreads_shut (publishing : Prop) (region : String) (stage : Stage Backing (Journaled W)) :
    Spreads publishing region stage stage.shut :=
  ⟨Journal.grown_refl _ _, fun _ _ holds => holds.elim (fun staged => Or.inl (Or.inl staged)) nofun, id,
    fun _ _ _ found => Or.inl found⟩

theorem published_eq (stage : Stage Backing (Journaled W)) :
    stage.published = { stage.unstaged with shared := ((Staging.publishAll stage.own.buffers).run stage.shared).2 } :=
  congrArg Prod.snd (run_publish stage)

-- What a region has after a publication was staged for it or, unless a clear was pending, there before.
theorem stored_published (kept : Staging.WellKept stage.own.buffers) (key : Key) (rows : Rows)
    (found : stage.published.shared.contents region key = some rows) :
    stage.own.Staged region key rows ∨
      ¬ stage.own.Pending region ∧ stage.shared.contents region key = some rows := by
  rw [published_eq] at found
  rcases Shared.stored_publish_all stage.own.buffers kept stage.shared region key rows found with staged | ⟨still, before⟩
  · exact Or.inl staged
  · refine Or.inr ⟨?_, before⟩
    rintro ⟨buffer, here, clears⟩
    cases (still buffer here).symm.trans clears

theorem spreads_published (publishes : publishing) (region : String) (stage : Stage Backing (Journaled W)) :
    Spreads publishing region stage stage.published where
  grown := by
    rw [published_eq]
    exact Journal.grown_refl _ _
  held := by
    rw [published_eq]
    exact (spreads_unstaged publishing region stage).held
  buffers := by
    rw [published_eq]
    exact Staging.well_kept_emptied _
  stored := fun kept key rows found =>
    (stored_published kept key rows found).elim (fun staged => Or.inr ⟨publishes, Or.inl (Or.inl staged)⟩)
      fun before => Or.inl before.2

end Stage

namespace Session

variable {configuration : Configuration (Stage Backing (Journaled W))} {database : Database W} {autoCommit : Bool}
  {work after : Work Backing (Journaled W)} {required : Bool}

theorem spreads_commit (commits : Commits required work after) : Stage.Spreads True region work.stage after.stage := by
  cases commits with
  | refused closed => exact Stage.spreads_refl _ _ _
  | failed opened world => exact Stage.spreads_ended _ _ _ _ _
  | published opened world dirty =>
      exact Stage.spreads_trans (Stage.spreads_ended _ _ _ _ _) (Stage.spreads_published trivial _ _)

theorem spreads_rollback (publishing : Prop) (rolls : RollsBack required work after) :
    Stage.Spreads publishing region work.stage after.stage := by
  cases rolls with
  | closed closed =>
      cases required with
      | true => exact Stage.spreads_unstaged _ _ _
      | false => exact Stage.spreads_refl _ _ _
  | ended opened world outcome =>
      cases required with
      | true => exact Stage.spreads_trans (Stage.spreads_ended _ _ _ _ _) (Stage.spreads_unstaged _ _ _)
      | false => exact Stage.spreads_ended _ _ _ _ _

theorem spreads_close (closes : Closes required work after) : Stage.Spreads True region work.stage after.stage := by
  cases closes with
  | already closed => exact Stage.spreads_refl _ _ _
  | shut opened world undone =>
      have settled : Stage.Spreads True region work.stage
          (if required then work.stage.unstaged else work.stage.published) := by
        cases required with
        | true => exact Stage.spreads_unstaged _ _ _
        | false => exact Stage.spreads_published trivial _ _
      exact Stage.spreads_trans settled (Stage.spreads_trans (Stage.spreads_ended _ _ _ _ _) (Stage.spreads_shut _ _ _))

theorem spreads_perform (bare : configuration.chain = Chain.empty) (sharing : configuration.settings.sharing = true)
    (operation : Operation Backing (Journaled W)) (discreet : operation.Discreet Shared.Thins)
    (work : Work Backing (Journaled W)) :
    Stage.Spreads operation.Publishes region work.stage
      (((journaled configuration database autoCommit).perform operation).run work).2.stage := by
  have ended : Performs Shared.Thins region (journaled configuration database autoCommit) work operation
      (((journaled configuration database autoCommit).perform operation).run work).2 :=
    performs Shared.thins_refl Shared.thins_trans Shared.thins_get bare sharing operation discreet work
  generalize (((journaled configuration database autoCommit).perform operation).run work).2 = after at ended ⊢
  cases ended with
  | reads reads moves => exact moves.stage.spreads _
  | unknown => exact Stage.spreads_refl _ _ _
  | writes dirty moves => exact moves.spreads _
  | commits commits => exact spreads_commit commits
  | rollsBack rolls => exact spreads_rollback _ rolls
  | closes closes => exact spreads_close closes

def Operation.Keeps (session : Session Backing (Journaled W)) (work : Work Backing (Journaled W)) :
    Operation Backing (Journaled W) → Prop
  | .commit _ => True
  | .close => session.required false work = false
  | _ => False

section

variable (kept : Staging.WellKept work.stage.own.buffers) (pending : work.stage.own.Pending region)

include kept pending

theorem staged_of_published {stage : Stage Backing (Journaled W)} (same : stage.own.buffers = work.stage.own.buffers)
    (key : Key) (rows : Rows) (found : stage.published.shared.contents region key = some rows) :
    work.stage.own.Staged region key rows := by
  unfold Own.Staged Own.Pending at *
  rw [← same] at pending ⊢
  exact (Stage.stored_published (same ▸ kept) key rows found).resolve_right fun cleared => cleared.1 pending

theorem stored_commit (commits : Commits required work after) (done : ¬ after.stage.own.Pending region) (key : Key)
    (rows : Rows) (found : after.stage.shared.contents region key = some rows) :
    work.stage.own.Staged region key rows := by
  cases commits with
  | refused closed => exact absurd pending done
  | failed opened world => exact absurd pending done
  | published opened world dirty => exact staged_of_published kept pending rfl key rows found

theorem stored_close (closes : Closes false work after) (done : ¬ after.stage.own.Pending region) (key : Key)
    (rows : Rows) (found : after.stage.shared.contents region key = some rows) :
    work.stage.own.Staged region key rows := by
  cases closes with
  | already closed => exact absurd pending done
  | shut opened world undone => exact staged_of_published kept pending rfl key rows found

theorem stored_kept (bare : configuration.chain = Chain.empty) (sharing : configuration.settings.sharing = true)
    (operation : Operation Backing (Journaled W))
    (keeps : operation.Keeps (journaled configuration database autoCommit) work)
    (done : ¬ (((journaled configuration database autoCommit).perform operation).run work).2.stage.own.Pending region)
    (key : Key) (rows : Rows)
    (found : (((journaled configuration database autoCommit).perform operation).run work).2.stage.shared.contents region
      key = some rows) :
    work.stage.own.Staged region key rows := by
  cases operation with
  | commit forced =>
      rw [perform, Action.after_map _ fun _ => Answer.done] at done found
      exact stored_commit kept pending (commit_commits bare sharing forced work) done key rows found
  | close =>
      have idle : (journaled configuration database autoCommit).required false work = false := keeps
      rw [perform, Action.after_map _ fun _ => Answer.done] at done found
      have closes := @close_closes Backing W _ configuration database autoCommit bare sharing work
      rw [idle] at closes
      exact stored_close kept pending closes done key rows found
  | list id parameter bounds => exact keeps.elim
  | one id parameter => exact keeps.elim
  | each id parameter bounds receiver => exact keeps.elim
  | update id parameter => exact keeps.elim
  | rollback forced => exact keeps.elim
  | clearCache => exact keeps.elim

end

end Session

end StatementMapper
