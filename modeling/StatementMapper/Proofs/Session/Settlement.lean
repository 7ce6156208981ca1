import Mathlib.Data.List.Induction
import StatementMapper.Proofs.Cache.Thinning
import StatementMapper.Proofs.Session.Effects
import StatementMapper.Proofs.Session.Transparency

set_option autoImplicit false

/-! Staged rows come to a region by a commit or a close alone, once every write is settled; a rollback discards them. -/

namespace StatementMapper

open Cache

variable {T W : Type}

namespace Caching

variable [Store T]

def commitBy (publish : Action (Stage T W) Unit) (inner : Executor (Stage T W)) (required : Bool) :
    Action (Stage T W) Unit := do
  inner.commit required
  publish

def closeBy (publish : Action (Stage T W) Unit) (inner : Executor (Stage T W)) (forced : Bool) :
    Action (Stage T W) Unit := do
  let settled ← Action.attempt (if forced then Stage.inStaging Staging.rollback else publish)
  let closed ← Action.attempt (inner.close forced)
  Action.ofExcept (settled.bind fun _ => closed)

-- The executor with another way to publish what a session keeps back.
def publishing (publish : Action (Stage T W) Unit) (configuration : Configuration (Stage T W))
    (inner : Executor (Stage T W)) : Executor (Stage T W) where
  view := inner.view
  call
    | .commit, (required, ()) => commitBy publish inner required
    | .close, (forced, ()) => closeBy publish inner forced
    | step, arguments => (executor configuration inner).call step arguments

theorem publishing_commit (configuration : Configuration (Stage T W)) (inner : Executor (Stage T W)) :
    publishing (Stage.inStaging Staging.commit) configuration inner = executor configuration inner := by
  unfold publishing executor
  congr 1
  funext step arguments
  cases step <;> rfl

-- Publishes where a condition holds; elsewhere does anything.
def publishIf (allowed : Stage T W → Prop) [DecidablePred allowed] (otherwise : Action (Stage T W) Unit) :
    Action (Stage T W) Unit := fun stage =>
  if allowed stage then (Stage.inStaging Staging.commit).run stage else otherwise.run stage

end Caching

namespace Journal

-- When rows that have been staged since a past may be published.
def MayPublish (past journal : Journal) : Prop :=
  journal.Settled ∧ past <+: journal ∧ Entry.rolledBack ∉ journal.drop past.length ∧
    (¬ past.Settled → Entry.committed ∈ journal.drop past.length)

instance (past journal : Journal) : Decidable (MayPublish past journal) :=
  inferInstanceAs (Decidable (_ ∧ _ ∧ _ ∧ _))

theorem may_publish (past later : Journal) (settled : Settled (past ++ later)) (kept : Entry.rolledBack ∉ later) :
    MayPublish past (past ++ later) := by
  refine ⟨settled, List.prefix_append past later, ?_, fun unsettled => ?_⟩
  · rwa [List.drop_left]
  · rw [List.drop_left]
    exact (ended_of_settled past later unsettled settled).resolve_right kept

end Journal

namespace Session

-- What happens to a session: what it does itself, and whatever others do to the regions and to the world.
inductive Event (T W : Type) where
  | own (operation : Operation T (Journaled W)) (discreet : operation.Discreet fun _ _ => True)
  | elsewhere (shared : Shared T) (world : W)

def opened (shared : Shared T) (world : W) : Work T (Journaled W) := { stage := ⟨{}, shared, { world }⟩ }

-- A session that is not dirty has no write open.
def Orderly (work : Work T (Journaled W)) : Prop :=
  work.dirty = false → work.stage.own.closed = false → work.stage.world.journal.Settled

structure Advances (work after : Work T (Journaled W)) : Prop where
  orderly : Orderly work → Orderly after
  grown : ∃ later, after.stage.world.journal = work.stage.world.journal ++ later ∧
    (Entry.rolledBack ∈ later → ∀ region key rows, ¬ after.stage.own.Staged region key rows)

theorem advances_by {work after : Work T (Journaled W)} (later : Journal)
    (grown : after.stage.world.journal = work.stage.world.journal ++ later)
    (settles : Orderly work → after.dirty = false → after.stage.own.closed = false →
      Journal.Settled (work.stage.world.journal ++ later))
    (discards : Entry.rolledBack ∈ later → ∀ region key rows, ¬ after.stage.own.Staged region key rows) :
    Advances work after :=
  ⟨fun orderly clean opened => grown.symm ▸ settles orderly clean opened, later, grown, discards⟩

theorem advances_refl (work : Work T (Journaled W)) : Advances work work :=
  ⟨id, [], (List.append_nil _).symm, nofun⟩

theorem settled_ending {journal : Journal} {required : Bool} (entry : Entry)
    (ends : entry = .committed ∨ entry = .rolledBack) (idle : required = false → journal.Settled) :
    Journal.Settled (journal ++ Journal.ending required entry (.ok ())) := by
  cases required with
  | true => exact Journal.settled_ended _ entry ends
  | false =>
      rw [show Journal.ending false entry (.ok ()) = [] from rfl, List.append_nil]
      exact idle rfl

theorem not_rolled_back_ending (required : Bool) (outcome : Except Fault Unit) :
    Entry.rolledBack ∉ Journal.ending required .committed outcome := by
  cases required <;> rcases outcome with cause | done <;> simp [Journal.ending]

section

variable (past later : Journal) (work : Work T (Journaled W)) (orderly : Orderly work)
  (grown : work.stage.world.journal = past ++ later) (kept : Entry.rolledBack ∉ later)

include orderly grown kept

theorem may_publish_committed (required : Bool) (idle : required = false → work.dirty = false)
    (still : work.stage.own.closed = false) :
    past.MayPublish (work.stage.world.journal ++ Journal.ending required .committed (.ok ())) := by
  have settled := settled_ending .committed (Or.inl rfl) fun optional => orderly (idle optional) still
  rw [grown, List.append_assoc] at settled ⊢
  refine Journal.may_publish past _ settled fun member => ?_
  exact (List.mem_append.mp member).elim kept (not_rolled_back_ending _ _)

theorem may_publish_clean (clean : work.dirty = false) (still : work.stage.own.closed = false) :
    past.MayPublish work.stage.world.journal := by
  have settled := orderly clean still
  rw [grown] at settled ⊢
  exact Journal.may_publish past later settled kept

end

def occur (session : Session T (Journaled W)) (work : Work T (Journaled W)) : Event T W → Work T (Journaled W)
  | .own operation _ => ((session.perform operation).run work).2
  | .elsewhere shared world =>
    { work with stage := { work.stage with shared, world := { work.stage.world with world } } }

def course (session : Session T (Journaled W)) (events : List (Event T W)) (work : Work T (Journaled W)) :
    Work T (Journaled W) := events.foldl (occur session) work

theorem course_snoc (session : Session T (Journaled W)) (events : List (Event T W)) (event : Event T W)
    (work : Work T (Journaled W)) :
    session.course (events ++ [event]) work = session.occur (session.course events work) event :=
  List.foldl_append

theorem course_append (session : Session T (Journaled W)) (earlier later : List (Event T W))
    (work : Work T (Journaled W)) :
    session.course (earlier ++ later) work = session.course later (session.course earlier work) :=
  List.foldl_append

theorem advances_rollback (work after : Work T (Journaled W)) (required : Bool)
    (idle : required = false → work.dirty = false) (rolls : RollsBack required work after) : Advances work after := by
  cases rolls with
  | closed closed =>
      refine advances_by [] ?_ (fun _ _ still => ?_) nofun
      · cases required <;> exact (List.append_nil _).symm
      · cases required <;> exact absurd (closed.symm.trans still) (by decide)
  | ended opened world outcome =>
      cases required with
      | false =>
          refine advances_by [] rfl (fun orderly _ _ => ?_) nofun
          rw [List.append_nil]
          exact orderly (idle rfl) opened
      | true =>
          refine advances_by (Journal.ending true .rolledBack outcome) rfl (fun orderly clean _ => ?_)
            fun _ region key rows => Stage.not_staged_unstaged _ region key rows
          cases outcome with
          | ok done => exact Journal.settled_ended _ .rolledBack (Or.inr rfl)
          | error cause =>
              rw [show Journal.ending true .rolledBack (.error cause) = [] from rfl, List.append_nil]
              exact orderly clean opened

theorem rolled_back_shared {work after : Work T (Journaled W)} {required : Bool} (rolls : RollsBack required work after) :
    after.stage.shared = work.stage.shared := by
  cases rolls with
  | closed closed => cases required <;> rfl
  | ended opened world outcome => cases required <;> rfl

theorem on_stage_congr {A : Type} {action other : Action (Stage T W) A} {work : Work T W}
    (same : action.run work.stage = other.run work.stage) : (onStage action).run work = (onStage other).run work := by
  rw [onStage, onStage, Action.run_within, Action.run_within, same]

theorem commit_congr {session other : Session T W} {forced : Bool} {work : Work T W}
    (needs : session.required forced work = other.required forced work)
    (same : (session.executor.commit (other.required forced work)).run work.stage =
      (other.executor.commit (other.required forced work)).run work.stage) :
    (session.commit forced).run work = (other.commit forced).run work := by
  rw [commit, commit, Action.run_bind_ok (Action.run_look _ _), Action.run_bind_ok (Action.run_look _ _), needs]
  exact Action.run_bind_congr (on_stage_congr same) fun _ _ _ => rfl

theorem close_congr {session other : Session T W} {work : Work T W}
    (view : session.isClosed work = other.isClosed work)
    (needs : session.required false work = other.required false work)
    (same : other.isClosed work = false → (session.executor.close (other.required false work)).run work.stage =
      (other.executor.close (other.required false work)).run work.stage) :
    session.close.run work = other.close.run work := by
  rw [close, close, Action.run_bind_ok (Action.run_look _ _), Action.run_bind_ok (Action.run_look _ _), view]
  cases closed : other.isClosed work with
  | true => rfl
  | false =>
      refine Action.run_bind_congr (by rw [Action.run_look, Action.run_look, needs]) fun required after ran => ?_
      cases ran
      refine Action.run_bind_congr ?_ fun _ _ _ => rfl
      rw [Action.run_attempt, Action.run_attempt, on_stage_congr (same closed)]

variable [Store T] {configuration : Configuration (Stage T (Journaled W))} {database : Database W}

def guarded (configuration : Configuration (Stage T (Journaled W))) (database : Database W)
    (allowed : Stage T (Journaled W) → Prop) [DecidablePred allowed] (otherwise : Action (Stage T (Journaled W)) Unit) :
    Session T (Journaled W) where
  configuration := configuration
  executor := Caching.publishing (Caching.publishIf allowed otherwise) configuration
    (configuration.direct database.journaled)
  autoCommit := false

-- What may become of the regions while they are only looked up in, any number of times.
structure Lookups (follows : Shared T → Shared T → Prop) : Prop where
  refl : ∀ shared, follows shared shared
  trans : ∀ first second third, follows first second → follows second third → follows first third
  looks : Caching.Looks follows

-- An operation publishes nothing but where a condition holds: whatever were done elsewhere, it comes to the same.
def PublishesOnly (configuration : Configuration (Stage T (Journaled W))) (database : Database W)
    (allowed : Stage T (Journaled W) → Prop) [DecidablePred allowed] (operation : Operation T (Journaled W))
    (work : Work T (Journaled W)) : Prop :=
  ∀ otherwise, ((guarded configuration database allowed otherwise).perform operation).run work =
    ((journaled configuration database false).perform operation).run work

theorem not_required (work : Work T (Journaled W)) (forced : Bool)
    (idle : (journaled configuration database false).required forced work = false) : work.dirty = false := by
  simp only [required, journaled, Bool.not_false, Bool.true_and, Bool.or_eq_false_iff] at idle
  exact idle.1

theorem advances_commit (work after : Work T (Journaled W)) (required : Bool) (idle : required = false → work.dirty = false)
    (commits : Commits required work after) : Advances work after := by
  cases commits with
  | refused closed => exact advances_refl work
  | failed opened world =>
      refine advances_by [] rfl (fun orderly clean _ => ?_) nofun
      rw [List.append_nil]
      exact orderly clean opened
  | published opened world dirty =>
      refine advances_by (Journal.ending required .committed (.ok ())) ?_ (fun orderly _ _ => ?_)
        fun added => absurd added (not_rolled_back_ending _ _)
      · simp only [Stage.published, Stage.run_publish]
        rfl
      · exact settled_ending .committed (Or.inl rfl) fun optional => orderly (idle optional) opened

theorem advances_close (work after : Work T (Journaled W)) (required : Bool) (closes : Closes required work after) :
    Advances work after := by
  cases closes with
  | already closed => exact advances_refl work
  | shut opened world undone =>
      refine advances_by (Journal.ending required .rolledBack undone) ?_ (fun _ _ still => ?_)
        fun added region key rows => ?_
      · cases required with
        | true => rfl
        | false =>
            simp only [Stage.published, Stage.run_publish]
            rfl
      · cases still
      · cases required with
        | true => exact Stage.not_staged_unstaged work.stage region key rows
        | false => exact absurd added List.not_mem_nil

theorem advances_perform (bare : configuration.chain = Chain.empty) (sharing : configuration.settings.sharing = true)
    (operation : Operation T (Journaled W)) (discreet : operation.Discreet fun _ _ => True)
    (work : Work T (Journaled W)) :
    Advances work (((journaled configuration database false).perform operation).run work).2 := by
  have ended : Performs (fun _ _ => True) "" (journaled configuration database false) work operation
      (((journaled configuration database false).perform operation).run work).2 :=
    performs (fun _ => trivial) (fun _ _ _ _ _ => trivial) (fun _ _ _ _ => trivial) bare sharing operation discreet work
  generalize (((journaled configuration database false).perform operation).run work).2 = after at ended ⊢
  cases ended with
  | reads reads moves =>
      obtain ⟨later, grown, read⟩ := moves.stage.grown
      refine advances_by later grown (fun orderly clean opened => ?_) fun added => ?_
      · refine Journal.settled_append _ _ (orderly (moves.dirty ▸ clean) (moves.stage.closed ▸ opened)) ?_
        refine Journal.settled_of_unwritten later fun entry member wrote => ?_
        obtain ⟨rows, answered⟩ := read entry member
        exact nomatch wrote.symm.trans answered
      · obtain ⟨rows, answered⟩ := read _ added
        exact nomatch answered
  | unknown => exact advances_refl work
  | writes dirty moves =>
      obtain ⟨later, grown, wrote⟩ := moves.grown
      exact advances_by later grown (fun _ clean _ => nomatch dirty.symm.trans clean) fun added => nomatch wrote _ added
  | commits commits => exact advances_commit work _ _ (not_required work _) commits
  | rollsBack rolls => exact advances_rollback work _ _ (not_required work _) rolls
  | closes closes => exact advances_close work _ _ closes

theorem advances_occur (bare : configuration.chain = Chain.empty) (sharing : configuration.settings.sharing = true)
    (work : Work T (Journaled W)) (event : Event T W) :
    Advances work ((journaled configuration database false).occur work event) := by
  cases event with
  | own operation discreet => exact advances_perform bare sharing operation discreet work
  | elsewhere shared world => exact ⟨id, [], (List.append_nil _).symm, nofun⟩

theorem orderly_course (bare : configuration.chain = Chain.empty) (sharing : configuration.settings.sharing = true)
    (events : List (Event T W)) (work : Work T (Journaled W)) (orderly : Orderly work) :
    Orderly ((journaled configuration database false).course events work) := by
  induction events generalizing work with
  | nil => exact orderly
  | cons event rest ih => exact ih _ ((advances_occur bare sharing work event).orderly orderly)

-- While something stays staged no rollback succeeds.
theorem kept_course (bare : configuration.chain = Chain.empty) (sharing : configuration.settings.sharing = true)
    (events : List (Event T W)) (work : Work T (Journaled W)) (region : String) (key : Key)
    (staged : ∀ front, front ≠ [] → front <+: events →
      ∃ rows, ((journaled configuration database false).course front work).stage.own.Staged region key rows) :
    ∃ later, ((journaled configuration database false).course events work).stage.world.journal =
        work.stage.world.journal ++ later ∧ Entry.rolledBack ∉ later := by
  induction events using List.reverseRecOn with
  | nil => exact ⟨[], (List.append_nil _).symm, List.not_mem_nil⟩
  | append_singleton rest event ih =>
      obtain ⟨early, grown, kept⟩ :=
        ih fun front some within => staged front some (within.trans (List.prefix_append rest [event]))
      obtain ⟨rows, still⟩ := staged (rest ++ [event]) (by simp) (List.prefix_refl _)
      rw [course_snoc] at still ⊢
      obtain ⟨late, last, discards⟩ := (advances_occur bare sharing _ event).grown
      refine ⟨early ++ late, by rw [last, grown, List.append_assoc], fun member => ?_⟩
      rcases List.mem_append.mp member with before | after
      · exact kept before
      · exact discards after region key rows still

theorem run_publish_if {allowed : Stage T W → Prop} [DecidablePred allowed] {otherwise : Action (Stage T W) Unit}
    {stage : Stage T W} (holds : allowed stage) :
    (Caching.publishIf allowed otherwise).run stage = (Stage.inStaging Staging.commit).run stage := if_pos holds

section

variable (past later : Journal) (work : Work T (Journaled W)) (orderly : Orderly work)
  (grown : work.stage.world.journal = past ++ later) (kept : Entry.rolledBack ∉ later)

include orderly grown kept

theorem commit_guarded (otherwise : Action (Stage T (Journaled W)) Unit) (required : Bool)
    (idle : required = false → work.dirty = false) :
    (Caching.commitBy (Caching.publishIf (fun stage => past.MayPublish stage.world.journal) otherwise)
        (configuration.direct database.journaled) required).run work.stage =
      (Caching.commitBy (Stage.inStaging Staging.commit) (configuration.direct database.journaled) required).run
        work.stage := by
  refine Action.run_bind_congr rfl fun done after ran => run_publish_if ?_
  cases closed : work.stage.own.closed with
  | true => exact nomatch (Direct.run_commit_closed required work.stage closed).symm.trans ran
  | false =>
      obtain ⟨outcome, world, ended, _⟩ := @Direct.run_commit_open T W database required work.stage closed
      cases ended.symm.trans ran
      exact may_publish_committed past later work orderly grown kept required idle closed

theorem close_guarded (otherwise : Action (Stage T (Journaled W)) Unit) (required : Bool)
    (idle : required = false → work.dirty = false) (still : work.stage.own.closed = false) :
    (Caching.closeBy (Caching.publishIf (fun stage => past.MayPublish stage.world.journal) otherwise)
        (configuration.direct database.journaled) required).run work.stage =
      (Caching.closeBy (Stage.inStaging Staging.commit) (configuration.direct database.journaled) required).run
        work.stage := by
  refine Action.run_bind_congr ?_ fun _ _ _ => rfl
  cases required with
  | true => rfl
  | false =>
      have allowed := may_publish_clean past later work orderly grown kept (idle rfl) still
      have published : (Caching.publishIf (fun stage => past.MayPublish stage.world.journal) otherwise).run work.stage =
          (Stage.inStaging Staging.commit).run work.stage := run_publish_if allowed
      exact congrArg (fun result => (Except.ok result.1, result.2)) published

variable (bare : configuration.chain = Chain.empty) (sharing : configuration.settings.sharing = true)

include bare sharing

theorem perform_guarded (operation : Operation T (Journaled W)) :
    PublishesOnly configuration database (fun stage => past.MayPublish stage.world.journal) operation work := by
  intro otherwise
  have tiers := (configuration.executor_caching database.journaled bare sharing).trans
    (Caching.publishing_commit configuration (configuration.direct database.journaled)).symm
  cases operation with
  | list id parameter bounds => rw [journaled, tiers]; rfl
  | one id parameter => rw [journaled, tiers]; rfl
  | each id parameter bounds receiver => rw [journaled, tiers]; rfl
  | update id parameter => rw [journaled, tiers]; rfl
  | rollback forced => rw [journaled, tiers]; rfl
  | clearCache => rw [journaled, tiers]; rfl
  | commit forced =>
      have same := @commit_guarded T W _ configuration database past later work orderly grown kept otherwise
        ((journaled configuration database false).required forced work) (not_required work forced)
      rw [journaled, tiers] at same ⊢
      exact Action.run_bind_congr (commit_congr rfl same) fun _ _ _ => rfl
  | close =>
      have same (still : work.stage.own.closed = false) :=
        @close_guarded T W _ configuration database past later work orderly grown kept otherwise
          ((journaled configuration database false).required false work) (not_required work false) still
      rw [journaled, tiers] at same ⊢
      exact Action.run_bind_congr (close_congr rfl rfl same) fun _ _ _ => rfl

theorem perform_confined {follows : Shared T → Shared T → Prop} (lookups : Lookups follows)
    (operation : Operation T (Journaled W)) (discreet : operation.Discreet follows)
    (unpublished : ¬ (operation.Publishes ∧ past.MayPublish
      (((journaled configuration database false).perform operation).run work).2.stage.world.journal)) :
    follows work.stage.shared (((journaled configuration database false).perform operation).run work).2.stage.shared := by
  have ended : Performs follows "" (journaled configuration database false) work operation
      (((journaled configuration database false).perform operation).run work).2 :=
    performs lookups.refl lookups.trans lookups.looks bare sharing operation discreet work
  generalize (((journaled configuration database false).perform operation).run work).2 = after at ended unpublished ⊢
  cases ended with
  | reads reads moves => exact moves.stage.thinned
  | unknown => exact lookups.refl _
  | writes dirty moves => exact moves.thinned
  | commits commits =>
      cases commits with
      | refused closed => exact lookups.refl _
      | failed opened world => exact lookups.refl _
      | published opened world dirty =>
          refine absurd ⟨trivial, ?_⟩ unpublished
          simp only [Stage.published, Stage.run_publish]
          exact may_publish_committed past later work orderly grown kept _ (not_required work _) opened
  | rollsBack rolls => exact (rolled_back_shared rolls).symm ▸ lookups.refl _
  | closes closes =>
      cases closes with
      | already closed => exact lookups.refl _
      | shut opened world undone =>
          cases needed : (journaled configuration database false).required false work with
          | true => exact lookups.refl _
          | false =>
              rw [needed] at unpublished
              refine absurd ⟨trivial, ?_⟩ unpublished
              simp only [Stage.published, Stage.run_publish]
              change past.MayPublish (work.stage.world.journal ++ [])
              rw [List.append_nil]
              exact may_publish_clean past later work orderly grown kept (not_required work false needed) opened

end

-- Staged rows, some of them ever since a past: a region gets them only by a commit or a close, when every write is
-- settled and, if a write was open in that past, once a commit has settled it; a rollback gives up all of them.
structure KeepsBack (configuration : Configuration (Stage T (Journaled W))) (database : Database W) (past : Journal)
    (operation : Operation T (Journaled W)) (work : Work T (Journaled W)) : Prop where
  published : PublishesOnly configuration database (fun stage => past.MayPublish stage.world.journal) operation work
  confined : ∀ follows : Shared T → Shared T → Prop, Lookups follows → operation.Discreet follows →
    ¬ (operation.Publishes ∧ past.MayPublish
      (((journaled configuration database false).perform operation).run work).2.stage.world.journal) →
        follows work.stage.shared (((journaled configuration database false).perform operation).run work).2.stage.shared
  discarded : ∃ later,
    (((journaled configuration database false).perform operation).run work).2.stage.world.journal =
        work.stage.world.journal ++ later ∧
      (Entry.rolledBack ∈ later → ∀ region key rows, ¬ (((journaled configuration database false).perform operation).run
        work).2.stage.own.Staged region key rows)

theorem published_when_settled (configuration : Configuration (Stage T (Journaled W)))
    (bare : configuration.chain = Chain.empty) (sharing : configuration.settings.sharing = true) (database : Database W)
    (shared : Shared T) (world : W) (earlier later : List (Event T W)) (region : String) (key : Key)
    (staged : ∀ front, front ≠ [] → front <+: later → ∃ rows, ((journaled configuration database false).course
      (earlier ++ front) (opened shared world)).stage.own.Staged region key rows)
    (operation : Operation T (Journaled W)) (discreet : operation.Discreet fun _ _ => True) :
    KeepsBack configuration database
      ((journaled configuration database false).course earlier (opened shared world)).stage.world.journal operation
      ((journaled configuration database false).course (earlier ++ later) (opened shared world)) := by
  have orderly : Orderly (opened shared world : Work T (Journaled W)) := fun _ _ => trivial
  have begun : Orderly ((journaled configuration database false).course earlier (opened shared world)) :=
    orderly_course bare sharing earlier _ orderly
  rw [course_append]
  obtain ⟨since, grown, kept⟩ := kept_course bare sharing later _ region key fun front some within => by
    rw [← course_append]
    exact staged front some within
  have settled := @orderly_course T W _ configuration database bare sharing later _ begun
  exact ⟨perform_guarded _ since _ settled grown kept bare sharing operation,
    fun _ lookups quiet => perform_confined _ since _ settled grown kept bare sharing lookups operation quiet,
    (advances_perform bare sharing operation discreet _).grown⟩

end Session

namespace Counting

open Session

def journaledConfiguration : Configuration (Stage Backing (Journaled (Ledger Nat))) where
  statements := [("show", statementOf "show" .select "SHOW"), ("add", statementOf "add" .update "ADD")]

def add : Event Backing (Ledger Nat) := .own (.update "add" .none) trivial

def shown : Event Backing (Ledger Nat) := .own (.list "show" .none .all) trivial

def shownKey : Key := Direct.keyFor {} "show" .all "SHOW" []

def overWrite (events : List (Event Backing (Ledger Nat))) : Work Backing (Journaled (Ledger Nat)) :=
  (journaled journaledConfiguration database false).course ([add] ++ events) (opened work.stage.shared ⟨0, 0⟩)

theorem staged_over_write :
    (overWrite [shown]).stage.own.Staged "numbers" shownKey ⟨["n"], [[.integer 1]]⟩ := ⟨_, rfl, rfl⟩

-- The count reaches the region after a commit of the write, and a rollback does not bring it there.
theorem shown_over_write :
    (overWrite [shown]).stage.own.Staged "numbers" shownKey ⟨["n"], [[.integer 1]]⟩ ∧
      KeepsBack journaledConfiguration database [.wrote] (.commit false) (overWrite [shown]) ∧
      (((journaled journaledConfiguration database false).perform (.rollback false)).run
        (overWrite [shown])).2.stage.shared.contents "numbers" shownKey = none := by
  have keeps (operation : Operation Backing (Journaled (Ledger Nat))) (discreet : operation.Discreet fun _ _ => True) :
      KeepsBack journaledConfiguration database [.wrote] operation (overWrite [shown]) := by
    refine published_when_settled journaledConfiguration rfl rfl database work.stage.shared ⟨0, 0⟩ [add] [shown] "numbers"
      shownKey (fun front some within => ?_) operation discreet
    rcases front with _ | ⟨first, rest⟩
    · exact absurd rfl some
    · obtain ⟨rfl, ended⟩ := List.cons_prefix_cons.mp within
      cases List.prefix_nil.mp ended
      exact ⟨_, staged_over_write⟩
  refine ⟨staged_over_write, keeps (.commit false) trivial, ?_⟩
  have thinned := (keeps (.rollback false) trivial).confined Shared.Thins
    ⟨Shared.thins_refl, Shared.thins_trans, Shared.thins_get⟩ trivial fun publishes => publishes.1
  refine Option.eq_none_iff_forall_ne_some.mpr fun rows found => ?_
  have before : (overWrite [shown]).stage.shared.contents "numbers" shownKey = none := rfl
  rw [thinned "numbers" shownKey rows found] at before
  cases before

end Counting

end StatementMapper
