import StatementMapper.Proofs.Session.Closed

set_option autoImplicit false

/-! A session that ends over an unsettled write asks for a rollback before it asks to close. -/

namespace StatementMapper

open Cache

variable {T W : Type}

namespace Call

theorem dangling_kind (ask : Ask) (other : ask ≠ .execute) (calls later : List Call)
    (kind : ∀ call ∈ later, call.ask = ask) (dangling : Dangling (calls ++ later)) : Dangling calls := by
  rcases (outstanding_append _ _ _ _).mp dangling with here | ⟨before, _⟩
  · obtain ⟨call, member, writes⟩ := outstanding_of_mem _ _ _ here
    exact absurd ((kind call member).symm.trans writes) other
  · exact before

-- What is left outstanding by the end of a transaction was outstanding before, and the end failed if it was required.
theorem dangling_ending (ask : Ask) (ends : ask = .commit ∨ ask = .rollback) (required fine : Bool) (calls : List Call)
    (dangling : Dangling (calls ++ ending ask required fine)) : Dangling calls ∧ (required = true → fine = false) := by
  have other : ask ≠ .execute := by rcases ends with rfl | rfl <;> decide
  constructor
  · exact dangling_kind ask other calls _ (ending_kind ask required fine) dangling
  · rintro rfl
    rcases (outstanding_append _ _ _ _).mp dangling with here | ⟨_, unended⟩
    · obtain ⟨call, member, writes⟩ := outstanding_of_mem _ _ _ here
      exact absurd ((ending_kind ask true fine call member).symm.trans writes) other
    · cases fine with
      | true => exact absurd ⟨ends, rfl⟩ (unended ⟨ask, true⟩ List.mem_cons_self)
      | false => rfl

end Call

namespace Session

def Operation.Writes (session : Session T W) : Operation T W → Prop
  | .update id _ => session.Knows id
  | _ => False

def Operation.Settles : Operation T W → Prop
  | .commit _ => True
  | .rollback _ => True
  | _ => False

-- A write of a known statement was asked for since the last commit or rollback that answered.
def Unsettled (session : Session T W) (trace : List (Operation T W × Bool)) : Prop :=
  Outstanding (fun step => step.1.Writes session) (fun step => step.1.Settles ∧ step.2 = true) trace

theorem unsettled_snoc {session : Session T W} {trace : List (Operation T W × Bool)} (unsettled : session.Unsettled trace)
    (operation : Operation T W) (fine : Bool) (unended : ¬ (operation.Settles ∧ fine = true)) :
    session.Unsettled (trace ++ [(operation, fine)]) := by
  apply (outstanding_append _ _ _ _).mpr
  right
  constructor
  · exact unsettled
  · intro step member
    rw [List.mem_singleton.mp member]
    exact unended

end Session

namespace Posture

variable {session : Session T (Logged W)} {before after : Posture} {operation : Session.Operation T (Logged W)}
  {fine : Bool}

-- A session that is open over a write since the last end of a transaction that succeeded is dirty.
def Tidy (posture : Posture) : Prop := posture.closed = false → Call.Dangling posture.calls → posture.dirty = true

theorem dirty_ending (ask : Ask) (ends : ask = .commit ∨ ask = .rollback) (opened : before.closed = false)
    (tidy : before.Tidy) (forced done : Bool) (sound : fine = true → done = true)
    (dangling : Call.Dangling (before.calls ++ Call.ending ask (before.dirty || forced) done)) :
    (before.dirty && !fine) = true := by
  obtain ⟨outstanding, failed⟩ := Call.dangling_ending ask ends _ _ _ dangling
  have dirty := tidy opened outstanding
  rw [dirty] at failed
  cases fine with
  | true => cases (failed rfl).symm.trans (sound rfl)
  | false => rw [dirty]; rfl

theorem tidy_step (manual : session.autoCommit = false) (steps : Steps session before operation fine after)
    (tidy : before.Tidy) : after.Tidy := by
  cases steps with
  | reads reads asked => exact fun opened dangling => tidy opened (Call.dangling_kind .query (by decide) _ _ asked dangling)
  | unknown => exact tidy
  | writes known asked => exact fun _ _ => rfl
  | refused closed => exact tidy
  | commits opened sound =>
      rw [manual, Bool.not_false, Bool.true_and]
      exact fun _ dangling => dirty_ending .commit (Or.inl rfl) opened tidy _ _ sound dangling
  | forgets closed => exact nofun
  | rollsBack opened sound =>
      rw [manual, Bool.not_false, Bool.true_and]
      exact fun _ dangling => dirty_ending .rollback (Or.inr rfl) opened tidy _ _ sound dangling
  | already closed => exact tidy
  | closes opened => exact nofun

theorem unsettled_step {trace : List (Session.Operation T (Logged W) × Bool)}
    (steps : Steps session before operation fine after) (written : before.dirty = true → session.Unsettled trace)
    (dirty : after.dirty = true) : session.Unsettled (trace ++ [(operation, fine)]) := by
  have failing (still : (before.dirty && !fine) = true) : session.Unsettled (trace ++ [(operation, fine)]) := by
    obtain ⟨earlier, failed⟩ := (Bool.and_eq_true _ _).mp still
    exact Session.unsettled_snoc (written earlier) operation fine fun ended => by simp [ended.2] at failed
  cases steps with
  | reads reads asked =>
      apply Session.unsettled_snoc (written dirty)
      rintro ⟨settles, _⟩
      cases operation <;> first | exact reads.elim | exact settles.elim
  | unknown => exact Session.unsettled_snoc (written dirty) _ _ fun ended => ended.1.elim
  | writes known asked =>
      refine (outstanding_append _ _ _ _).mpr (Or.inl (Or.inr ⟨known, ?_⟩))
      exact fun _ member => absurd member List.not_mem_nil
  | refused closed => exact Session.unsettled_snoc (written dirty) _ _ fun ended => absurd ended.2 Bool.false_ne_true
  | commits opened sound => exact failing dirty
  | forgets closed => exact failing dirty
  | rollsBack opened sound => exact failing dirty
  | already closed => exact Session.unsettled_snoc (written dirty) _ _ fun ended => ended.1.elim
  | closes opened => cases dirty

theorem plain_step (steps : Steps session before operation fine after) (clean : before.dirty = false)
    (plain : operation = .commit false ∨ operation = .rollback false) : after.calls = before.calls := by
  have idle (ask : Ask) (done : Bool) :
      before.calls ++ Call.ending ask ((!session.autoCommit && before.dirty) || false) done = before.calls := by
    simp [clean, Call.ending]
  rcases plain with rfl | rfl
  · cases steps with
    | reads reads asked => exact reads.elim
    | refused closed => rfl
    | commits opened sound => exact idle .commit _
  · cases steps with
    | reads reads asked => exact reads.elim
    | forgets closed => rfl
    | rollsBack opened sound => exact idle .rollback _

theorem clean_close (steps : Steps session before .close fine after) (clean : before.dirty = false) :
    ∃ later, after.calls = before.calls ++ later ∧ ∀ call ∈ later, call.ask = .close := by
  cases steps with
  | reads reads asked => exact reads.elim
  | already closed => exact ⟨[], (List.append_nil _).symm, nofun⟩
  | @closes fine undone gone opened =>
      apply Exists.intro [⟨.close, gone⟩]
      simp [clean, Call.ending]

theorem closing_step (steps : Steps session before operation fine after) (opened : before.closed = false)
    (closed : after.closed = true) :
    ∃ undone gone, after.calls = before.calls ++ Call.ending .rollback (!session.autoCommit && before.dirty) undone ++
      [⟨.close, gone⟩] := by
  cases steps with
  | reads reads asked => cases opened.symm.trans closed
  | unknown => cases opened.symm.trans closed
  | writes known asked => cases opened.symm.trans closed
  | refused refused => cases opened.symm.trans closed
  | commits still sound => cases closed
  | forgets refused => cases opened.symm.trans refused
  | rollsBack still sound => cases closed
  | already refused => cases opened.symm.trans closed
  | closes still => exact ⟨_, _, rfl⟩

end Posture

namespace Session

-- While it was open, now if it still is, after a rollback if a write was outstanding, and with no call since.
inductive ClosedSafely (session : Session T (Logged W)) (trace : List (Operation T (Logged W) × Bool))
    (work : Work T (Logged W)) (calls : List Call) : Prop where
  | closed {front : List (Operation T (Logged W) × Bool)} {earlier : Work T (Logged W)} {required undone gone : Bool}
      (within : front <+: trace) (runs : Runs session front earlier) (opened : earlier.stage.own.closed = false)
      (now : work.stage.own.closed = false → earlier = work)
      (called : calls = earlier.stage.world.calls ++ Call.ending .rollback required undone ++ [⟨.close, gone⟩])
      (safe : Call.Dangling earlier.stage.world.calls → required = true) : ClosedSafely session trace work calls

theorem ClosedSafely.later {session : Session T (Logged W)} {front trace : List (Operation T (Logged W) × Bool)}
    {work after : Work T (Logged W)} {calls : List Call} (safely : ClosedSafely session front work calls)
    (longer : front <+: trace) (closed : after.stage.own.closed = true) : ClosedSafely session trace after calls := by
  cases safely with
  | closed within runs opened now called safe =>
      exact .closed (within.trans longer) runs opened (fun still => absurd (still.symm.trans closed) Bool.false_ne_true) called safe

section

variable {session : Session T (Logged W)} (retires : session.executor.Retires) (accounts : session.executor.Accounts)
  {trace : List (Operation T (Logged W) × Bool)} {work : Work T (Logged W)} (runs : Runs session trace work)

include retires accounts runs

theorem dirty_run (manual : session.autoCommit = false) (opened : work.stage.own.closed = false)
    (dangling : Call.Dangling work.stage.world.calls) : work.dirty = true :=
  run_invariant retires accounts (fun _ posture => posture.Tidy) (fun _ nothing => nothing.elim)
    (fun _ _ _ _ _ steps tidy => Posture.tidy_step manual steps tidy) runs opened dangling

theorem clean_run (settled : ¬ session.Unsettled trace) : work.dirty = false := by
  apply Bool.eq_false_iff.mpr
  intro dirty
  apply settled
  exact run_invariant retires accounts (fun trace posture => posture.dirty = true → session.Unsettled trace) nofun
    (fun _ _ _ _ _ steps written => Posture.unsettled_step steps written) runs dirty

theorem closed_now (manual : session.autoCommit = false) (opened : work.stage.own.closed = false)
    (operation : Operation T (Logged W)) (quiet : operation.Quiet)
    (closed : ((session.perform operation).run work).2.stage.own.closed = true) :
    ClosedSafely session trace work ((session.perform operation).run work).2.stage.world.calls := by
  obtain ⟨undone, gone, called⟩ := Posture.closing_step (steps retires accounts operation quiet work) opened closed
  apply ClosedSafely.closed (List.prefix_refl trace) runs opened (fun _ => rfl) called
  intro dangling
  rw [manual]
  exact dirty_run retires accounts runs manual opened dangling

theorem closed_before (manual : session.autoCommit = false) (closed : work.stage.own.closed = true) :
    ClosedSafely session trace work work.stage.world.calls := by
  induction runs with
  | opened shared world => exact nomatch closed
  | @own trace work earlier operation quiet ih =>
      apply ClosedSafely.later _ (List.prefix_append trace _) closed
      · exact work
      · cases before : work.stage.own.closed with
        | true =>
            have rests := Action.triple_after (keeps_perform retires operation) work (Stage.rests_refl work.stage before)
            rw [rests.world]
            exact ih before
        | false => exact closed_now retires accounts earlier manual before operation quiet closed
  | elsewhere earlier shared world ih => exact (ih closed).later (List.prefix_refl _) closed

theorem ended_safely (manual : session.autoCommit = false) (shared : Shared T) (world : Logged W)
    (ends : session.Ends work shared world) : ClosedSafely session trace work world.calls := by
  obtain ⟨-, rfl⟩ := ends_closed ends
  cases before : work.stage.own.closed with
  | true =>
      have rests := Action.triple_after (keeps_close retires) work (Stage.rests_refl work.stage before)
      rw [rests.world]
      exact closed_before retires accounts runs manual before
  | false =>
      have closing := Posture.closed_close (steps retires accounts .close trivial work)
      have closed := closed_now retires accounts runs manual before .close trivial closing
      rwa [perform, Action.after_map _ fun _ => Answer.done] at closed

theorem settled_ending_idle (settled : ¬ session.Unsettled trace) (ending : Operation T (Logged W))
    (plain : ending = .commit false ∨ ending = .rollback false) :
    ((session.perform ending).run work).2.stage.world.calls = work.stage.world.calls := by
  have clean := clean_run retires accounts runs settled
  have quiet : ending.Quiet := by rcases plain with rfl | rfl <;> trivial
  exact Posture.plain_step (steps retires accounts ending quiet work) clean plain

theorem settled_close_idle (settled : ¬ session.Unsettled trace) (shared : Shared T) (world : Logged W)
    (ends : session.Ends work shared world) :
    ∃ later, world.calls = work.stage.world.calls ++ later ∧ ∀ call ∈ later, call.ask = .close := by
  obtain ⟨-, rfl⟩ := ends_closed ends
  have clean := clean_run retires accounts runs settled
  have closing := Posture.clean_close (steps retires accounts .close trivial work) clean
  rwa [perform, Action.after_map _ fun _ => Answer.done] at closing

end

variable [Store T]

theorem nothing_dangles (configuration : Configuration (Stage T (Logged W))) (bare : configuration.chain = Chain.empty)
    (database : Database W) (trace : List (Operation T (Logged W) × Bool)) (work : Work T (Logged W))
    (runs : Runs (logged configuration database false) trace work) :
    (∀ shared world, (logged configuration database false).Ends work shared world →
      ClosedSafely (logged configuration database false) trace work world.calls) ∧
    (¬ (logged configuration database false).Unsettled trace →
      (∀ ending, ending = .commit false ∨ ending = .rollback false →
        (((logged configuration database false).perform ending).run work).2.stage.world.calls = work.stage.world.calls) ∧
      ∀ shared world, (logged configuration database false).Ends work shared world →
        ∃ later, world.calls = work.stage.world.calls ++ later ∧ ∀ call ∈ later, call.ask = .close) := by
  have retires : (logged configuration database false).executor.Retires :=
    configuration.executor_retires bare database.logged
  have accounts : (logged configuration database false).executor.Accounts :=
    configuration.executor_accounts bare database
  constructor
  · exact ended_safely retires accounts runs rfl
  · intro settled
    constructor
    · exact settled_ending_idle retires accounts runs settled
    · exact settled_close_idle retires accounts runs settled

end Session

namespace Counting

open Session

def refusedConfiguration : Configuration (Stage Backing (Logged (Ledger Nat))) where
  statements := [("fail", statementOf "fail" .update "FAIL")]

def refusedSession : Session Backing (Logged (Ledger Nat)) := logged refusedConfiguration database false

def refusedWork : Work Backing (Logged (Ledger Nat)) := ((refusedSession.perform (.update "fail" .none)).run begun).2

-- The refused write is rolled back when the session ends; before it, the session asks for no end of a transaction.
theorem refused_rolled_back :
    (∃ trace, Runs refusedSession trace refusedWork ∧
      ClosedSafely refusedSession trace refusedWork (refusedSession.close.run refusedWork).2.stage.world.calls) ∧
    (refusedSession.close.run refusedWork).2.stage.world.calls = [⟨.execute, false⟩, ⟨.rollback, true⟩, ⟨.close, true⟩] ∧
    ((refusedSession.perform (.commit false)).run begun).2.stage.world.calls = [] := by
  have opened : Runs refusedSession [] begun := .opened work.stage.shared (⟨0, 0⟩ : Ledger Nat)
  have wrote := opened.own (.update "fail" .none) trivial
  have ending := (nothing_dangles refusedConfiguration rfl database _ refusedWork wrote).1
  have idle := (nothing_dangles refusedConfiguration rfl database _ begun opened).2 id
  exact ⟨⟨_, wrote, ending _ _ .closed⟩, rfl, idle.1 (.commit false) (Or.inl rfl)⟩

end Counting

end StatementMapper
