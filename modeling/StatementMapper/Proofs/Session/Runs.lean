import StatementMapper.Proofs.Session.Posture

set_option autoImplicit false

/-! Runs of a session, whatever others do to the regions and to the world in between. -/

namespace StatementMapper

open Cache

variable {T W : Type}

namespace Session

-- What a session has been asked for, with whether it answered, and what it has come to.
inductive Runs (session : Session T (Logged W)) : List (Operation T (Logged W) × Bool) → Work T (Logged W) → Prop where
  | opened (shared : Shared T) (world : W) : Runs session [] { stage := ⟨{}, shared, { world }⟩ }
  | own {trace : List (Operation T (Logged W) × Bool)} {work : Work T (Logged W)} (earlier : Runs session trace work)
      (operation : Operation T (Logged W)) (quiet : operation.Quiet) :
      Runs session (trace ++ [(operation, ((session.perform operation).run work).1.isOk)])
        ((session.perform operation).run work).2
  | elsewhere {trace : List (Operation T (Logged W) × Bool)} {work : Work T (Logged W)} (earlier : Runs session trace work)
      (shared : Shared T) (world : W) :
      Runs session trace { work with stage := { work.stage with shared, world := { work.stage.world with world } } }

variable {session : Session T (Logged W)}

theorem run_invariant (retires : session.executor.Retires) (accounts : session.executor.Accounts)
    (good : List (Operation T (Logged W) × Bool) → Posture → Prop) (begins : good [] ⟨false, false, []⟩)
    (keeps : ∀ trace before operation fine after, Posture.Steps session before operation fine after → good trace before →
      good (trace ++ [(operation, fine)]) after)
    {trace : List (Operation T (Logged W) × Bool)} {work : Work T (Logged W)} (runs : Runs session trace work) :
    good trace work.posture := by
  induction runs with
  | opened shared world => exact begins
  | own earlier operation quiet ih => exact keeps _ _ _ _ _ (steps retires accounts operation quiet _) ih
  | elsewhere earlier shared world ih => exact ih

end Session

namespace Posture

def closings (calls : List Call) : Nat := calls.countP fun call => call.ask = .close

theorem closings_append (calls more : List Call) : closings (calls ++ more) = closings calls + closings more :=
  List.countP_append

theorem closings_kind (ask : Ask) (other : ask ≠ .close) (calls : List Call) (kind : ∀ call ∈ calls, call.ask = ask) :
    closings calls = 0 := by
  apply List.countP_eq_zero.mpr
  intro call member
  simp [kind call member, other]

theorem closings_ending (ask : Ask) (other : ask ≠ .close) (required fine : Bool) :
    closings (Call.ending ask required fine) = 0 :=
  closings_kind ask other _ (Call.ending_kind ask required fine)

variable {session : Session T (Logged W)} {before after : Posture} {operation : Session.Operation T (Logged W)}
  {fine : Bool}

-- The connection is asked to close when the session is closed, and only then.
theorem closings_step (steps : Steps session before operation fine after) (once : closings before.calls = before.closed.toNat) :
    closings after.calls = after.closed.toNat := by
  cases steps with
  | reads reads asked => rw [closings_append, closings_kind .query (by decide) _ asked, once]; rfl
  | unknown => exact once
  | writes known asked => rw [closings_append, closings_kind .execute (by decide) _ asked, once]; rfl
  | refused closed => exact once
  | commits opened sound => rw [closings_append, closings_ending .commit (by decide), once, opened]; rfl
  | forgets closed => rw [once, closed]
  | rollsBack opened sound => rw [closings_append, closings_ending .rollback (by decide), once, opened]; rfl
  | already closed => exact once
  | closes opened =>
      rw [closings_append, closings_append, closings_ending .rollback (by decide), once, opened]
      rfl

theorem closed_step (steps : Steps session before operation fine after) (closed : before.closed = true) :
    after.closed = true := by
  cases steps with
  | reads reads asked => exact closed
  | unknown => exact closed
  | writes known asked => exact closed
  | refused closed => exact closed
  | commits opened sound => cases opened.symm.trans closed
  | forgets closed => rfl
  | rollsBack opened sound => cases opened.symm.trans closed
  | already closed => exact closed
  | closes opened => rfl

theorem closed_close (steps : Steps session before .close fine after) : after.closed = true := by
  cases steps with
  | reads reads asked => exact reads.elim
  | already closed => exact closed
  | closes opened => rfl

end Posture

namespace Session

variable {session : Session T (Logged W)} (retires : session.executor.Retires) (accounts : session.executor.Accounts)
  {trace : List (Operation T (Logged W) × Bool)} {work : Work T (Logged W)} (runs : Runs session trace work)

include retires accounts runs

theorem closings_run : Posture.closings work.stage.world.calls = work.stage.own.closed.toNat :=
  run_invariant retires accounts (fun _ posture => Posture.closings posture.calls = posture.closed.toNat) rfl
    (fun _ _ _ _ _ steps once => Posture.closings_step steps once) runs

theorem closed_run (fine : Bool) (asked : (.close, fine) ∈ trace) : work.stage.own.closed = true := by
  have closes := run_invariant retires accounts
    (fun trace posture => (∃ fine, (Operation.close, fine) ∈ trace) → posture.closed = true) nofun ?_ runs
  · exact closes ⟨fine, asked⟩
  · rintro trace before operation outcome after steps ih ⟨fine, member⟩
    rcases List.mem_append.mp member with earlier | here
    · exact Posture.closed_step steps (ih ⟨fine, earlier⟩)
    · cases List.mem_singleton.mp here
      exact Posture.closed_close steps

end Session

theorem Sessions.run_drop (name : String) (sessions : Sessions T W) (seat : Seat T W)
    (found : sessions.seat? name = some seat) :
    (drop name).run sessions = (.ok true, { settle name seat (seat.session.close.run (workOf seat sessions)).2 sessions with
      seats := Table.erase name
        (settle name seat (seat.session.close.run (workOf seat sessions)).2 sessions).seats }) := by
  rw [drop, Action.run_bind_ok (Action.run_look _ _), found]
  rfl

inductive Session.Ends (session : Session T W) (work : Work T W) : Shared T → W → Prop where
  | closed : Ends session work (session.close.run work).2.stage.shared (session.close.run work).2.stage.world
  | dropped (sessions : Sessions T W) (name : String) (seat : Seat T W) (found : sessions.seat? name = some seat)
      (same : seat.session = session) (sits : Sessions.workOf seat sessions = work) :
      Ends session work ((Sessions.drop name).run sessions).2.shared ((Sessions.drop name).run sessions).2.world

theorem Session.ends_closed {session : Session T W} {work : Work T W} {shared : Shared T} {world : W}
    (ends : session.Ends work shared world) :
    shared = (session.close.run work).2.stage.shared ∧ world = (session.close.run work).2.stage.world := by
  cases ends with
  | closed => exact ⟨rfl, rfl⟩
  | dropped sessions name seat found same sits =>
      rw [Sessions.run_drop name sessions seat found, sits, same]
      exact ⟨rfl, rfl⟩

end StatementMapper
