import Mathlib.Data.List.Induction
import StatementMapper.Proofs.Session.Spreading
import StatementMapper.Sessions

set_option autoImplicit false

namespace StatementMapper

open Cache

variable {W : Type} {region : String}

namespace Seat

def Shares (seat : Seat Backing (Journaled W)) : Prop :=
  ∃ configuration database autoCommit, configuration.settings.sharing = true ∧
    seat.session = Session.journaled configuration database autoCommit

structure Sound (seat : Seat Backing (Journaled W)) : Prop where
  kept : Staging.WellKept seat.own.buffers
  shares : seat.Shares
  bare : seat.session.configuration.chain = Chain.empty

theorem Sound.caches {seat : Seat Backing (Journaled W)} (sound : seat.Sound) :
    ∃ configuration database autoCommit, configuration.chain = Chain.empty ∧ configuration.settings.sharing = true ∧
      seat.session = Session.journaled configuration database autoCommit := by
  obtain ⟨configuration, database, autoCommit, sharing, same⟩ := sound.shares
  have bare := sound.bare
  rw [same] at bare
  exact ⟨configuration, database, autoCommit, bare, sharing, same⟩

theorem Sound.spreads {seat : Seat Backing (Journaled W)} (sound : seat.Sound)
    (operation : Session.Operation Backing (Journaled W)) (discreet : operation.Discreet Shared.Thins)
    (work : Work Backing (Journaled W)) :
    Stage.Spreads operation.Publishes region work.stage ((seat.session.perform operation).run work).2.stage := by
  obtain ⟨configuration, database, autoCommit, bare, sharing, same⟩ := sound.caches
  rw [same]
  exact Session.spreads_perform bare sharing operation discreet work

end Seat

namespace Sessions

-- What happens: an operation of a session as a whole, or time passes and the world goes on.
inductive Event (W : Type) where
  | acts (name : String) (operation : Session.Operation Backing (Journaled W))
      (discreet : operation.Discreet Shared.Thins)
  | passes (now : Nat) (world : W)

namespace Event

def Publishes (name : String) : Event W → Prop
  | .acts other operation _ => other = name ∧ operation.Publishes
  | .passes _ _ => False

def Keeps (name : String) (sessions : Sessions Backing (Journaled W)) : Event W → Prop
  | .acts other operation _ => other = name ∧
    ∃ seat, sessions.seat? name = some seat ∧ operation.Keeps seat.session (workOf seat sessions)
  | .passes _ _ => False

end Event

def occur (sessions : Sessions Backing (Journaled W)) : Event W → Sessions Backing (Journaled W)
  | .acts name operation _ =>
    match sessions.seat? name with
    | none => sessions
    | some seat => ((perform name seat (seat.session.perform operation)).run sessions).2
  | .passes now world =>
    { sessions with shared := { sessions.shared with now }, world := { sessions.world with world } }

def course (sessions : Sessions Backing (Journaled W)) (events : List (Event W)) : Sessions Backing (Journaled W) :=
  events.foldl occur sessions

theorem course_snoc (sessions : Sessions Backing (Journaled W)) (events : List (Event W)) (event : Event W) :
    sessions.course (events ++ [event]) = (sessions.course events).occur event :=
  List.foldl_append

def Holds (name region : String) (key : Key) (rows : Rows) (sessions : Sessions Backing (Journaled W)) : Prop :=
  ∃ seat, sessions.seat? name = some seat ∧ seat.own.Holds region key rows

def Pending (name region : String) (sessions : Sessions Backing (Journaled W)) : Prop :=
  ∃ seat, sessions.seat? name = some seat ∧ seat.own.Pending region

def Opened (sessions : Sessions Backing (Journaled W)) : Prop :=
  ∀ name seat, sessions.seat? name = some seat → seat.own = {} ∧ seat.Shares

def Bare (sessions : Sessions Backing (Journaled W)) : Prop :=
  ∀ name seat, sessions.seat? name = some seat → seat.session.configuration.chain = Chain.empty

def Sound (sessions : Sessions Backing (Journaled W)) : Prop :=
  ∀ name seat, sessions.seat? name = some seat → seat.Sound

theorem opened_of_seats (sessions : Sessions Backing (Journaled W))
    (seats : ∀ entry ∈ sessions.seats, entry.2.own = {} ∧ entry.2.Shares) : sessions.Opened :=
  fun name seat found => seats (name, seat) (Table.mem_of_get name seat _ found)

theorem sound_opened (sessions : Sessions Backing (Journaled W)) (opened : sessions.Opened) (bare : sessions.Bare) :
    sessions.Sound := by
  intro name seat found
  obtain ⟨idle, shares⟩ := opened name seat found
  exact ⟨idle ▸ Staging.well_kept_nil, shares, bare name seat found⟩

theorem seat_settle {V : Type} (name other : String) (seat : Seat Backing V) (work : Work Backing V)
    (sessions : Sessions Backing V) :
    (settle name seat work sessions).seat? other =
      if other = name then some { seat with dirty := work.dirty, own := work.stage.own } else sessions.seat? other := by
  by_cases same : other = name
  · rw [if_pos same, same]
    exact Table.get_put_same _ _ _
  · rw [if_neg same]
    exact Table.get_put_other same _ _

theorem seat_settle_cases {V : Type} {name other : String} {seat last : Seat Backing V} {work : Work Backing V}
    {sessions : Sessions Backing V} (there : (settle name seat work sessions).seat? other = some last) :
    (other = name ∧ { seat with dirty := work.dirty, own := work.stage.own } = last) ∨
      sessions.seat? other = some last := by
  rw [seat_settle] at there
  by_cases same : other = name
  · rw [if_pos same, Option.some.injEq] at there
    exact Or.inl ⟨same, there⟩
  · rw [if_neg same] at there
    exact Or.inr there

theorem occur_acts {name : String} {seat : Seat Backing (Journaled W)} {sessions : Sessions Backing (Journaled W)}
    (found : sessions.seat? name = some seat) (operation : Session.Operation Backing (Journaled W))
    (discreet : operation.Discreet Shared.Thins) :
    sessions.occur (.acts name operation discreet) =
      settle name seat ((seat.session.perform operation).run (workOf seat sessions)).2 sessions := by
  simp only [occur, found]
  rfl

-- What an event may do. Rows that are new to a region come from a session that publishes.
structure Leads (region : String) (event : Event W) (sessions after : Sessions Backing (Journaled W)) : Prop where
  sound : after.Sound
  grown : Journal.Grown (fun _ => True) sessions.world.journal after.world.journal
  held : ∀ name key rows, after.Holds name region key rows →
    sessions.Holds name region key rows ∨ Journal.Produced sessions.world.journal after.world.journal rows
  stored : ∀ key rows, after.shared.contents region key = some rows →
    sessions.shared.contents region key = some rows ∨ ∃ name, event.Publishes name ∧
      (sessions.Holds name region key rows ∨ Journal.Produced sessions.world.journal after.world.journal rows)

theorem leads_refl (sessions : Sessions Backing (Journaled W)) (sound : sessions.Sound) (event : Event W) :
    Leads region event sessions sessions :=
  ⟨sound, Journal.grown_refl _ _, fun _ _ _ holds => Or.inl holds, fun _ _ found => Or.inl found⟩

theorem leads_settle {name : String} {seat : Seat Backing (Journaled W)} {sessions : Sessions Backing (Journaled W)}
    (sound : sessions.Sound) (found : sessions.seat? name = some seat)
    (operation : Session.Operation Backing (Journaled W)) (discreet : operation.Discreet Shared.Thins)
    (work : Work Backing (Journaled W))
    (spreads : Stage.Spreads operation.Publishes region (workOf seat sessions).stage work.stage) :
    Leads region (.acts name operation discreet) sessions (settle name seat work sessions) := by
  have sits := sound name seat found
  refine ⟨?_, spreads.grown, ?_, ?_⟩
  · intro other last there
    rcases seat_settle_cases there with ⟨rfl, rfl⟩ | elsewhere
    · exact ⟨spreads.buffers sits.kept, sits.shares, sits.bare⟩
    · exact sound other last elsewhere
  · rintro other key rows ⟨last, there, holds⟩
    rcases seat_settle_cases there with ⟨rfl, rfl⟩ | elsewhere
    · exact (spreads.held key rows holds).imp_left fun before => ⟨seat, found, before⟩
    · exact Or.inl ⟨last, elsewhere, holds⟩
  · intro key rows there
    refine (spreads.stored sits.kept key rows there).imp_right fun ⟨publishes, known⟩ => ?_
    exact ⟨name, ⟨rfl, publishes⟩, known.imp_left fun before => ⟨seat, found, before⟩⟩

theorem leads_occur (sessions : Sessions Backing (Journaled W)) (sound : sessions.Sound) (event : Event W) :
    Leads region event sessions (sessions.occur event) := by
  cases event with
  | passes now world => exact ⟨sound, Journal.grown_refl _ _, fun _ _ _ holds => Or.inl holds, fun _ _ found => Or.inl found⟩
  | acts name operation discreet =>
      cases found : sessions.seat? name with
      | none =>
          have still : sessions.occur (.acts name operation discreet) = sessions := by simp only [occur, found]
          rw [still]
          exact leads_refl sessions sound _
      | some seat =>
          rw [occur_acts found]
          exact leads_settle sound found operation discreet _ ((sound name seat found).spreads operation discreet _)

theorem sound_course {sessions : Sessions Backing (Journaled W)} (sound : sessions.Sound) (events : List (Event W)) :
    (sessions.course events).Sound := by
  induction events using List.reverseRecOn with
  | nil => exact sound
  | append_singleton rest event ih =>
      rw [course_snoc]
      exact (leads_occur _ ih event : Leads "" event _ _).sound

end Sessions

end StatementMapper
