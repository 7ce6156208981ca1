import StatementMapper.Proofs.Execution.Provenance
import StatementMapper.Proofs.Sessions.Course

set_option autoImplicit false

/-! In any course of any sessions a query with outputs stores nothing. -/

namespace StatementMapper

open Cache

variable {W : Type}

def Session.Caches (session : Session Backing W) : Prop :=
  (∃ database, session.executor = session.configuration.caching database) ∧
    ∀ staging, session.configuration.chain.Heeds fun stage => stage.staging = staging

namespace Sessions

inductive Activity (W : Type) where
  | opens (name : String) (session : Session Backing W) (caches : session.Caches)
  | calls (name : String) (step : Step .executor) (arguments : Arguments (Stage Backing W) step.parameters)
      (leaves : ∀ receiver, step.receiver arguments = some receiver → receiver.Leaves Stage.staging)
  | passes (now : Nat) (world : W)

def pursue (sessions : Sessions Backing W) : Activity W → Sessions Backing W
  | .opens name session _ => ((place name session).run sessions).2
  | .calls name step arguments _ =>
    match sessions.seat? name with
    | none => sessions
    | some seat => ((perform name seat (Session.onStage (seat.session.executor.call step arguments))).run sessions).2
  | .passes now world => { sessions with shared := { sessions.shared with now }, world }

def pursueAll (sessions : Sessions Backing W) (activities : List (Activity W)) : Sessions Backing W :=
  activities.foldl pursue sessions

theorem pursue_all_snoc (sessions : Sessions Backing W) (activities : List (Activity W)) (activity : Activity W) :
    sessions.pursueAll (activities ++ [activity]) = (sessions.pursueAll activities).pursue activity :=
  List.foldl_append

def Staged (sessions : Sessions Backing W) (name : String) : Entries := fun region key rows =>
  ∃ seat, sessions.seat? name = some seat ∧ seat.own.Staged region key rows

def Stores (sessions : Sessions Backing W) (name : String) : Activity W → Entries
  | .calls other step arguments _ => fun region key rows => other = name ∧ ∃ seat, sessions.seat? name = some seat ∧
    seat.session.executor.Stores seat.session.configuration (workOf seat sessions).stage step arguments region key rows
  | _ => fun _ _ _ => False

def Activity.Publishes : Activity W → Prop
  | .calls _ step _ _ => step.Publishes
  | _ => False

def AsksForOutputs (sessions : Sessions Backing W) : Activity W → Prop
  | .calls name step arguments _ => ∃ seat, sessions.seat? name = some seat ∧
    ∃ statement receiver key command outcome, seat.session.executor.Asks seat.session.configuration
      (workOf seat sessions).stage step arguments statement receiver key command outcome ∧ statement.HasOutputs command
  | _ => False

def Kept (sessions : Sessions Backing W) : Prop :=
  ∀ name seat, sessions.seat? name = some seat → Staging.WellKept seat.own.buffers ∧ seat.session.Caches

structure Gains (activity : Activity W) (sessions after : Sessions Backing W) : Prop where
  kept : after.Kept
  staged : ∀ name region key rows, after.Staged name region key rows →
    sessions.Staged name region key rows ∨ sessions.Stores name activity region key rows
  stored : ∀ region key rows, after.shared.contents region key = some rows →
    sessions.shared.contents region key = some rows ∨ activity.Publishes ∧ ∃ name, sessions.Staged name region key rows

theorem gains_refl (activity : Activity W) (sessions : Sessions Backing W) (kept : sessions.Kept) :
    Gains activity sessions sessions :=
  ⟨kept, fun _ _ _ _ staged => Or.inl staged, fun _ _ _ found => Or.inl found⟩

theorem gains_opens (sessions : Sessions Backing W) (kept : sessions.Kept) (name : String) (session : Session Backing W)
    (caches : session.Caches) :
    Gains (.opens name session caches) sessions (sessions.pursue (.opens name session caches)) := by
  have seats {other : String} {seat : Seat Backing W}
      (there : (sessions.pursue (.opens name session caches)).seat? other = some seat) :
      { session } = seat ∨ sessions.seat? other = some seat := by
    by_cases same : other = name
    · have placed : (sessions.pursue (.opens name session caches)).seat? name = some { session } := Table.get_put_same _ _ _
      rw [same, placed, Option.some.injEq] at there
      exact Or.inl there
    · have unchanged : (sessions.pursue (.opens name session caches)).seat? other = sessions.seat? other :=
        Table.get_put_other same _ _
      exact Or.inr (unchanged.symm.trans there)
  constructor
  · intro other seat there
    rcases seats there with rfl | before
    · exact ⟨Staging.well_kept_nil, caches⟩
    · exact kept other seat before
  · rintro other region key rows ⟨seat, there, staged⟩
    rcases seats there with rfl | before
    · obtain ⟨_, found, _⟩ := staged
      exact nomatch found
    · exact Or.inl ⟨seat, before, staged⟩
  · exact fun _ _ _ found => Or.inl found

theorem gains_calls (sessions : Sessions Backing W) (kept : sessions.Kept) (name : String) (step : Step .executor)
    (arguments : Arguments (Stage Backing W) step.parameters)
    (leaves : ∀ receiver, step.receiver arguments = some receiver → receiver.Leaves Stage.staging) :
    Gains (.calls name step arguments leaves) sessions (sessions.pursue (.calls name step arguments leaves)) := by
  cases found : sessions.seat? name with
  | none =>
      have still : sessions.pursue (.calls name step arguments leaves) = sessions := by simp only [pursue, found]
      rw [still]
      exact gains_refl _ sessions kept
  | some seat =>
      obtain ⟨whole, ⟨database, executor⟩, confined⟩ := kept name seat found
      have gains := Caching.gains_call seat.session.configuration confined database step arguments leaves
        (workOf seat sessions).stage
      rw [← executor] at gains
      have moved : sessions.pursue (.calls name step arguments leaves) =
          settle name seat ((Session.onStage (seat.session.executor.call step arguments)).run (workOf seat sessions)).2
            sessions := by
        simp only [pursue, found]
        rfl
      rw [moved]
      constructor
      · intro other last there
        rcases seat_settle_cases there with ⟨rfl, rfl⟩ | before
        · exact ⟨gains.buffers whole, ⟨database, executor⟩, confined⟩
        · exact kept other last before
      · rintro other region key rows ⟨last, there, staged⟩
        rcases seat_settle_cases there with ⟨rfl, rfl⟩ | before
        · rcases gains.staged region key rows staged with earlier | stores
          · exact Or.inl ⟨seat, found, earlier⟩
          · exact Or.inr ⟨rfl, seat, found, stores⟩
        · exact Or.inl ⟨last, before, staged⟩
      · intro region key rows there
        rcases gains.stored whole region key rows there with before | ⟨publishes, staged⟩
        · exact Or.inl before
        · exact Or.inr ⟨publishes, name, seat, found, staged⟩

theorem gains_pursue (sessions : Sessions Backing W) (kept : sessions.Kept) (activity : Activity W) :
    Gains activity sessions (sessions.pursue activity) := by
  cases activity with
  | opens name session caches => exact gains_opens sessions kept name session caches
  | calls name step arguments leaves => exact gains_calls sessions kept name step arguments leaves
  | passes now world => exact ⟨kept, fun _ _ _ _ staged => Or.inl staged, fun _ _ _ found => Or.inl found⟩

-- An entry that has been stored in the course of some activities.
def Origin (start : Sessions Backing W) (activities : List (Activity W)) : Entries := fun region key rows =>
  ∃ earlier activity later name, activities = earlier ++ activity :: later ∧
    (start.pursueAll earlier).Stores name activity region key rows

theorem origin_later {start : Sessions Backing W} {activities : List (Activity W)} (activity : Activity W)
    {region : String} {key : Key} {rows : Rows} (origin : start.Origin activities region key rows) :
    start.Origin (activities ++ [activity]) region key rows := by
  obtain ⟨earlier, storing, later, name, split, stores⟩ := origin
  refine ⟨earlier, storing, later ++ [activity], name, ?_, stores⟩
  rw [split, List.append_assoc, List.cons_append]

-- What is in the buffers and the regions after some activities.
structure Accounted (start : Sessions Backing W) (activities : List (Activity W)) (sessions : Sessions Backing W) :
    Prop where
  kept : sessions.Kept
  staged : ∀ name region key rows, sessions.Staged name region key rows → start.Origin activities region key rows
  stored : ∀ region key rows, sessions.shared.contents region key = some rows →
    start.shared.contents region key = some rows ∨ start.Origin activities region key rows

theorem accounted_all (start : Sessions Backing W) (idle : start.seats = []) (activities : List (Activity W)) :
    Accounted start activities (start.pursueAll activities) := by
  induction activities using List.reverseRecOn with
  | nil =>
      have vacant (name : String) : start.seat? name = none := by
        rw [seat?, idle]
        rfl
      constructor
      · exact fun name seat there => nomatch (vacant name).symm.trans there
      · exact fun name region key rows ⟨seat, there, _⟩ => nomatch (vacant name).symm.trans there
      · exact fun _ _ _ found => Or.inl found
  | append_singleton rest activity ih =>
      rw [pursue_all_snoc]
      have gains := gains_pursue _ ih.kept activity
      constructor
      · exact gains.kept
      · intro name region key rows staged
        rcases gains.staged name region key rows staged with before | stores
        · exact origin_later activity (ih.staged name region key rows before)
        · exact ⟨rest, activity, [], name, rfl, stores⟩
      · intro region key rows found
        rcases gains.stored region key rows found with before | ⟨_, name, staged⟩
        · exact (ih.stored region key rows before).imp_right (origin_later activity)
        · exact Or.inr (origin_later activity (ih.staged name region key rows staged))

theorem stores_nothing {sessions : Sessions Backing W} {activity : Activity W} (asks : sessions.AsksForOutputs activity)
    (name : String) (region : String) (key : Key) (rows : Rows) : ¬ sessions.Stores name activity region key rows := by
  cases activity with
  | opens => exact asks.elim
  | passes => exact asks.elim
  | calls other step arguments leaves =>
      obtain ⟨seat, found, statement, receiver, given, command, outcome, asked, outputs⟩ := asks
      rintro ⟨rfl, last, there, against, bound, other, answered, again, _, _, plain, _⟩
      cases found.symm.trans there
      obtain ⟨rfl, rfl⟩ := asked.same again
      exact plain outputs

theorem publishes_nothing {sessions : Sessions Backing W} {activity : Activity W} (asks : sessions.AsksForOutputs activity) :
    ¬ activity.Publishes := by
  cases activity with
  | opens => exact asks.elim
  | passes => exact asks.elim
  | calls other step arguments leaves =>
      obtain ⟨seat, found, statement, receiver, given, command, outcome, asked, outputs⟩ := asks
      cases asked with
      | query => exact id
      | queryBound => exact id

theorem outputs_never_shared (start : Sessions Backing W) (idle : start.seats = []) (activities : List (Activity W)) :
    (∀ name region key rows, (start.pursueAll activities).Staged name region key rows →
        start.Origin activities region key rows) ∧
      (∀ region key rows, (start.pursueAll activities).shared.contents region key = some rows →
        start.shared.contents region key = some rows ∨ start.Origin activities region key rows) ∧
      (∀ earlier activity later, activities = earlier ++ activity :: later →
        (start.pursueAll earlier).AsksForOutputs activity →
          (∀ name region key rows, ((start.pursueAll earlier).pursue activity).Staged name region key rows →
            (start.pursueAll earlier).Staged name region key rows) ∧
          ∀ region key rows, ((start.pursueAll earlier).pursue activity).shared.contents region key = some rows →
            (start.pursueAll earlier).shared.contents region key = some rows) ∧
      ∀ name seat, (start.pursueAll activities).seat? name = some seat → seat.own.closed = false →
        ∀ statement parameter bounds region, statement.region = some region → statement.cached = true →
          Table.contains region (start.pursueAll activities).shared.regions = true →
          (∀ command, seat.session.configuration.command statement parameter = .ok command →
            statement.HasOutputs command →
              (workOf seat (start.pursueAll activities)).stage.RefusesOutputs statement
                (seat.session.executor.query statement parameter bounds none)) ∧
          ∀ key command, statement.HasOutputs command →
            (workOf seat (start.pursueAll activities)).stage.RefusesOutputs statement
              (seat.session.executor.queryBound statement parameter bounds none key command) := by
  have accounted := accounted_all start idle activities
  refine ⟨accounted.staged, accounted.stored, ?_, ?_⟩
  · intro earlier activity later _ asks
    have gains := gains_pursue _ (accounted_all start idle earlier).kept activity
    constructor
    · intro name region key rows staged
      exact (gains.staged name region key rows staged).resolve_right (stores_nothing asks name region key rows)
    · intro region key rows found
      exact (gains.stored region key rows found).resolve_right fun publishes => publishes_nothing asks publishes.1
  · intro name seat found opened statement parameter bounds region named cached registered
    obtain ⟨_, ⟨database, executor⟩, _⟩ := accounted.kept name seat found
    rw [executor]
    constructor
    · intro command made outputs
      exact Caching.refuses_query_outputs named cached registered parameter bounds _ database opened command made outputs
    · intro key command outputs
      exact Caching.refuses_query_bound_outputs named cached registered parameter bounds key command outputs

end Sessions

namespace Streaming

open Sessions (Activity)

def session : Session Backing Unit := ⟨{}, Configuration.caching {} database, false⟩

def callable : Statement :=
  { statement with form := .callable, source := .fixed "CALL" [{ property := "n", mode := .output }] }

def asks (statement : Statement) : Activity Unit := .calls "a" .query (statement, .none, .all, none, ()) nofun

-- A query without outputs that is published, and one with outputs.
def activities : List (Activity Unit) :=
  [.opens "a" session ⟨⟨database, rfl⟩, fun _ => nofun⟩, asks statement, .calls "a" .commit (true, ()) nofun, asks callable]

def start : Sessions Backing Unit := { shared := ⟨[("users", Refusing.region)], 0⟩, world := () }

theorem published_without_outputs :
    (start.pursueAll activities).shared.contents "users" key = some ⟨["n"], [[.integer 1]]⟩ ∧
      start.Origin activities "users" key ⟨["n"], [[.integer 1]]⟩ ∧
      ∃ seat, (start.pursueAll activities).seat? "a" = some seat ∧
        (Sessions.workOf seat (start.pursueAll activities)).stage.RefusesOutputs callable
          (seat.session.executor.query callable .none .all none) := by
  obtain ⟨_, stored, _, refused⟩ := Sessions.outputs_never_shared start rfl activities
  have found : (start.pursueAll activities).shared.contents "users" key = some ⟨["n"], [[.integer 1]]⟩ := rfl
  refine ⟨found, (stored "users" key _ found).resolve_left nofun, _, rfl, ?_⟩
  have refuses := refused "a" _ rfl rfl callable .none .all "users" rfl rfl rfl
  exact refuses.1 _ rfl ⟨rfl, _, List.mem_singleton_self _, Or.inl rfl⟩

end Streaming

end StatementMapper
