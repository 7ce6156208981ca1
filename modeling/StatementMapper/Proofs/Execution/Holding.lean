import StatementMapper.Proofs.Execution.Coherence
import StatementMapper.Proofs.Execution.Journal
import StatementMapper.Proofs.Triple

set_option autoImplicit false

namespace StatementMapper

open Cache

variable {T W : Type}

namespace Own

def Staged (own : Own) (region : String) (key : Key) (rows : Rows) : Prop :=
  ∃ buffer, Table.get? region own.buffers = some buffer ∧ Table.get? key buffer.entries = some rows

def Holds (own : Own) (region : String) (key : Key) (rows : Rows) : Prop :=
  own.Staged region key rows ∨ own.kept.get? key = some rows

end Own

def RowHandler.Discreet (thins : Shared T → Shared T → Prop) (receiver : RowHandler (Stage T (Journaled W))) : Prop :=
  ∀ number columns row stage, (receiver.receive number columns row stage).2.own = stage.own ∧
    (receiver.receive number columns row stage).2.world.journal = stage.world.journal ∧
    thins stage.shared (receiver.receive number columns row stage).2.shared

namespace Stage

-- How far a stage may have come from another without publishing anything.
structure Moves (thins : Shared T → Shared T → Prop) (allow : Entry → Prop) (region : String)
    (start stage : Stage T (Journaled W)) : Prop where
  closed : stage.own.closed = start.own.closed
  grown : Journal.Grown allow start.world.journal stage.world.journal
  held : ∀ key rows, stage.own.Holds region key rows →
    start.own.Holds region key rows ∨ Journal.Produced start.world.journal stage.world.journal rows
  buffers : Staging.WellKept start.own.buffers → Staging.WellKept stage.own.buffers
  thinned : thins start.shared stage.shared

variable {thins : Shared T → Shared T → Prop} {allow : Entry → Prop} {region : String}
  {start stage : Stage T (Journaled W)}

theorem moves_refl (refl : ∀ shared, thins shared shared) (stage : Stage T (Journaled W)) :
    Moves thins allow region stage stage :=
  ⟨rfl, Journal.grown_refl allow _, fun _ _ holds => Or.inl holds, id, refl _⟩

namespace Moves

theorem elsewhere (moves : Moves thins allow region start stage) (world : Journaled W)
    (grown : Journal.Grown allow stage.world.journal world.journal) :
    Moves thins allow region start { stage with world := world } :=
  { moves with
    grown := Journal.grown_trans moves.grown grown
    held := fun key rows holds =>
      (moves.held key rows holds).imp_right fun produced => Journal.produced_grown produced grown }

theorem forget (moves : Moves thins allow region start stage) : Moves thins allow region start stage.forgotten :=
  { moves with
    held := by
      rintro key rows (staged | kept)
      · exact moves.held key rows (Or.inl staged)
      · exact nomatch kept }

theorem keep (moves : Moves thins allow region start stage) (key : Key) (rows : Rows)
    (produced : Journal.Produced start.world.journal stage.world.journal rows) :
    Moves thins allow region start
      { stage with own := { stage.own with kept := stage.own.kept.put key rows } } :=
  { moves with
    held := by
      rintro other found (staged | kept)
      · exact moves.held other found (Or.inl staged)
      · by_cases same : other = key
        · rw [same, Perpetual.get?, Perpetual.put, Table.get_put_same, Option.some.injEq] at kept
          exact Or.inr (kept ▸ produced)
        · rw [Perpetual.get?, Perpetual.put, Table.get_put_other same] at kept
          exact moves.held other found (Or.inr kept) }

theorem share (moves : Moves thins allow region start stage)
    (trans : ∀ first second third, thins first second → thins second third → thins first third) (shared : Shared T)
    (thinned : thins stage.shared shared) : Moves thins allow region start { stage with shared := shared } :=
  { moves with thinned := trans _ _ _ moves.thinned thinned }

theorem receive (moves : Moves thins allow region start stage)
    (trans : ∀ first second third, thins first second → thins second third → thins first third)
    (receiver : RowHandler (Stage T (Journaled W))) (discreet : receiver.Discreet thins) (number : Nat)
    (columns : List String) (row : List Value) :
    Moves thins allow region start (receiver.receive number columns row stage).2 := by
  obtain ⟨own, journal, thinned⟩ := discreet number columns row stage
  have world := (moves.share trans _ thinned).elsewhere (receiver.receive number columns row stage).2.world
    (journal ▸ Journal.grown_refl allow stage.world.journal)
  rwa [← own] at world

end Moves

def Steady {A : Type} (thins : Shared T → Shared T → Prop) (allow : Entry → Prop) (region : String)
    (start : Stage T (Journaled W)) (action : Action (Stage T (Journaled W)) A) : Prop :=
  Action.Triple (Moves thins allow region start) action (fun _ => Moves thins allow region start)
    (Moves thins allow region start)

def Fetches (thins : Shared T → Shared T → Prop) (allow : Entry → Prop) (region : String)
    (start : Stage T (Journaled W)) (rows : Rows) (stage : Stage T (Journaled W)) : Prop :=
  Moves thins allow region start stage ∧ Journal.Produced start.world.journal stage.world.journal rows

def Knows (thins : Shared T → Shared T → Prop) (allow : Entry → Prop) (region : String)
    (start : Stage T (Journaled W)) (key : Key) (rows : Rows) (stage : Stage T (Journaled W)) : Prop :=
  Moves thins allow region start stage ∧
    (start.own.Holds region key rows ∨ Journal.Produced start.world.journal stage.world.journal rows)

end Stage

open Stage (Moves Steady Fetches Knows)

variable {thins : Shared T → Shared T → Prop} {allow : Entry → Prop} {region : String}
  {start : Stage T (Journaled W)} {database : Database W} {configuration : Configuration (Stage T (Journaled W))}

namespace RowHandler

theorem triple_feed {S : Type} {good : S → Prop} (receiver : RowHandler S)
    (receives : ∀ number columns row state, good state → good (receiver.receive number columns row state).2)
    (columns : List String) (rows : List (List Value)) (number : Nat) :
    Action.Triple good (receiver.feed columns number rows) (fun _ => good) good := by
  induction rows generalizing number with
  | nil => exact Action.triple_pure fun _ holds => holds
  | cons row rest ih =>
      intro state holds
      have received := receives number columns row state holds
      rcases ended : receiver.receive number columns row state with ⟨stops, after⟩
      rw [ended] at received
      cases stops with
      | true =>
          have stopped : (receiver.feed columns number (row :: rest)).run state = (.ok (), after) := by
            simp only [feed, Action.run, ended]
          rw [stopped]
          exact received
      | false =>
          have goes : (receiver.feed columns number (row :: rest)).run state =
              (receiver.feed columns (number + 1) rest).run after := by
            simp only [feed, Action.run, ended]
          rw [goes]
          exact ih (number + 1) after received

theorem steady_feed (trans : ∀ first second third, thins first second → thins second third → thins first third)
    (receiver : RowHandler (Stage T (Journaled W))) (discreet : receiver.Discreet thins) (columns : List String)
    (rows : List (List Value)) (number : Nat) :
    Steady thins allow region start (receiver.feed columns number rows) :=
  triple_feed receiver (fun number columns row _ moves => moves.receive trans receiver discreet number columns row) columns
    rows number

end RowHandler

namespace Database

theorem triple_query (answers : ∀ rows, allow (.answered rows)) (request : Request) :
    Action.Triple (Moves thins allow region start) ((database.journaled.staged T).query request)
      (fun rows stage => Moves thins allow region start stage ∧
        ∀ bounds, Journal.Produced start.world.journal stage.world.journal (rows.window bounds))
      (Moves thins allow region start) := by
  intro stage moves
  rcases ran : (database.query request).run stage.world.world with ⟨outcome, world⟩
  have grown (rows : Rows) := Journal.grown_snoc stage.world.journal (.answered rows) (answers rows)
  cases outcome with
  | error cause =>
      have failed : ((database.journaled.staged T).query request).run stage =
          (.error cause, { stage with world := { stage.world with world } }) := by
        simp only [staged, within, journaled, Action.run_within]
        rw [Action.run_bind_error (by rw [Journaled.inWorld, Action.run_within, ran])]
      rw [failed]
      exact moves.elsewhere _ (Journal.grown_refl allow _)
  | ok rows =>
      have answered : ((database.journaled.staged T).query request).run stage =
          (.ok rows, { stage with world := ⟨world, stage.world.journal ++ [.answered rows]⟩ }) := by
        simp only [staged, within, journaled, Action.run_within]
        rw [Action.run_bind_ok (by rw [Journaled.inWorld, Action.run_within, ran])]
        rfl
      rw [answered]
      refine ⟨moves.elsewhere _ (grown rows), fun bounds => ?_⟩
      exact Journal.grown_produced moves.grown ⟨[.answered rows], rows, bounds, rfl, List.mem_singleton_self _, rfl⟩

end Database

namespace Direct

variable {good : Stage T W → Prop}

theorem triple_ensure_open (good : Stage T W → Prop) :
    Action.Triple good ensureOpen (fun _ => good) good := by
  refine Action.triple_bind (fun _ => good) (Action.triple_look fun _ holds => holds) fun closed => ?_
  cases closed with
  | true => exact Action.triple_fail fun _ holds => holds
  | false => exact Action.triple_pure fun _ holds => holds

theorem triple_clear_local (forgets : ∀ stage, good stage → good stage.forgotten) :
    Action.Triple good clearLocal (fun _ => good) good := by
  refine Action.triple_change fun stage holds => ?_
  cases closed : stage.own.closed with
  | true => simpa only [closed, if_true] using holds
  | false => simpa only [closed, Bool.false_eq_true, if_false, Stage.forgotten] using forgets stage holds

theorem triple_end_query {configuration : Configuration (Stage T W)}
    (forgets : ∀ stage, good stage → good stage.forgotten) :
    Action.Triple good (endQuery configuration) (fun _ => good) good := by
  unfold endQuery
  by_cases brief : configuration.settings.localScope = .statement
  · rw [if_pos brief]
    exact triple_clear_local forgets
  · rw [if_neg brief]
    exact Action.triple_pure fun _ holds => holds

theorem triple_fetch (answers : ∀ rows, allow (.answered rows)) (bare : configuration.chain = Chain.empty)
    (statement : Statement) (bounds : Bounds) (command : Command) :
    Action.Triple (Moves thins allow region start)
      (fetch configuration (database.journaled.staged T) statement bounds none command)
      (Fetches thins allow region start) (Moves thins allow region start) := by
  rw [fetch_bare configuration bare]
  refine Action.triple_bind _ (Database.triple_query answers _) fun rows => ?_
  exact Action.triple_pure fun stage known => ⟨known.1, known.2 bounds⟩

theorem triple_fetch_once (answers : ∀ rows, allow (.answered rows)) (bare : configuration.chain = Chain.empty)
    (statement : Statement) (bounds : Bounds) (key : Key) (command : Command) :
    Action.Triple (Moves thins allow region start)
      (fetchOnce configuration (database.journaled.staged T) statement bounds key command)
      (Knows thins allow region start key) (Moves thins allow region start) := by
  refine Action.triple_bind (fun known stage => Moves thins allow region start stage ∧ known = stage.own.kept.get? key)
    (Action.triple_look fun stage moves => ⟨moves, rfl⟩) fun known => ?_
  cases known with
  | some rows =>
      exact Action.triple_pure fun stage found => ⟨found.1, found.1.held key rows (Or.inr found.2.symm)⟩
  | none =>
      refine Action.triple_bind (Fetches thins allow region start)
        (Action.triple_weaken (triple_fetch answers bare statement bounds command) (fun _ missing => missing.1)
          (fun _ _ fetched => fetched) fun _ moves => moves) fun rows => ?_
      refine Action.triple_bind (fun _ => Fetches thins allow region start rows)
        (Action.triple_change fun stage fetched => ⟨fetched.1.keep key rows fetched.2, fetched.2⟩) fun _ => ?_
      refine Action.triple_bind (fun _ => Fetches thins allow region start rows)
        (Action.triple_weaken (triple_end_query fun _ fetched => ⟨fetched.1.forget, fetched.2⟩) (fun _ fetched => fetched)
          (fun _ _ fetched => fetched) fun _ fetched => fetched.1) fun _ => ?_
      exact Action.triple_pure fun _ fetched => ⟨fetched.1, Or.inr fetched.2⟩

theorem triple_flush {A : Type} {post : A → Stage T W → Prop} (forgets : ∀ stage, good stage → good stage.forgotten)
    (statement : Statement) (rest : Action (Stage T W) A) (goes : Action.Triple good rest post good) :
    Action.Triple good (do
      ensureOpen
      if statement.flushing then clearLocal else pure ()
      rest) post good := by
  refine Action.triple_bind (fun _ => good) (triple_ensure_open _) fun _ => ?_
  cases statement.flushing with
  | true => exact Action.triple_bind (fun _ => good) (triple_clear_local forgets) fun _ => goes
  | false => exact goes

theorem triple_query_bound (answers : ∀ rows, allow (.answered rows)) (bare : configuration.chain = Chain.empty)
    (statement : Statement) (bounds : Bounds) (key : Key) (command : Command) :
    Action.Triple (Moves thins allow region start)
      (queryBound configuration (database.journaled.staged T) statement bounds none key command)
      (Knows thins allow region start key) (Moves thins allow region start) :=
  triple_flush (fun _ moves => moves.forget) statement _ (triple_fetch_once answers bare statement bounds key command)

theorem steady_stream (trans : ∀ first second third, thins first second → thins second third → thins first third)
    (answers : ∀ rows, allow (.answered rows)) (bare : configuration.chain = Chain.empty) (statement : Statement)
    (bounds : Bounds) (receiver : RowHandler (Stage T (Journaled W))) (discreet : receiver.Discreet thins)
    (command : Command) :
    Steady thins allow region start
      (stream configuration (database.journaled.staged T) statement bounds receiver command) := by
  refine Action.triple_bind (fun _ => Moves thins allow region start) ?_ fun rows => ?_
  · rw [fetch_bare configuration bare]
    refine Action.triple_bind (fun _ => Moves thins allow region start)
      (Action.triple_weaken (Database.triple_query answers _) (fun _ moves => moves) (fun _ _ known => known.1)
        fun _ moves => moves) fun rows => ?_
    exact Action.triple_bind (fun _ => Moves thins allow region start)
      (RowHandler.steady_feed trans receiver discreet _ _ _) fun _ => Action.triple_pure fun _ moves => moves
  · exact Action.triple_bind (fun _ => Moves thins allow region start) (triple_end_query fun _ moves => moves.forget)
      fun _ => Action.triple_pure fun _ moves => moves

theorem steady_query_bound (trans : ∀ first second third, thins first second → thins second third → thins first third)
    (answers : ∀ rows, allow (.answered rows)) (bare : configuration.chain = Chain.empty) (statement : Statement)
    (bounds : Bounds) (receiver : Option (RowHandler (Stage T (Journaled W))))
    (discreet : ∀ handler, receiver = some handler → handler.Discreet thins) (key : Key) (command : Command) :
    Steady thins allow region start
      (queryBound configuration (database.journaled.staged T) statement bounds receiver key command) := by
  cases receiver with
  | none =>
      exact Action.triple_weaken (triple_query_bound answers bare statement bounds key command) (fun _ moves => moves)
        (fun _ _ known => known.1) fun _ moves => moves
  | some receiver =>
      exact triple_flush (fun _ moves => moves.forget) statement _
        (steady_stream trans answers bare statement bounds receiver (discreet receiver rfl) command)

-- A write that is not sent changes nothing; one that is sent makes the session forget its own tier before.
theorem run_update_journaled (bare : configuration.chain = Chain.empty) (statement : Statement) (parameter : Parameter)
    (stage : Stage T (Journaled W)) :
    (∃ cause, (update configuration (database.journaled.staged T) statement parameter).run stage = (.error cause, stage)) ∨
      ∃ outcome world, (update configuration (database.journaled.staged T) statement parameter).run stage =
          (outcome, { stage.forgotten with world := world }) ∧
        Journal.Grown (fun entry => entry = .wrote) stage.world.journal world.journal := by
  cases closed : stage.own.closed with
  | true =>
      exact Or.inl ⟨.executorClosed, Action.run_bind_error (run_ensure_open_closed stage closed)⟩
  | false =>
      refine Or.inr ?_
      have opened : (update configuration (database.journaled.staged T) statement parameter).run stage =
          (send configuration (database.journaled.staged T) statement parameter).run stage.forgotten :=
        (Action.run_bind_ok (run_ensure_open stage closed)).trans (Action.run_bind_ok (run_clear_local stage closed))
      rw [opened, send_bare configuration bare]
      cases made : configuration.command statement parameter with
      | error cause => exact ⟨_, stage.world, rfl, Journal.grown_refl _ _⟩
      | ok command =>
          rcases ran : (database.execute (Driver.requestOf configuration statement command)).run stage.world.world with
            ⟨outcome, world⟩
          refine ⟨outcome, ⟨world, stage.world.journal ++ [.wrote]⟩, ?_, Journal.grown_snoc _ _ rfl⟩
          refine (Action.run_bind_ok (Action.run_answer command _)).trans ?_
          simp only [Database.staged, Database.within, Database.journaled, Action.run_within]
          rw [Action.run_bind_ok (Action.run_change _ _), Journaled.inWorld, Action.run_within]
          simp only [Journaled.note, Stage.forgotten, ran]

end Direct

end StatementMapper
