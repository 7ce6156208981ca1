import StatementMapper.Proofs.Session.Hits
import StatementMapper.Proofs.Session.Settlement
import StatementMapper.Proofs.Sessions.Course

set_option autoImplicit false

/-! Behind a committed flush a region has older rows only from a session that held them then and has published since. -/

namespace StatementMapper

open Cache

variable {W : Type} {region : String}

namespace Sessions

section

-- The rows that sessions hold have been produced since a past, apart from some that they may have from before.
structure Held (past : Journal) (region : String) (older : String → Key → Rows → Prop)
    (sessions : Sessions Backing (Journaled W)) : Prop where
  sound : sessions.Sound
  grown : Journal.Grown (fun _ => True) past sessions.world.journal
  known : ∀ name key rows, sessions.Holds name region key rows →
    Journal.Produced past sessions.world.journal rows ∨ older name key rows

-- Nor has a region others, but by events in which such a session publishes.
structure Traced (past : Journal) (region : String) (older : String → Key → Rows → Prop) (events : List (Event W))
    (sessions : Sessions Backing (Journaled W)) : Prop where
  held : Held past region older sessions
  stored : ∀ key rows, sessions.shared.contents region key = some rows →
    Journal.Produced past sessions.world.journal rows ∨
      ∃ name, older name key rows ∧ ∃ event ∈ events, event.Publishes name

variable {past : Journal} {older : String → Key → Rows → Prop} {sessions after : Sessions Backing (Journaled W)}
  {event : Event W}

theorem held_leads (held : Held past region older sessions) (leads : Leads region event sessions after) :
    Held past region older after where
  sound := leads.sound
  grown := Journal.grown_trans held.grown leads.grown
  known := by
    intro name key rows holds
    rcases leads.held name key rows holds with before | produced
    · exact (held.known name key rows before).imp_left fun produced => Journal.produced_grown produced leads.grown
    · exact Or.inl (Journal.grown_produced held.grown produced)

theorem held_course (held : Held past region older sessions) (events : List (Event W)) :
    Held past region older (sessions.course events) := by
  induction events using List.reverseRecOn with
  | nil => exact held
  | append_singleton rest event ih =>
      rw [course_snoc]
      exact held_leads ih (leads_occur _ ih.sound event)

theorem traced_leads {events : List (Event W)} (traced : Traced past region older events sessions)
    (leads : Leads region event sessions after) : Traced past region older (events ++ [event]) after where
  held := held_leads traced.held leads
  stored := by
    intro key rows found
    have since {rows : Rows} (produced : Journal.Produced past sessions.world.journal rows) :
        Journal.Produced past after.world.journal rows := Journal.produced_grown produced leads.grown
    rcases leads.stored key rows found with before | ⟨name, publishes, holds | produced⟩
    · rcases traced.stored key rows before with produced | ⟨name, origin, other, member, publishes⟩
      · exact Or.inl (since produced)
      · exact Or.inr ⟨name, origin, other, List.mem_append_left _ member, publishes⟩
    · refine (traced.held.known name key rows holds).imp since fun old => ?_
      exact ⟨name, old, event, List.mem_append_right _ (List.mem_singleton_self event), publishes⟩
    · exact Or.inl (Journal.grown_produced traced.held.grown produced)

theorem traced_course (traced : Traced past region older [] sessions) (events : List (Event W)) :
    Traced past region older events (sessions.course events) := by
  induction events using List.reverseRecOn with
  | nil => exact traced
  | append_singleton rest event ih =>
      rw [course_snoc]
      exact traced_leads ih (leads_occur _ ih.held.sound event)

def Flushes (name region id : String) (parameter : Parameter) (sessions : Sessions Backing (Journaled W)) : Prop :=
  ∃ seat statement count, sessions.seat? name = some seat ∧
    seat.session.configuration.statement id = .ok statement ∧ statement.region = some region ∧
    statement.flushing = true ∧ ((seat.session.update id parameter).run (workOf seat sessions)).1 = .ok count

def writing (name id : String) (parameter : Parameter) : Event W := .acts name (.update id parameter) trivial

-- A session that has just flushed a region holds nothing for it.
theorem held_writing {name id : String} {parameter : Parameter} (sound : sessions.Sound)
    (flushes : sessions.Flushes name region id parameter) :
    Held sessions.world.journal region (fun other _ _ => other ≠ name) (sessions.occur (writing name id parameter)) := by
  have leads : Leads region (writing name id parameter) sessions (sessions.occur (writing name id parameter)) :=
    leads_occur sessions sound _
  refine ⟨leads.sound, leads.grown, ?_⟩
  rintro other key rows ⟨last, there, holds⟩
  refine Or.inr ?_
  rintro rfl
  obtain ⟨seat, statement, count, found, known, same, flushing, answered⟩ := flushes
  obtain ⟨configuration, database, autoCommit, bare, sharing, kind⟩ := (sound other seat found).caches
  rw [kind] at known answered
  obtain ⟨outcome, after, ran, _, flushed⟩ := @Session.run_update_effect Backing W Shared.Thins region _ configuration
    database autoCommit bare sharing Shared.thins_refl id parameter (workOf seat sessions)
  rw [ran] at answered
  have left : sessions.occur (writing other id parameter) =
      settle other seat ((seat.session.perform (.update id parameter)).run (workOf seat sessions)).2 sessions :=
    occur_acts found (.update id parameter) trivial
  rw [left, kind, seat_settle, if_pos rfl, Session.perform, Action.run_map Session.Answer.count ran,
    Option.some.injEq] at there
  subst there
  exact flushed count answered statement known same flushing key rows holds

-- Once a pending clear has been published, what is there and what the session holds has been produced since.
theorem traced_ending {name : String} (held : Held past region (fun other _ _ => other ≠ name) sessions)
    (pends : sessions.Pending name region) (keeps : event.Keeps name sessions)
    (done : ¬ (sessions.occur event).Pending name region) :
    Traced past region (fun other key rows => other ≠ name ∧ (sessions.occur event).Holds other region key rows) []
      (sessions.occur event) := by
  have leads : Leads region event sessions (sessions.occur event) := leads_occur sessions held.sound event
  have after := held_leads held leads
  refine ⟨⟨after.sound, after.grown, fun other key rows holds => ?_⟩, fun key rows found => Or.inl ?_⟩
  · exact (after.known other key rows holds).imp_right fun different => ⟨different, holds⟩
  · cases event with
    | passes now world => exact keeps.elim
    | acts other operation discreet =>
        obtain ⟨rfl, seat, sits, keeps⟩ := keeps
        obtain ⟨configuration, database, autoCommit, bare, sharing, kind⟩ := (held.sound other seat sits).caches
        have left := occur_acts sits operation discreet
        rw [kind] at keeps left
        rw [left] at done found leads
        have staged : seat.own.Staged region key rows := by
          refine @Session.stored_kept W region configuration database autoCommit (workOf seat sessions)
            (held.sound other seat sits).kept ?_ bare sharing operation keeps (fun pending => done ?_) key rows found
          · obtain ⟨known, same, pending⟩ := pends
            cases sits.symm.trans same
            exact pending
          · exact ⟨_, (seat_settle _ _ _ _ _).trans (if_pos rfl), pending⟩
        have produced := (held.known other key rows ⟨seat, sits, Or.inl staged⟩).resolve_right fun different => different rfl
        rw [left]
        exact Journal.produced_grown produced leads.grown

end

structure Flushing (W : Type) where
  start : Sessions Backing (Journaled W)
  earlier : List (Event W)
  writer : String
  id : String
  parameter : Parameter
  meanwhile : List (Event W)
  ending : Event W
  later : List (Event W)

namespace Flushing

variable (flushing : Flushing W)

def past : Sessions Backing (Journaled W) := flushing.start.course flushing.earlier

def pending : Sessions Backing (Journaled W) :=
  (flushing.past.occur (writing flushing.writer flushing.id flushing.parameter)).course flushing.meanwhile

def flushed : Sessions Backing (Journaled W) := flushing.pending.occur flushing.ending

def last : Sessions Backing (Journaled W) := flushing.flushed.course flushing.later

structure Commits (region : String) : Prop where
  writes : flushing.past.Flushes flushing.writer region flushing.id flushing.parameter
  pends : flushing.pending.Pending flushing.writer region
  keeps : flushing.ending.Keeps flushing.writer flushing.pending
  done : ¬ flushing.flushed.Pending flushing.writer region

def Recent (rows : Rows) : Prop := Journal.Produced flushing.past.world.journal flushing.last.world.journal rows

-- Rows that another session still held when the write was committed, and that has published since.
def Overtaken (region : String) (key : Key) (rows : Rows) : Prop :=
  ∃ name, name ≠ flushing.writer ∧ flushing.flushed.Holds name region key rows ∧
    ∃ event ∈ flushing.later, event.Publishes name

end Flushing

def Hits (region : String) (seat : Seat Backing (Journaled W)) (id : String) (parameter : Parameter) (bounds : Bounds)
    (rows : Rows) (sessions : Sessions Backing (Journaled W)) : Prop :=
  ((seat.session.query id parameter bounds none).run (workOf seat sessions)).1 = .ok rows ∧
    ((seat.session.query id parameter bounds none).run (workOf seat sessions)).2.stage.shared.hitsOf region ≠
      sessions.shared.hitsOf region

theorem stale_rows_overtaken (flushing : Flushing W) (opened : flushing.start.Opened) (bare : flushing.start.Bare)
    (region : String) (commits : flushing.Commits region) (reader : String) (seat : Seat Backing (Journaled W))
    (sits : flushing.last.seat? reader = some seat) (id : String) (parameter : Parameter) (bounds : Bounds) (rows : Rows)
    (hits : flushing.last.Hits region seat id parameter bounds rows) :
    flushing.Recent rows ∨
      ∃ key, seat.session.Keys id parameter bounds key ∧ flushing.Overtaken region key rows := by
  have begun : flushing.past.Sound := sound_course (sound_opened _ opened bare) flushing.earlier
  have written := held_course (held_writing begun commits.writes) flushing.meanwhile
  have traced := traced_course (traced_ending written commits.pends commits.keeps commits.done) flushing.later
  obtain ⟨configuration, database, autoCommit, plain, sharing, kind⟩ := (traced.held.sound reader seat sits).caches
  obtain ⟨answered, counted⟩ := hits
  rw [kind] at answered counted ⊢
  have hit := @Session.triple_query_hits W database configuration autoCommit region flushing.last.shared plain sharing id
    parameter bounds (workOf seat flushing.last) rfl
  rcases ran : ((Session.journaled configuration database autoCommit).query id parameter bounds none).run
    (workOf seat flushing.last) with ⟨outcome, after⟩
  rw [ran] at answered counted hit
  subst answered
  obtain ⟨key, keyed, found⟩ := hit.resolve_left counted
  refine (traced.stored key rows found).imp_right ?_
  rintro ⟨name, ⟨different, holds⟩, event, member, publishes⟩
  exact ⟨key, keyed, name, different, holds, event, member, publishes⟩

end Sessions

namespace Sessions.Flushing

-- A course after which a region answers a query of an idle session with rows from before the write only.
structure Stale (flushing : Flushing W) (region reader id : String) (rows : Rows) : Prop where
  opened : flushing.start.Opened
  commits : flushing.Commits region
  produced : Journal.Produced [] flushing.past.world.journal rows
  outdated : ¬ flushing.Recent rows
  hits : ∃ seat, flushing.last.seat? reader = some seat ∧ seat.own = {} ∧
    flushing.last.Hits region seat id .none .all rows

end Sessions.Flushing

namespace Counting

open Session (journaled)
open Sessions

def seat : Seat Backing (Journaled (Ledger Nat)) := { session := journaled journaledConfiguration database false }

def shows (name : String) : Sessions.Event (Ledger Nat) := .acts name (.list "show" .none .all) trivial

def commits (name : String) : Sessions.Event (Ledger Nat) := .acts name (.commit false) trivial

def zero : Rows := ⟨["n"], [[.integer 0]]⟩

def overtaken : Flushing (Ledger Nat) where
  start := ⟨work.stage.shared, ⟨⟨0, 0⟩, []⟩, [("late", seat), ("writer", seat), ("reader", seat)]⟩
  earlier := [shows "late"]
  writer := "writer"
  id := "add"
  parameter := .none
  meanwhile := []
  ending := commits "writer"
  later := [commits "late"]

theorem seat_idle : seat.own = {} ∧ seat.Shares := ⟨rfl, journaledConfiguration, database, false, rfl, rfl⟩

theorem overtaken_opened : overtaken.start.Opened := by
  refine opened_of_seats _ fun entry member => ?_
  simp only [overtaken, List.mem_cons, List.not_mem_nil, or_false] at member
  rcases member with rfl | rfl | rfl
  · exact seat_idle
  · exact seat_idle
  · exact seat_idle

theorem overtaken_bare : overtaken.start.Bare := by
  intro name sitting found
  have member := Table.mem_of_get name sitting _ found
  simp only [overtaken, List.mem_cons, Prod.mk.injEq, List.not_mem_nil, or_false] at member
  rcases member with ⟨_, rfl⟩ | ⟨_, rfl⟩ | ⟨_, rfl⟩
  · rfl
  · rfl
  · rfl

theorem not_recent (flushing : Flushing (Ledger Nat)) (rows : Rows)
    (grown : flushing.last.world.journal = flushing.past.world.journal ++ [.wrote, .committed]) :
    ¬ flushing.Recent rows := by
  rintro ⟨later, full, bounds, same, answered, _⟩
  rw [List.append_cancel_left (same.symm.trans grown)] at answered
  simp at answered

theorem not_pending {sessions : Sessions Backing (Journaled (Ledger Nat))} {name : String}
    {sitting : Seat Backing (Journaled (Ledger Nat))} {buffer : Buffer} (sits : sessions.seat? name = some sitting)
    (found : Table.get? "numbers" sitting.own.buffers = some buffer) (published : buffer.clearing = false) :
    ¬ sessions.Pending name "numbers" := by
  rintro ⟨other, there, pending, here, clearing⟩
  cases sits.symm.trans there
  cases found.symm.trans here
  rw [published] at clearing
  cases clearing

theorem stale_of (flushing : Flushing (Ledger Nat)) (opened : flushing.start.Opened) (commits : flushing.Commits "numbers")
    (shown : flushing.past.world.journal = [.answered zero])
    (grown : flushing.last.world.journal = flushing.past.world.journal ++ [.wrote, .committed])
    (sits : flushing.last.seat? "reader" = some seat)
    (answered : ((seat.session.query "show" .none .all none).run (workOf seat flushing.last)).1 = .ok zero)
    (counted : ((seat.session.query "show" .none .all none).run (workOf seat flushing.last)).2.stage.shared.hitsOf
      "numbers" ≠ flushing.last.shared.hitsOf "numbers") :
    flushing.Stale "numbers" "reader" "show" zero where
  opened := opened
  commits := commits
  produced := ⟨_, zero, .all, shown, List.mem_singleton_self _, rfl⟩
  outdated := not_recent flushing zero grown
  hits := ⟨seat, sits, rfl, answered, counted⟩

theorem overtaken_stale : overtaken.Stale "numbers" "reader" "show" zero := by
  refine stale_of overtaken overtaken_opened ?_ rfl rfl rfl rfl (by decide)
  exact ⟨⟨seat, statementOf "add" .update "ADD", 1, rfl, rfl, rfl, rfl, rfl⟩, ⟨_, rfl, _, rfl, rfl⟩, ⟨rfl, _, rfl, trivial⟩,
    not_pending rfl rfl rfl⟩

def recalling : Plugin (Stage Backing (Journaled (Ledger Nat))) where
  interceptor := ⟨"recall", [⟨.statementHandler, "query", ["DriverRequest"]⟩], fun _ => pure ⟨.rows, zero⟩⟩
  binding := ⟨[⟨.statementHandler, .runQuery⟩]⟩

def recallingSeat : Seat Backing (Journaled (Ledger Nat)) where
  session := journaled { journaledConfiguration with chain := ⟨[recalling]⟩ } database false

-- A session with an interceptor reads after the write, and no session has kept anything.
def recalled : Flushing (Ledger Nat) where
  start := ⟨work.stage.shared, ⟨⟨0, 0⟩, []⟩, [("late", recallingSeat), ("writer", seat), ("reader", seat)]⟩
  earlier := [shows "writer"]
  writer := "writer"
  id := "add"
  parameter := .none
  meanwhile := []
  ending := commits "writer"
  later := [shows "late", commits "late"]

theorem recalled_opened : recalled.start.Opened := by
  refine opened_of_seats _ fun entry member => ?_
  simp only [recalled, List.mem_cons, List.not_mem_nil, or_false] at member
  rcases member with rfl | rfl | rfl
  · exact ⟨rfl, _, database, false, rfl, rfl⟩
  · exact seat_idle
  · exact seat_idle

theorem recalled_stale : recalled.Stale "numbers" "reader" "show" zero := by
  refine stale_of recalled recalled_opened ?_ rfl rfl rfl rfl (by decide)
  exact ⟨⟨_, statementOf "add" .update "ADD", 1, rfl, rfl, rfl, rfl, rfl⟩, ⟨_, rfl, _, rfl, rfl⟩, ⟨rfl, _, rfl, trivial⟩,
    not_pending rfl rfl rfl⟩

theorem recalled_alone (key : Key) (rows : Rows) : ¬ recalled.Overtaken "numbers" key rows := by
  have idle {sitting : Seat Backing (Journaled (Ledger Nat))} (same : sitting.own = {}) :
      ¬ sitting.own.Holds "numbers" key rows := by
    rw [same]
    rintro (⟨_, found, _⟩ | kept)
    · exact nomatch found
    · exact nomatch kept
  rintro ⟨name, different, ⟨sitting, sits, holds⟩, _⟩
  have seats : ∃ writer, recalled.flushed.seats = [("late", recallingSeat), ("writer", writer), ("reader", seat)] :=
    ⟨_, rfl⟩
  obtain ⟨writer, seats⟩ := seats
  have member := Table.mem_of_get name sitting _ sits
  rw [seats] at member
  simp only [List.mem_cons, Prod.mk.injEq, List.not_mem_nil, or_false] at member
  rcases member with ⟨_, rfl⟩ | ⟨rfl, _⟩ | ⟨_, rfl⟩
  · exact idle rfl holds
  · exact different rfl
  · exact idle rfl holds

-- What a session held at the commit comes back with its own commit; an interceptor brings back what it likes.
theorem stale_after_commit :
    overtaken.start.Bare ∧ overtaken.Stale "numbers" "reader" "show" zero ∧
      recalled.Stale "numbers" "reader" "show" zero ∧ ∀ key, ¬ recalled.Overtaken "numbers" key zero :=
  ⟨overtaken_bare, overtaken_stale, recalled_stale, fun key => recalled_alone key zero⟩

theorem late_overtakes :
    overtaken.last.Hits "numbers" seat "show" .none .all zero ∧ ¬ overtaken.Recent zero ∧
      ∃ key, seat.session.Keys "show" .none .all key ∧ overtaken.Overtaken "numbers" key zero := by
  obtain ⟨opened, commits, _, outdated, sitting, sits, _, hits⟩ := overtaken_stale
  cases sits
  refine ⟨hits, outdated, ?_⟩
  exact (stale_rows_overtaken overtaken opened overtaken_bare "numbers" commits "reader" seat rfl "show" .none .all zero
    hits).resolve_left outdated

end Counting

end StatementMapper
