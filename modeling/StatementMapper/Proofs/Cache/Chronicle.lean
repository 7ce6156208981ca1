import StatementMapper.Proofs.Cache.Eviction
import StatementMapper.Proofs.Triple

set_option autoImplicit false

/-! A region answers with the rows written last under a key, and only if nothing has emptied it since. -/

namespace StatementMapper.Cache

open Table (assign)
open StatementMapper.Action (Answers triple_pure triple_look triple_bind triple_weaken)

inductive Event where
  | wrote (key : Key) (rows : Rows)
  | emptied (now : Nat)

namespace Event

def Ends (key : Key) : Event → Prop
  | wrote other _ => other = key
  | emptied _ => True

def after (contents : Contents) : Event → Contents
  | wrote key rows => assign contents (key, rows)
  | emptied _ => Contents.nothing

theorem after_some_iff (contents : Contents) (event : Event) (key : Key) (rows : Rows) :
    after contents event key = some rows ↔ event = wrote key rows ∨ (contents key = some rows ∧ ¬ event.Ends key) := by
  cases event with
  | emptied now => simp [after, Contents.nothing, Ends]
  | wrote other kept =>
      by_cases same : key = other
      · subst same
        simp [after, assign, Ends]
      · simp [after, assign, same, Ends, Ne.symm same]

theorem after_isSome_iff (contents : Contents) (event : Event) (key : Key) :
    (after contents event key).isSome ↔
      (∃ rows, event = wrote key rows) ∨ ((contents key).isSome ∧ ∀ now, event ≠ emptied now) := by
  cases event with
  | emptied now => simp [after, Contents.nothing]
  | wrote other kept =>
      by_cases same : key = other
      · subst same
        simp [after, assign]
      · simp [after, assign, same, Ne.symm same]

-- The rows are the last that were written under the key, and nothing was emptied since.
def Standing (events : List Event) (key : Key) (rows : Rows) : Prop :=
  ∃ earlier later, events = earlier ++ wrote key rows :: later ∧ ∀ event ∈ later, ¬ event.Ends key

def Written (events : List Event) (key : Key) : Prop :=
  ∃ earlier rows later, events = earlier ++ wrote key rows :: later ∧ ∀ now, emptied now ∉ later

def contents (events : List Event) : Contents := events.foldl after Contents.nothing

theorem standing_cons (event : Event) (rest : List Event) (key : Key) (rows : Rows) :
    Standing (event :: rest) key rows ↔
      Standing rest key rows ∨ (event = wrote key rows ∧ ∀ later ∈ rest, ¬ later.Ends key) := by
  constructor
  · rintro ⟨earlier, later, split, quiet⟩
    cases earlier with
    | nil =>
        rw [List.nil_append, List.cons.injEq] at split
        exact Or.inr ⟨split.1, split.2 ▸ quiet⟩
    | cons first earlier =>
        rw [List.cons_append, List.cons.injEq] at split
        exact Or.inl ⟨earlier, later, split.2, quiet⟩
  · rintro (⟨earlier, later, rfl, quiet⟩ | ⟨rfl, quiet⟩)
    · exact ⟨event :: earlier, later, rfl, quiet⟩
    · exact ⟨[], rest, rfl, quiet⟩

theorem written_cons (event : Event) (rest : List Event) (key : Key) :
    Written (event :: rest) key ↔
      Written rest key ∨ ((∃ rows, event = wrote key rows) ∧ ∀ now, emptied now ∉ rest) := by
  constructor
  · rintro ⟨earlier, rows, later, split, quiet⟩
    cases earlier with
    | nil =>
        rw [List.nil_append, List.cons.injEq] at split
        exact Or.inr ⟨⟨rows, split.1⟩, split.2 ▸ quiet⟩
    | cons first earlier =>
        rw [List.cons_append, List.cons.injEq] at split
        exact Or.inl ⟨earlier, rows, later, split.2, quiet⟩
  · rintro (⟨earlier, rows, later, rfl, quiet⟩ | ⟨⟨rows, rfl⟩, quiet⟩)
    · exact ⟨event :: earlier, rows, later, rfl, quiet⟩
    · exact ⟨[], rows, rest, rfl, quiet⟩

theorem foldl_some_iff (events : List Event) (below : Contents) (key : Key) (rows : Rows) :
    events.foldl after below key = some rows ↔
      Standing events key rows ∨ (below key = some rows ∧ ∀ event ∈ events, ¬ event.Ends key) := by
  induction events generalizing below with
  | nil =>
      have none_standing : ¬ Standing [] key rows := fun ⟨earlier, later, split, _⟩ =>
        List.cons_ne_nil _ _ (List.append_eq_nil_iff.mp split.symm).2
      simp [none_standing]
  | cons event rest ih =>
      rw [List.foldl_cons, ih, after_some_iff, standing_cons, List.forall_mem_cons, or_and_right,
        ← or_assoc, and_assoc]

theorem foldl_isSome_iff (events : List Event) (below : Contents) (key : Key) :
    (events.foldl after below key).isSome ↔
      Written events key ∨ ((below key).isSome ∧ ∀ now, emptied now ∉ events) := by
  induction events generalizing below with
  | nil =>
      have none_written : ¬ Written [] key := fun ⟨earlier, rows, later, split, _⟩ =>
        List.cons_ne_nil _ _ (List.append_eq_nil_iff.mp split.symm).2
      simp [none_written]
  | cons event rest ih =>
      rw [List.foldl_cons, ih, after_isSome_iff, written_cons]
      have apart : (∀ now, emptied now ∉ event :: rest) ↔ (∀ now, event ≠ emptied now) ∧ ∀ now, emptied now ∉ rest := by
        simp only [List.mem_cons, not_or, forall_and, ne_eq, eq_comm]
      rw [apart, or_and_right, ← or_assoc, and_assoc]

theorem contents_some_iff (events : List Event) (key : Key) (rows : Rows) :
    contents events key = some rows ↔ Standing events key rows := by
  rw [contents, foldl_some_iff]
  simp [Contents.nothing]

theorem contents_none_iff (events : List Event) (key : Key) : contents events key = none ↔ ¬ Written events key := by
  rw [← Option.not_isSome_iff_eq_none, contents, foldl_isSome_iff]
  simp [Contents.nothing]

theorem contents_append (events more : List Event) : contents (events ++ more) = more.foldl after (contents events) := by
  rw [contents, List.foldl_append, contents]

def lastEmptied (start : Nat) (events : List Event) : Nat :=
  events.foldl (fun last event => match event with
    | emptied now => now
    | wrote _ _ => last) start

def ofEntry (entry : Key × Rows) : Event := wrote entry.1 entry.2

theorem foldl_of_entries (entries : Table Key Rows) (below : Contents) :
    (entries.map ofEntry).foldl after below = entries.foldl assign below := by
  rw [List.foldl_map]
  rfl

theorem last_emptied_of_entries (start : Nat) (events : List Event) (entries : Table Key Rows) :
    lastEmptied start (events ++ entries.map ofEntry) = lastEmptied start events := by
  rw [lastEmptied, List.foldl_append, ← lastEmptied]
  induction entries with
  | nil => rfl
  | cons entry rest ih => exact ih

theorem last_emptied_now (start now : Nat) (events : List Event) : lastEmptied start (events ++ [emptied now]) = now := by
  rw [lastEmptied, List.foldl_append]
  rfl

end Event

namespace Lru

theorem distinct_first (key : Key) (rows : Rows) (store : Lru) (distinct : store.entries.Distinct) :
    Table.Distinct ((key, rows) :: Table.erase key store.entries) :=
  (Table.distinct_cons _ _ _).mpr ⟨(Table.get_none_iff _ _).mp (Table.get_erase_same _ _), Table.distinct_erase _ _ distinct⟩

theorem sound_put (key : Key) (rows : Rows) (store : Lru) (distinct : store.entries.Distinct) :
    (store.put key rows).entries.Distinct ∧ (store.put key rows).entries.length ≤ store.capacity :=
  ⟨List.Nodup.sublist (List.Sublist.map _ (List.take_sublist _ _)) (distinct_first key rows store distinct),
    List.length_take_le _ _⟩

theorem capacity_touch (key : Key) (store : Lru) : (store.touch key).capacity = store.capacity := by
  unfold touch
  cases store.get? key <;> rfl

theorem sound_touch (key : Key) (store : Lru) (distinct : store.entries.Distinct)
    (bounded : store.entries.length ≤ store.capacity) :
    (store.touch key).entries.Distinct ∧ (store.touch key).entries.length ≤ store.capacity := by
  unfold touch
  cases found : store.get? key with
  | none => exact ⟨distinct, bounded⟩
  | some rows =>
      refine ⟨distinct_first key rows store distinct, ?_⟩
      have present : (key, rows) ∈ store.entries := Table.mem_of_get key rows store.entries found
      have fewer : (Table.erase key store.entries).length < store.entries.length :=
        List.length_filter_lt_length_iff_exists.mpr ⟨(key, rows), present, by simp⟩
      exact Nat.le_trans fewer bounded

end Lru

namespace Backing

structure Follows (before after : Backing) : Prop where
  capacity : after.capacity? = before.capacity?
  sound : before.Sound → after.Sound

theorem Follows.trans {first middle last : Backing} (one : first.Follows middle) (other : middle.Follows last) :
    first.Follows last :=
  ⟨other.capacity.trans one.capacity, fun sound => other.sound (one.sound sound)⟩

theorem follows_get (key : Key) (backing : Backing) : backing.Follows ((Store.get key).run backing).2 := by
  cases backing with
  | perpetual store => exact ⟨rfl, id⟩
  | unreachable cause => exact ⟨rfl, id⟩
  | lru store =>
      have kept (sound : (lru store).Sound) := Lru.sound_touch key store sound.distinct (sound.bounded _ rfl)
      refine ⟨?_, fun sound => ⟨(kept sound).1, fun capacity limited => ?_⟩⟩
      · change some (store.touch key).capacity = some store.capacity
        rw [Lru.capacity_touch]
      · cases limited
        rw [Lru.capacity_touch]
        exact (kept sound).2

theorem follows_put (key : Key) (rows : Rows) (backing : Backing) :
    backing.Follows ((Store.put key rows).run backing).2 := by
  cases backing with
  | perpetual store =>
      exact ⟨rfl, fun sound => ⟨Table.distinct_put key rows store.entries sound.distinct, fun _ limited => nomatch limited⟩⟩
  | unreachable cause => exact ⟨rfl, id⟩
  | lru store =>
      refine ⟨rfl, fun sound => ?_⟩
      obtain ⟨distinct, bounded⟩ := Lru.sound_put key rows store sound.distinct
      refine ⟨distinct, fun capacity limited => ?_⟩
      cases limited
      exact bounded

theorem follows_clear (backing : Backing) : backing.Follows (Store.clear.run backing).2 := by
  cases backing with
  | perpetual store => exact ⟨rfl, fun _ => sound_emptied (perpetual store)⟩
  | unreachable cause => exact ⟨rfl, id⟩
  | lru store => exact ⟨rfl, fun _ => sound_emptied (lru store)⟩

theorem contents_entries (backing : Backing) (distinct : backing.entries.Distinct) :
    backing.entries.foldl assign Contents.nothing = backing.contents := by
  funext key
  rw [Table.foldl_assign backing.entries distinct, Contents.nothing, Option.or_none]
  cases backing <;> rfl

theorem size_entries (backing : Backing) : Store.size backing = backing.entries.length := by
  cases backing <;> rfl

end Backing

inductive Visit where
  | get (key : Key)
  | put (key : Key) (rows : Rows)
  | clear
  | apply (clearing : Bool) (entries : Table Key Rows)

def Visit.carryOut (now : Nat) : Visit → Action (Region Backing) (Option Rows)
  | .get key => Region.get now key
  | .put key rows => do
    Region.put now key rows
    pure none
  | .clear => do
    Region.clear now
    pure none
  | .apply clearing entries => do
    Region.apply now clearing entries
    pure none

namespace Region

open Event (wrote emptied lastEmptied ofEntry)

def due (origin : Region Backing) (now : Nat) (events : List Event) : Bool :=
  match origin.interval with
  | some interval => interval ≤ now - lastEmptied origin.clearedAt events
  | none => false

def checked (origin : Region Backing) (now : Nat) (events : List Event) : List Event :=
  if origin.due now events then events ++ [emptied now] else events

def record (origin : Region Backing) (events : List Event) : Nat × Visit → List Event
  | (now, .get _) => origin.checked now events
  | (now, .put key rows) => origin.checked now events ++ [wrote key rows]
  | (now, .clear) => events ++ [emptied now]
  | (now, .apply clearing entries) => (if clearing then events ++ [emptied now] else events) ++ entries.map ofEntry

-- All that has happened to a region; what it holds at first counts as written.
def history (origin : Region Backing) (visits : List (Nat × Visit)) : List Event :=
  visits.foldl origin.record (origin.store.entries.map ofEntry)

def visited (origin : Region Backing) (visits : List (Nat × Visit)) : Region Backing :=
  visits.foldl (fun region visit => ((visit.2.carryOut visit.1).run region).2) origin

-- What is so of a region after these events; each step below extends them by what it does.
structure Tells (origin : Region Backing) (events : List Event) (region : Region Backing) : Prop where
  reachable : region.store.Reachable
  follows : origin.store.Follows region.store
  interval : region.interval = origin.interval
  clearedAt : region.clearedAt = lastEmptied origin.clearedAt events
  within : region.store.contents.Within (Event.contents events)
  whole : origin.store.Permanent → region.store.Permanent ∧ region.store.contents = Event.contents events
  counted : region.hits ≤ region.requests

variable {origin : Region Backing} {events : List Event}

theorem Tells.stale {region : Region Backing} (tells : Tells origin events region) (now : Nat) :
    region.isStale now = origin.due now events := by
  unfold isStale due
  rw [tells.interval]
  cases origin.interval with
  | none => rfl
  | some interval => simp only [tells.clearedAt]

theorem clear_tells (now : Nat) :
    Answers (Tells origin events) (clear now) fun _ => Tells origin (events ++ [emptied now]) := by
  intro region tells
  obtain ⟨store, ran, reached, empty, permanent⟩ := Backing.run_clear region.store tells.reachable
  have follows := Backing.follows_clear region.store
  have gone : Event.contents (events ++ [emptied now]) = Contents.nothing := Event.contents_append events [emptied now]
  rw [ran] at follows
  rw [clear, Action.run_bind_ok (run_inStore ran), Action.run_change]
  exact {
    reachable := reached
    follows := tells.follows.trans follows
    interval := tells.interval
    clearedAt := (Event.last_emptied_now _ _ _).symm
    within := by
      rw [gone, empty]
      exact Contents.within_refl _
    whole := fun lasts => ⟨permanent (tells.whole lasts).1, by rw [gone, empty]⟩
    counted := tells.counted }

theorem check_tells (now : Nat) :
    Answers (Tells origin events) (clearWhenStale now) fun _ => Tells origin (origin.checked now events) := by
  refine triple_bind (fun stale region => Tells origin events region ∧ stale = origin.due now events) ?_ ?_
  · exact triple_look fun region tells => ⟨tells, tells.stale now⟩
  · intro stale
    unfold checked
    cases origin.due now events with
    | false =>
        rintro region ⟨tells, rfl⟩
        exact tells
    | true =>
        rintro region ⟨tells, rfl⟩
        exact clear_tells now region tells

theorem write_tells (key : Key) (rows : Rows) :
    Answers (Tells origin events) (inStore (Store.put key rows)) fun _ => Tells origin (events ++ [wrote key rows]) := by
  intro region tells
  obtain ⟨store, ran, reached, within, exactly⟩ := Backing.run_put key rows region.store tells.reachable
  have follows := Backing.follows_put key rows region.store
  have written : Event.contents (events ++ [wrote key rows]) = assign (Event.contents events) (key, rows) :=
    Event.contents_append events [wrote key rows]
  rw [ran] at follows
  rw [run_inStore ran]
  exact {
    reachable := reached
    follows := tells.follows.trans follows
    interval := tells.interval
    clearedAt := tells.clearedAt.trans (Event.last_emptied_of_entries _ events [(key, rows)]).symm
    within := by
      rw [written]
      exact Contents.within_trans within (Contents.assign_within tells.within (key, rows))
    whole := fun lasts => by
      obtain ⟨permanent, same⟩ := tells.whole lasts
      obtain ⟨still, stored⟩ := exactly permanent
      exact ⟨still, by rw [written, ← same, stored]⟩
    counted := tells.counted }

theorem put_all_tells (entries : Table Key Rows) :
    Answers (Tells origin events) (putAll entries) fun _ => Tells origin (events ++ entries.map ofEntry) := by
  induction entries generalizing events with
  | nil =>
      rw [List.map_nil, List.append_nil]
      exact triple_pure fun region tells => tells
  | cons entry rest ih =>
      have goes := @ih (events ++ [ofEntry entry])
      rw [List.append_assoc, List.singleton_append, ← List.map_cons] at goes
      exact triple_bind (fun _ => Tells origin (events ++ [ofEntry entry])) (write_tells entry.1 entry.2) fun _ => goes

theorem get_tells (now : Nat) (key : Key) :
    Answers (Tells origin events) (get now key) fun found region =>
      Tells origin (origin.checked now events) region ∧ found = region.store.contents key := by
  refine triple_bind (fun _ => Tells origin (origin.checked now events)) (check_tells now) fun _ => ?_
  intro region tells
  obtain ⟨store, ran, reached, same, permanent⟩ := Backing.run_get key region.store tells.reachable
  have follows := Backing.follows_get key region.store
  rw [ran] at follows
  have looked : (inStore (Store.get key)).run { region with requests := region.requests + 1 } =
      (.ok (region.store.contents key), { region with requests := region.requests + 1, store := store }) :=
    run_inStore ran
  have told (requests hits : Nat) (counted : hits ≤ requests) :
      Tells origin (origin.checked now events) { region with requests, hits, store } := {
    reachable := reached
    follows := tells.follows.trans follows
    interval := tells.interval
    clearedAt := tells.clearedAt
    within := by
      rw [same]
      exact tells.within
    whole := fun lasts => ⟨permanent (tells.whole lasts).1, same.trans (tells.whole lasts).2⟩
    counted := counted }
  rw [Action.run_bind_ok (Action.run_change _ _), Action.run_bind_ok looked, ← same]
  cases answer : store.contents key with
  | none => exact ⟨told _ _ (Nat.le_succ_of_le tells.counted), answer.symm⟩
  | some rows => exact ⟨told _ _ (Nat.succ_le_succ tells.counted), answer.symm⟩

theorem visit_tells (now : Nat) (visit : Visit) :
    Answers (Tells origin events) (visit.carryOut now) fun _ => Tells origin (origin.record events (now, visit)) := by
  have silently {after : List Event} {action : Action (Region Backing) Unit}
      (answers : Answers (Tells origin events) action fun _ => Tells origin after) :
      Answers (Tells origin events) (action >>= fun _ => pure none) fun (_ : Option Rows) => Tells origin after :=
    triple_bind _ answers fun _ => triple_pure fun _ tells => tells
  cases visit with
  | get key => exact triple_weaken (get_tells now key) (fun _ tells => tells) (fun _ _ told => told.1) fun _ never => never
  | put key rows => exact silently (triple_bind _ (check_tells now) fun _ => write_tells key rows)
  | clear => exact silently (clear_tells now)
  | apply clearing entries =>
      apply silently
      cases clearing with
      | false => exact put_all_tells entries
      | true => exact triple_bind _ (clear_tells now) fun _ => put_all_tells entries

-- A region as it may be at the beginning: in reach, used through its own operations alone.
structure Fair (region : Region Backing) : Prop where
  reachable : region.store.Reachable
  sound : region.store.Sound
  counted : region.hits ≤ region.requests

theorem tells_at_first (fair : origin.Fair) : Tells origin (origin.store.entries.map ofEntry) origin := by
  have same : Event.contents (origin.store.entries.map ofEntry) = origin.store.contents :=
    (Event.foldl_of_entries _ _).trans (Backing.contents_entries origin.store fair.sound.distinct)
  exact {
    reachable := fair.reachable
    follows := ⟨rfl, fun sound => sound⟩
    interval := rfl
    clearedAt := (Event.last_emptied_of_entries _ [] _).symm
    within := by
      rw [same]
      exact Contents.within_refl _
    whole := fun lasts => ⟨lasts, same.symm⟩
    counted := fair.counted }

theorem tells_visited (visits : List (Nat × Visit)) {region : Region Backing} (tells : Tells origin events region) :
    Tells origin (visits.foldl origin.record events) (region.visited visits) := by
  induction visits generalizing events region with
  | nil => exact tells
  | cons visit rest ih =>
      obtain ⟨found, after, ran, told⟩ := (visit_tells visit.1 visit.2).run tells
      rw [visited, List.foldl_cons, List.foldl_cons, ran]
      exact ih told

structure Faithful (origin : Region Backing) (visits : List (Nat × Visit)) : Prop where
  answers : ∀ now visit, ∃ found after, (Visit.carryOut now visit).run (origin.visited visits) = (.ok found, after)
  fresh : ∀ now key rows after, (get now key).run (origin.visited visits) = (.ok (some rows), after) →
    Event.Standing (origin.history (visits ++ [(now, .get key)])) key rows
  bounded : ∀ capacity, origin.store.capacity? = some capacity → (origin.visited visits).size ≤ capacity
  complete : origin.store.Permanent → ∀ now key after, (get now key).run (origin.visited visits) = (.ok none, after) →
    ¬ Event.Written (origin.history (visits ++ [(now, .get key)])) key
  counted : (origin.visited visits).hits ≤ (origin.visited visits).requests

theorem visits_faithful (origin : Region Backing) (fair : origin.Fair) (visits : List (Nat × Visit)) :
    origin.Faithful visits := by
  have tells : Tells origin (origin.history visits) (origin.visited visits) := tells_visited visits (tells_at_first fair)
  have next (now : Nat) (key : Key) : origin.history (visits ++ [(now, .get key)]) =
      origin.checked now (origin.history visits) := by
    rw [history, List.foldl_append]
    rfl
  have read (now : Nat) (key : Key) (found : Option Rows) (after : Region Backing)
      (ran : (get now key).run (origin.visited visits) = (.ok found, after)) :
      Tells origin (origin.history (visits ++ [(now, .get key)])) after ∧ found = after.store.contents key := by
    have told := get_tells now key (origin.visited visits) tells
    rw [ran, ← next now key] at told
    exact told
  exact {
    answers := fun now visit => by
      obtain ⟨found, after, ran, _⟩ := (visit_tells now visit).run tells
      exact ⟨found, after, ran⟩
    fresh := fun now key rows after ran => by
      obtain ⟨told, found⟩ := read now key _ after ran
      exact (Event.contents_some_iff _ key rows).mp (told.within key rows found.symm)
    bounded := fun capacity limited => by
      have room := (tells.follows.sound fair.sound).bounded capacity (tells.follows.capacity.trans limited)
      rw [size, Backing.size_entries]
      exact room
    complete := fun lasts now key after ran => by
      obtain ⟨told, found⟩ := read now key _ after ran
      rw [← Event.contents_none_iff, ← (told.whole lasts).2]
      exact found.symm
    counted := tells.counted }

end Region

namespace Lapsing

open Crowded (entryOf)

def region : Region Backing := { id := "users", interval := some 100, store := .lru ⟨1, [], Nat.zero_lt_one⟩ }

def visits : List (Nat × Visit) :=
  [(10, .put (entryOf 1 10).1 (entryOf 1 10).2), (20, .apply true [entryOf 1 11, entryOf 2 20]), (50, .get (entryOf 1 10).1)]

def last : Key × Rows := entryOf 2 20

theorem region_fair : region.Fair := ⟨trivial, Backing.sound_emptied region.store, Nat.le_refl 0⟩

theorem found_until_it_lapses : region.Fair ∧ region.Faithful visits ∧
    Event.Standing (region.history (visits ++ [(119, .get last.1)])) last.1 last.2 ∧
    ((Region.get 120 last.1).run (region.visited visits)).1 = .ok none := by
  have faithful := Region.visits_faithful region region_fair visits
  exact ⟨region_fair, faithful, faithful.fresh 119 last.1 last.2 _ rfl, rfl⟩

end Lapsing

end StatementMapper.Cache
