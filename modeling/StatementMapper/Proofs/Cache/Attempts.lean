import StatementMapper.Cache.Backing
import StatementMapper.Cache.Buffer
import StatementMapper.Proofs.Table
import StatementMapper.Proofs.Triple

set_option autoImplicit false

/-! Every buffer is published to its own region; a commit that fails has given up what was pending. -/

namespace StatementMapper.Cache

variable {T : Type} [Store T]

-- How writing entries ends when it fails: those before the refused one are written, those behind it are not tried.
theorem Region.run_put_all_failed (entries : List (Key × Rows)) (region after : Region T) (cause : Fault)
    (ran : (putAll entries).run region = (.error cause, after)) :
    ∃ written key rows left middle, entries = written ++ (key, rows) :: left ∧
      (putAll written).run region = (.ok (), middle) ∧
      (inStore (Store.put key rows)).run middle = (.error cause, after) := by
  induction entries generalizing region with
  | nil => exact nomatch ran
  | cons entry rest ih =>
      rcases entry with ⟨key, rows⟩
      rcases wrote : (inStore (Store.put key rows)).run region with ⟨outcome, middle⟩
      cases outcome with
      | error fault =>
          have same := (Action.run_bind_error wrote).symm.trans ran
          exact ⟨[], key, rows, rest, region, rfl, rfl, wrote.trans same⟩
      | ok done =>
          have later : (putAll rest).run middle = (.error cause, after) := (Action.run_bind_ok wrote).symm.trans ran
          obtain ⟨written, last, refused, left, reached, split, began, ended⟩ := ih middle later
          refine ⟨(key, rows) :: written, last, refused, left, reached, ?_, ?_, ended⟩
          · rw [split, List.cons_append]
          · exact (Action.run_bind_ok wrote).trans began

namespace Buffer

inductive Stopped (now : Nat) (buffer : Buffer) (region : Region T) (cause : Fault) (after : Region T) : Prop where
  | clearing (pending : buffer.clearing = true) (refused : (Region.clear now).run region = (.error cause, after))
  | writing (written left : Table Key Rows) (key : Key) (rows : Rows) (middle : Region T)
      (split : buffer.entries = written ++ (key, rows) :: left)
      (began : (Region.apply now buffer.clearing written).run region = (.ok (), middle))
      (refused : (Region.inStore (Store.put key rows)).run middle = (.error cause, after))

theorem publish_empty (now : Nat) (region : Region T) : (({} : Buffer).publish now).run region = (.ok (), region) := rfl

theorem stopped_of_failed (now : Nat) (buffer : Buffer) (region after : Region T) (cause : Fault)
    (ran : (buffer.publish now).run region = (.error cause, after)) : buffer.Stopped now region cause after := by
  rcases buffer with ⟨clearing, entries⟩
  cases clearing with
  | false =>
      obtain ⟨written, key, rows, left, middle, split, began, refused⟩ := Region.run_put_all_failed entries region after cause ran
      exact .writing written left key rows middle split began refused
  | true =>
      rcases cleared : (Region.clear now).run region with ⟨outcome, middle⟩
      cases outcome with
      | error fault =>
          have same := (Action.run_bind_error cleared).symm.trans ran
          exact .clearing rfl (cleared.trans same)
      | ok done =>
          have later : (Region.putAll entries).run middle = (.error cause, after) :=
            (Action.run_bind_ok cleared).symm.trans ran
          obtain ⟨written, key, rows, left, reached, split, began, refused⟩ :=
            Region.run_put_all_failed entries middle after cause later
          exact .writing written left key rows reached split ((Action.run_bind_ok cleared).trans began) refused

theorem Stopped.pending {now : Nat} {buffer : Buffer} {region after : Region T} {cause : Fault}
    (stopped : buffer.Stopped now region cause after) : buffer ≠ {} := by
  rintro rfl
  cases stopped with
  | clearing pending => exact nomatch pending
  | writing written left key rows middle split => exact List.cons_ne_nil _ _ (List.append_eq_nil_iff.mp split.symm).2

end Buffer

namespace Shared

def refusal (shared : Shared T) (entry : String × Buffer) : Option Fault :=
  match Table.get? entry.1 shared.regions with
  | none => none
  | some region =>
    match ((entry.2.publish shared.now).run region).1 with
    | .ok _ => none
    | .error cause => some cause

def receive (now : Nat) (buffer : Buffer) (region : Region T) : Region T := ((buffer.publish now).run region).2

structure Received (id : String) (buffer : Buffer) (shared after : Shared T) : Prop where
  now : after.now = shared.now
  here : Table.get? id after.regions = (Table.get? id shared.regions).map (receive shared.now buffer)
  elsewhere : ∀ other, other ≠ id → Table.get? other after.regions = Table.get? other shared.regions

def outcomeOf : Option Fault → Except Fault Unit
  | none => .ok ()
  | some cause => .error cause

theorem run_publish_one (id : String) (buffer : Buffer) (shared : Shared T) :
    ∃ after, (inRegion id () buffer.publish).run shared = (outcomeOf (shared.refusal (id, buffer)), after) ∧
      Received id buffer shared after := by
  cases found : Table.get? id shared.regions with
  | none =>
      refine ⟨shared, ?_, rfl, ?_, fun _ _ => rfl⟩
      · simp only [inRegion, Action.run, refusal, found, outcomeOf]
      · rw [found, Option.map_none]
  | some region =>
      refine ⟨{ shared with regions := Table.put id (receive shared.now buffer region) shared.regions }, ?_, rfl, ?_,
        fun other different => Table.get_put_other different _ _⟩
      · unfold inRegion Action.run refusal
        rcases ran : (buffer.publish shared.now).run region with ⟨outcome, after⟩
        have published : buffer.publish shared.now region = (outcome, after) := ran
        simp only [found, published, ran, receive]
        cases outcome <;> rfl
      · rw [Table.get_put_same, found, Option.map_some]

theorem refusal_elsewhere {id : String} {buffer : Buffer} {shared after : Shared T}
    (received : Received id buffer shared after) (entry : String × Buffer) (different : entry.1 ≠ id) :
    after.refusal entry = shared.refusal entry := by
  unfold refusal
  rw [received.elsewhere entry.1 different, received.now]

end Shared

namespace Staging

theorem find_refusal_elsewhere {id : String} {buffer : Buffer} {shared after : Shared T}
    (received : Shared.Received id buffer shared after) (rest : Buffers) (fresh : id ∉ Table.keys rest) :
    rest.findSome? after.refusal = rest.findSome? shared.refusal := by
  induction rest with
  | nil => rfl
  | cons entry rest ih =>
      have different : entry.1 ≠ id := fun same => fresh (same ▸ List.mem_cons_self)
      have others := ih fun member => fresh (List.mem_cons_of_mem _ member)
      rw [List.findSome?_cons, List.findSome?_cons, Shared.refusal_elsewhere received entry different, others]

-- Every buffer is published to its own region, whatever happens to the others; the first refusal is the outcome.
theorem run_publish_each (buffers : Buffers) (distinct : buffers.Distinct) (shared : Shared T) :
    ∃ after, (publishAll buffers).run shared = (Shared.outcomeOf (buffers.findSome? shared.refusal), after) ∧
      after.now = shared.now ∧ ∀ id, Table.get? id after.regions =
        (Table.get? id shared.regions).map (Shared.receive shared.now ((Table.get? id buffers).getD {})) := by
  induction buffers generalizing shared with
  | nil =>
      refine ⟨shared, rfl, rfl, fun id => ?_⟩
      have same : Shared.receive shared.now ((Table.get? id ([] : Buffers)).getD {}) = fun region : Region T => region := rfl
      rw [same, Option.map_id']
  | cons entry rest ih =>
      rcases entry with ⟨id, buffer⟩
      obtain ⟨fresh, below⟩ := (Table.distinct_cons _ _ _).mp distinct
      obtain ⟨middle, first, received⟩ := Shared.run_publish_one id buffer shared
      obtain ⟨after, others, later, regions⟩ := ih below middle
      refine ⟨after, ?_, later.trans received.now, fun other => ?_⟩
      · rw [publishAll, Action.run_bind_ok (Action.run_attempt_of first), Action.run_bind_ok (Action.run_attempt_of others),
          Action.run_of_except, find_refusal_elsewhere received rest fresh, List.findSome?_cons]
        cases shared.refusal (id, buffer) <;> rfl
      · rw [regions other, received.now]
        by_cases same : other = id
        · have absent : Table.get? id rest = none := (Table.get_none_iff _ _).mpr fresh
          rw [same, received.here, absent, Option.map_map, Table.get?, if_pos rfl]
          rfl
        · rw [received.elsewhere other same, Table.get?, if_neg same]

theorem run_commit_each (staging : Staging T) (distinct : staging.buffers.Distinct) :
    ∃ after, commit.run staging =
        (Shared.outcomeOf (staging.buffers.findSome? staging.shared.refusal), ⟨emptied staging.buffers, after⟩) ∧
      ∀ id, Table.get? id after.regions = (Table.get? id staging.shared.regions).map
        (Shared.receive staging.shared.now ((Table.get? id staging.buffers).getD {})) := by
  obtain ⟨after, ran, _, regions⟩ := run_publish_each staging.buffers distinct staging.shared
  refine ⟨after, ?_, regions⟩
  rw [commit, Action.run_bind_ok (Action.run_look _ _), Action.run_bind_ok (Action.run_change _ _), inShared,
    Action.run_within]
  simp only [ran]

theorem emptied_emptied (buffers : Buffers) : emptied (emptied buffers) = emptied buffers := by
  simp only [emptied, List.map_map, Function.comp_def]

theorem run_publish_emptied (buffers : Buffers) (shared : Shared T) :
    (publishAll (emptied buffers)).run shared = (.ok (), shared) := by
  induction buffers with
  | nil => rfl
  | cons entry rest ih =>
      have idle : (Shared.inRegion entry.1 () (({} : Buffer).publish)).run shared = (.ok (), shared) := by
        unfold Shared.inRegion Action.run
        cases found : Table.get? entry.1 shared.regions with
        | none => simp only [found]
        | some region =>
            have alone : ({} : Buffer).publish shared.now region = (.ok (), region) := Buffer.publish_empty shared.now region
            simp only [found, alone, Table.put_self entry.1 region shared.regions found]
      change (publishAll ((entry.1, {}) :: emptied rest)).run shared = _
      rw [publishAll, Action.run_bind_ok (Action.run_attempt_of idle), Action.run_bind_ok (Action.run_attempt_of ih)]
      rfl

theorem run_commit_emptied (buffers : Buffers) (shared : Shared T) :
    commit.run ⟨emptied buffers, shared⟩ = (.ok (), ⟨emptied buffers, shared⟩) := by
  rw [commit, Action.run_bind_ok (Action.run_look _ _), Action.run_bind_ok (Action.run_change _ _), inShared,
    Action.run_within]
  simp only [run_publish_emptied, emptied_emptied]

theorem failed_commit_forgets (staging : Staging T) (distinct : staging.buffers.Distinct) (id : String) (buffer : Buffer)
    (region after : Region T) (cause : Fault) (held : Table.get? id staging.buffers = some buffer)
    (found : Table.get? id staging.shared.regions = some region)
    (failed : (buffer.publish staging.shared.now).run region = (.error cause, after)) :
    buffer.Stopped staging.shared.now region cause after ∧ buffer ≠ {} ∧
      ∃ fault last, commit.run staging = (.error fault, last) ∧ (staging.buffers = [(id, buffer)] → fault = cause) ∧
        Table.get? id last.buffers = some {} ∧ Table.get? id last.shared.regions = some after ∧
        commit.run last = (.ok (), last) := by
  have stopped := Buffer.stopped_of_failed staging.shared.now buffer region after cause failed
  have refused : staging.shared.refusal (id, buffer) = some cause := by
    simp only [Shared.refusal, found, failed]
  obtain ⟨shared, ran, regions⟩ := run_commit_each staging distinct
  have first : ∃ fault, staging.buffers.findSome? staging.shared.refusal = some fault := by
    cases none_refused : staging.buffers.findSome? staging.shared.refusal with
    | some fault => exact ⟨fault, rfl⟩
    | none =>
        have silent := List.findSome?_eq_none_iff.mp none_refused (id, buffer) (Table.mem_of_get id buffer _ held)
        cases silent.symm.trans refused
  obtain ⟨fault, first⟩ := first
  rw [first] at ran
  refine ⟨stopped, stopped.pending, fault, _, ran, ?_, ?_, ?_, run_commit_emptied _ _⟩
  · intro alone
    rw [alone, List.findSome?_cons, refused, Option.some.injEq] at first
    exact first.symm
  · have here := Table.get_map_values (fun _ : Buffer => ({} : Buffer)) id staging.buffers
    rw [held] at here
    exact here
  · rw [regions id, held, found, Option.map_some, Option.getD_some, Shared.receive, failed]

end Staging

namespace Offline

def cause : Fault := .execution (.reported "store offline")

def region : Region Backing := { id := "users", interval := none, store := .unreachable cause }

def staged : Buffer := ⟨true, [(⟨[.integer 1]⟩, ⟨["v"], [[.integer 1]]⟩)]⟩

def session : Staging Backing := ⟨[("users", staged)], ⟨[("users", region)], 5⟩⟩

-- The store takes the clear and refuses the rows; another commit has nothing of them and says that it succeeds.
theorem refused_forgotten : session.buffers.Distinct ∧ staged ≠ {} ∧ ∃ last,
    Staging.commit.run session = (.error cause, last) ∧ Table.get? "users" last.buffers = some {} ∧
      Table.get? "users" last.shared.regions = some { region with clearedAt := 5 } ∧
      Staging.commit.run last = (.ok (), last) := by
  have distinct : session.buffers.Distinct :=
    (Table.distinct_cons _ _ _).mpr ⟨List.not_mem_nil, Table.distinct_nil⟩
  obtain ⟨_, pending, fault, last, ran, same, forgotten, reached, again⟩ :=
    Staging.failed_commit_forgets session distinct "users" staged region { region with clearedAt := 5 } cause rfl rfl rfl
  rw [same rfl] at ran
  exact ⟨distinct, pending, last, ran, forgotten, reached, again⟩

end Offline

end StatementMapper.Cache
