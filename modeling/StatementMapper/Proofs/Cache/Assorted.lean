import StatementMapper.Proofs.Cache.Attempts
import StatementMapper.Proofs.Cache.Publication

set_option autoImplicit false

/-! Whatever order a commit visits the buffers in, it attempts all of them and fails with the first refusal. -/

namespace StatementMapper.Cache

-- A store that keeps everything, or one of which nothing is known: it may refuse what it likes.
inductive Assorted (U : Type) where
  | perpetual (store : Perpetual)
  | foreign (store : U)

namespace Assorted

variable {U A : Type} [Store U]

def use (action : (T : Type) → [Store T] → Action T A) : Action (Assorted U) A := fun store =>
  match store with
  | perpetual store =>
    match action Perpetual store with
    | (outcome, after) => (outcome, perpetual after)
  | foreign store =>
    match action U store with
    | (outcome, after) => (outcome, foreign after)

instance : Store (Assorted U) where
  get key := use fun _ => Store.get key
  put key rows := use fun _ => Store.put key rows
  remove key := use fun _ => Store.remove key
  clear := use fun _ => Store.clear
  size
    | perpetual store => Store.size store
    | foreign store => Store.size store

end Assorted

variable {U : Type} [Store U]

def Region.Working (region : Region (Assorted U)) (store : Perpetual) : Prop := region.store = .perpetual store

theorem Region.run_put_all_working (entries : Table Key Rows) (region : Region (Assorted U)) (store : Perpetual)
    (working : region.Working store) :
    (putAll entries).run region = (.ok (), { region with store := .perpetual (store.putAll entries) }) := by
  induction entries generalizing region store with
  | nil =>
      rcases region with ⟨id, interval, kept, requests, hits, clearedAt⟩
      cases working
      rfl
  | cons entry rest ih =>
      have wrote : (inStore (Store.put entry.1 entry.2)).run region =
          (.ok (), { region with store := .perpetual (store.put entry.1 entry.2) }) := by
        apply run_inStore
        rw [working]
        rfl
      exact (Action.run_bind_ok wrote).trans (ih _ (store.put entry.1 entry.2) rfl)

theorem Region.run_clear_working (now : Nat) (region : Region (Assorted U)) (store : Perpetual)
    (working : region.Working store) :
    (clear now).run region = (.ok (), { region with store := .perpetual {}, clearedAt := now }) := by
  have emptied : (inStore Store.clear).run region = (.ok (), { region with store := .perpetual {} }) := by
    apply run_inStore
    rw [working]
    rfl
  rw [clear, Action.run_bind_ok emptied, Action.run_change]

theorem Buffer.run_publish_working (buffer : Buffer) (now : Nat) (region : Region (Assorted U)) (store : Perpetual)
    (working : region.Working store) :
    ∃ after kept, (buffer.publish now).run region = (.ok (), after) ∧ after.Working kept ∧
      kept.contents = buffer.overlay store.contents := by
  rcases buffer with ⟨clearing, entries⟩
  cases clearing with
  | false =>
      exact ⟨_, store.putAll entries, Region.run_put_all_working entries region store working, rfl,
        Perpetual.contents_put_all entries store⟩
  | true =>
      have cleared := Region.run_clear_working now region store working
      exact ⟨_, Perpetual.putAll entries {}, (Action.run_bind_ok cleared).trans (Region.run_put_all_working entries _ {} rfl),
        rfl, Perpetual.contents_put_all entries {}⟩

theorem Shared.receive_working (now : Nat) (buffer : Buffer) (region : Region (Assorted U)) (store : Perpetual)
    (working : region.Working store) :
    ∃ kept, (receive now buffer region).Working kept ∧ kept.contents = buffer.overlay store.contents := by
  obtain ⟨after, kept, ran, still, overlaid⟩ := buffer.run_publish_working now region store working
  refine ⟨kept, ?_, overlaid⟩
  rw [receive, ran]
  exact still

namespace Staging

structure Spares (staging : Staging (Assorted U)) (order : Buffers) (outcome : Except Fault Unit)
    (after : Staging (Assorted U)) : Prop where
  fails_iff : (∃ cause, outcome = .error cause) ↔
    ∃ entry ∈ staging.buffers, ∃ cause, staging.shared.refusal entry = some cause
  first : ∀ cause, outcome = .error cause → ∃ earlier entry later, order = earlier ++ entry :: later ∧
    staging.shared.refusal entry = some cause ∧ ∀ before ∈ earlier, staging.shared.refusal before = none
  emptied : ∀ id, after.buffer id = {}
  overlaid : ∀ id region store, Table.get? id staging.shared.regions = some region → region.Working store →
    ∃ last kept, Table.get? id after.shared.regions = some last ∧ last.Working kept ∧
      kept.contents = overlayOf staging.buffers id store.contents
  unordered : ∀ id, Table.get? id after.shared.regions = Table.get? id (commit.run staging).2.shared.regions

theorem outcome_error_iff (refusal : Option Fault) (cause : Fault) :
    Shared.outcomeOf refusal = .error cause ↔ refusal = some cause := by
  cases refusal with
  | none => exact ⟨nofun, nofun⟩
  | some fault => rw [Shared.outcomeOf, Except.error.injEq, Option.some.injEq]

theorem commit_spares_others (staging : Staging (Assorted U)) (distinct : staging.buffers.Distinct) (order : Buffers)
    (visits : order.Perm staging.buffers) :
    ∃ outcome after, commit.run { staging with buffers := order } = (outcome, after) ∧ Spares staging order outcome after := by
  have ordered : Table.Distinct order := (Table.distinct_perm visits).mpr distinct
  have same (id : String) : Table.get? id order = Table.get? id staging.buffers := Table.get_perm visits ordered id
  obtain ⟨shared, ran, regions⟩ := run_commit_each { staging with buffers := order } ordered
  obtain ⟨usual, usually, expected⟩ := run_commit_each staging distinct
  refine ⟨_, _, ran, ?_, ?_, ?_, ?_, ?_⟩
  · simp only [outcome_error_iff]
    constructor
    · rintro ⟨cause, found⟩
      obtain ⟨entry, member, refused⟩ := List.exists_of_findSome?_eq_some found
      exact ⟨entry, visits.mem_iff.mp member, cause, refused⟩
    · rintro ⟨entry, member, cause, refused⟩
      rw [← Option.isSome_iff_exists, List.findSome?_isSome_iff]
      exact ⟨entry, visits.mem_iff.mpr member, Option.isSome_iff_exists.mpr ⟨cause, refused⟩⟩
  · intro cause failed
    rw [outcome_error_iff, List.findSome?_eq_some_iff] at failed
    exact failed
  · intro id
    rw [buffer, get_emptied]
    cases Table.get? id order <;> rfl
  · intro id region store found working
    obtain ⟨kept, still, overlaid⟩ :=
      Shared.receive_working staging.shared.now ((Table.get? id staging.buffers).getD {}) region store working
    refine ⟨_, kept, ?_, still, overlaid⟩
    rw [regions id, found, Option.map_some, same id]
  · intro id
    rw [usually, regions id, expected id, same id]

end Staging

namespace Spared

def offline (name : String) : Fault := .execution (.reported name)

def regionOf (id : String) (store : Assorted Backing) : Region (Assorted Backing) := { id, interval := none, store }

def rowsOf (number : Int64) : Key × Rows := (⟨[.integer number]⟩, ⟨["v"], [[.integer number]]⟩)

def session : Staging (Assorted Backing) where
  buffers := [("logs", ⟨false, [rowsOf 1]⟩), ("users", ⟨true, [rowsOf 2]⟩), ("orders", ⟨false, [rowsOf 3]⟩)]
  shared := ⟨[("logs", regionOf "logs" (.foreign (.unreachable (offline "logs")))),
    ("users", regionOf "users" (.perpetual ⟨[rowsOf 1]⟩)),
    ("orders", regionOf "orders" (.foreign (.unreachable (offline "orders"))))], 0⟩

theorem users_spared : session.buffers.Distinct ∧ session.buffers.reverse.Perm session.buffers ∧ ∃ after,
    Staging.commit.run { session with buffers := session.buffers.reverse } = (.error (offline "orders"), after) ∧
      Staging.Spares session session.buffers.reverse (.error (offline "orders")) after ∧
      ∃ last kept, Table.get? "users" after.shared.regions = some last ∧ last.Working kept ∧
        kept.contents (rowsOf 1).1 = none ∧ kept.contents (rowsOf 2).1 = some (rowsOf 2).2 := by
  have distinct : session.buffers.Distinct := by
    unfold Table.Distinct
    decide
  have visits := List.reverse_perm session.buffers
  obtain ⟨outcome, after, ran, spares⟩ := Staging.commit_spares_others session distinct session.buffers.reverse visits
  have refused : outcome = .error (offline "orders") := (congrArg Prod.fst ran).symm
  subst refused
  obtain ⟨last, kept, found, working, overlaid⟩ := spares.overlaid "users" _ ⟨[rowsOf 1]⟩ rfl rfl
  refine ⟨distinct, visits, after, ran, spares, last, kept, found, working, ?_, ?_⟩
  · rw [overlaid]
    rfl
  · rw [overlaid]
    rfl

end Spared

end StatementMapper.Cache
