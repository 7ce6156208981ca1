import StatementMapper.Cache.Buffer
import StatementMapper.Proofs.Cache.Contents

set_option autoImplicit false

namespace StatementMapper.Cache

open Table (assign)

namespace Region

def Lasting (region : Region Backing) : Prop := region.interval = none ∧ region.store.Permanent

theorem run_inStore {T A : Type} [Store T] {action : Action T A} {region : Region T} {outcome : Except Fault A}
    {after : T} (ran : action.run region.store = (outcome, after)) :
    (inStore action).run region = (outcome, { region with store := after }) := by
  simp only [inStore, Action.run_within, ran]

theorem run_clear (now : Nat) (region : Region Backing) (reachable : region.store.Reachable) :
    ∃ after, (clear now).run region = (.ok (), after) ∧ after.store.Reachable ∧
      after.store.contents = Contents.nothing ∧ (region.Lasting → after.Lasting) := by
  obtain ⟨store, ran, reached, empty, permanent⟩ := Backing.run_clear region.store reachable
  refine ⟨{ region with store := store, clearedAt := now }, ?_, reached, empty,
    fun lasting => ⟨lasting.1, permanent lasting.2⟩⟩
  rw [clear, Action.run_bind_ok (run_inStore ran), Action.run_change]

theorem run_clear_when_stale (now : Nat) (region : Region Backing) (reachable : region.store.Reachable) :
    ∃ after, (clearWhenStale now).run region = (.ok (), after) ∧ after.store.Reachable ∧
      after.store.contents.Within region.store.contents ∧ (region.Lasting → after = region) := by
  rw [clearWhenStale, Action.run_bind_ok (Action.run_look _ _)]
  cases stale : region.isStale now with
  | false => exact ⟨region, rfl, reachable, Contents.within_refl _, fun _ => rfl⟩
  | true =>
      obtain ⟨after, ran, reached, empty, _⟩ := run_clear now region reachable
      refine ⟨after, ran, reached, ?_, ?_⟩
      · rw [empty]
        exact Contents.nothing_within _
      · intro lasting
        simp [isStale, lasting.1] at stale

theorem run_get (now : Nat) (key : Key) (region : Region Backing) (reachable : region.store.Reachable) :
    ∃ after, (get now key).run region = (.ok (after.store.contents key), after) ∧ after.store.Reachable ∧
      after.store.contents.Within region.store.contents ∧
      (region.Lasting → after.Lasting ∧ after.store.contents = region.store.contents) := by
  obtain ⟨fresh, cleared, freshReachable, within, unchanged⟩ := run_clear_when_stale now region reachable
  obtain ⟨store, found, reached, same, permanent⟩ := Backing.run_get key fresh.store freshReachable
  have counted : (inStore (Store.get key)).run { fresh with requests := fresh.requests + 1 } =
      (.ok (fresh.store.contents key), { fresh with requests := fresh.requests + 1, store := store }) :=
    run_inStore found
  rw [get, Action.run_bind_ok cleared, Action.run_bind_ok (Action.run_change _ _), Action.run_bind_ok counted, ← same]
  have lasts (lasting : region.Lasting) : fresh.interval = none ∧ store.Permanent ∧
      store.contents = region.store.contents := by
    rw [unchanged lasting] at same permanent ⊢
    exact ⟨lasting.1, permanent lasting.2, same⟩
  cases answer : store.contents key with
  | none =>
      refine ⟨{ fresh with requests := fresh.requests + 1, store := store }, ?_, reached, ?_, ?_⟩
      · simp only [answer]
        rfl
      · simpa only [same] using within
      · exact fun lasting => ⟨⟨(lasts lasting).1, (lasts lasting).2.1⟩, (lasts lasting).2.2⟩
  | some rows =>
      refine ⟨{ fresh with requests := fresh.requests + 1, store := store, hits := fresh.hits + 1 }, ?_, reached, ?_, ?_⟩
      · simp only [answer]
        rfl
      · simpa only [same] using within
      · exact fun lasting => ⟨⟨(lasts lasting).1, (lasts lasting).2.1⟩, (lasts lasting).2.2⟩

theorem run_put_all (entries : Table Key Rows) (region : Region Backing) (reachable : region.store.Reachable) :
    ∃ after, (putAll entries).run region = (.ok (), after) ∧ after.store.Reachable ∧
      after.store.contents.Within (entries.foldl assign region.store.contents) ∧
      (region.Lasting → after.Lasting ∧ after.store.contents = entries.foldl assign region.store.contents) := by
  induction entries generalizing region with
  | nil => exact ⟨region, rfl, reachable, Contents.within_refl _, fun lasting => ⟨lasting, rfl⟩⟩
  | cons entry rest ih =>
      rcases entry with ⟨key, rows⟩
      obtain ⟨store, wrote, reached, within, permanent⟩ := Backing.run_put key rows region.store reachable
      obtain ⟨after, ran, last, inside, lasts⟩ := ih { region with store := store } reached
      refine ⟨after, ?_, last, ?_, ?_⟩
      · rw [putAll, Action.run_bind_ok (run_inStore wrote), ran]
      · exact Contents.within_trans inside (Contents.foldl_assign_within within rest)
      · intro lasting
        obtain ⟨kept, written⟩ := permanent lasting.2
        obtain ⟨still, same⟩ := lasts ⟨lasting.1, kept⟩
        exact ⟨still, by rw [same, List.foldl_cons, written]⟩

end Region

namespace Buffer

-- What a commit of the buffer makes of the contents below it, and what the session sees until then.
def overlay (buffer : Buffer) (below : Contents) : Contents :=
  buffer.entries.foldl assign (if buffer.clearing then Contents.nothing else below)

theorem overlay_empty (below : Contents) : ({} : Buffer).overlay below = below := rfl

theorem overlay_lookup (buffer : Buffer) (distinct : buffer.entries.Distinct) (below : Contents) (key : Key) :
    buffer.overlay below key =
      (Table.get? key buffer.entries).or (if buffer.clearing then none else below key) := by
  rw [overlay, Table.foldl_assign buffer.entries distinct]
  cases buffer.clearing <;> rfl

theorem overlay_within (buffer : Buffer) {inner outer : Contents} (within : inner.Within outer) :
    (buffer.overlay inner).Within (buffer.overlay outer) := by
  apply Contents.foldl_assign_within
  cases buffer.clearing with
  | false => exact within
  | true => exact Contents.within_refl _

theorem run_publish (buffer : Buffer) (now : Nat) (region : Region Backing) (reachable : region.store.Reachable) :
    ∃ after, (buffer.publish now).run region = (.ok (), after) ∧ after.store.Reachable ∧
      after.store.contents.Within (buffer.overlay region.store.contents) ∧
      (region.Lasting → after.Lasting ∧ after.store.contents = buffer.overlay region.store.contents) := by
  unfold publish Region.apply overlay
  cases buffer.clearing with
  | false => exact Region.run_put_all buffer.entries region reachable
  | true =>
      obtain ⟨cleared, ran, reached, empty, lasts⟩ := Region.run_clear now region reachable
      obtain ⟨after, wrote, last, within, stays⟩ := Region.run_put_all buffer.entries cleared reached
      rw [empty] at within stays
      exact ⟨after, by simpa only [if_pos] using (Action.run_bind_ok ran).trans wrote, last, within,
        fun lasting => stays (lasts lasting)⟩

end Buffer

end StatementMapper.Cache
