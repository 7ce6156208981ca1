import StatementMapper.Proofs.Cache.Publication
import StatementMapper.Proofs.Triple

set_option autoImplicit false

/-! Upper bounds on what regions hold, also of stores that are out of reach. -/

namespace StatementMapper.Cache

namespace Region

def Lost (cause : Fault) (region : Region Backing) : Prop := region.store = .unreachable cause

variable {cause : Fault}

theorem contents_lost {region : Region Backing} (lost : region.Lost cause) :
    region.store.contents = Contents.nothing := by
  rw [lost]
  rfl

theorem lost_or_reachable (region : Region Backing) : region.store.Reachable ∨ ∃ cause, region.Lost cause := by
  unfold Lost
  cases region.store with
  | perpetual store => exact Or.inl trivial
  | lru store => exact Or.inl trivial
  | unreachable cause => exact Or.inr ⟨cause, rfl⟩

theorem triple_clear_lost (now : Nat) : Action.Triple (Lost cause) (clear now) (fun _ => Lost cause) (Lost cause) := by
  refine Action.triple_bind (fun _ => Lost cause) (fun region lost => ?_) fun _ => Action.triple_change fun _ lost => lost
  rcases region with ⟨id, interval, store, requests, hits, clearedAt⟩
  cases lost
  rfl

theorem triple_get_lost (key : Key) :
    Action.Triple (Lost cause) (inStore (Store.get key)) (fun _ _ => False) (Lost cause) := by
  intro region lost
  rcases region with ⟨id, interval, store, requests, hits, clearedAt⟩
  cases lost
  rfl

theorem triple_put_lost (key : Key) (rows : Rows) :
    Action.Triple (Lost cause) (inStore (Store.put key rows)) (fun _ => Lost cause) (Lost cause) := by
  intro region lost
  rcases region with ⟨id, interval, store, requests, hits, clearedAt⟩
  cases lost
  rfl

theorem triple_put_all_lost (entries : List (Key × Rows)) :
    Action.Triple (Lost cause) (putAll entries) (fun _ => Lost cause) (Lost cause) := by
  induction entries with
  | nil => exact Action.triple_pure fun _ lost => lost
  | cons entry rest ih => exact Action.triple_bind _ (triple_put_lost entry.1 entry.2) fun _ => ih

theorem triple_apply_lost (now : Nat) (clearing : Bool) (entries : Table Key Rows) :
    Action.Triple (Lost cause) (apply now clearing entries) (fun _ => Lost cause) (Lost cause) := by
  cases clearing with
  | true => exact Action.triple_bind _ (triple_clear_lost now) fun _ => triple_put_all_lost entries
  | false => exact triple_put_all_lost entries

theorem triple_clear_when_stale_lost (now : Nat) :
    Action.Triple (Lost cause) (clearWhenStale now) (fun _ => Lost cause) (Lost cause) := by
  refine Action.triple_bind (fun _ => Lost cause) (Action.triple_look fun _ lost => lost) fun stale => ?_
  cases stale with
  | true => exact triple_clear_lost now
  | false => exact Action.triple_pure fun _ lost => lost

theorem triple_lookup_lost (now : Nat) (key : Key) :
    Action.Triple (Lost cause) (get now key) (fun _ _ => False) (Lost cause) := by
  refine Action.triple_bind _ (triple_clear_when_stale_lost now) fun _ => ?_
  refine Action.triple_bind (fun _ => Lost cause) (Action.triple_change fun _ lost => lost) fun _ => ?_
  exact Action.triple_bind _ (triple_get_lost key) fun _ _ impossible => impossible.elim

theorem run_lookup_lost (now : Nat) (key : Key) (region : Region Backing) (lost : region.Lost cause) :
    ∃ fault after, (get now key).run region = (.error fault, after) ∧ after.Lost cause := by
  have left := triple_lookup_lost now key region lost
  rcases ran : (get now key).run region with ⟨outcome, after⟩
  rw [ran] at left
  cases outcome with
  | ok found => exact left.elim
  | error fault => exact ⟨fault, after, rfl, left⟩

theorem get_within (now : Nat) (key : Key) (region : Region Backing) :
    ((get now key).run region).2.store.contents.Within region.store.contents := by
  rcases lost_or_reachable region with reachable | ⟨cause, lost⟩
  · obtain ⟨after, ran, _, within, _⟩ := run_get now key region reachable
    rw [ran]
    exact within
  · obtain ⟨fault, after, ran, still⟩ := run_lookup_lost now key region lost
    rw [ran, contents_lost still]
    exact Contents.nothing_within _

theorem triple_in_store_hits {A : Type} (count : Nat) (action : Action Backing A) :
    Action.Triple (fun region => region.hits = count) (inStore action) (fun _ region => region.hits = count)
      fun region => region.hits = count := by
  intro region same
  rw [inStore, Action.run_within]
  cases (action.run region.store).1 with
  | ok a => exact same
  | error fault => exact same

theorem triple_hits (count now : Nat) (key : Key) :
    Action.Triple (fun region : Region Backing => region.hits = count) (get now key)
      (fun found region => found = none → region.hits = count) fun region => region.hits = count := by
  have cleared : Action.Triple (fun region : Region Backing => region.hits = count) (clearWhenStale now)
      (fun _ region => region.hits = count) fun region => region.hits = count := by
    refine Action.triple_bind (fun _ region => region.hits = count) (Action.triple_look fun _ same => same) fun stale => ?_
    cases stale with
    | true =>
        exact Action.triple_bind _ (triple_in_store_hits count Store.clear) fun _ =>
          Action.triple_change fun _ same => same
    | false => exact Action.triple_pure fun _ same => same
  refine Action.triple_bind _ cleared fun _ => ?_
  refine Action.triple_bind (fun _ region => region.hits = count) (Action.triple_change fun _ same => same) fun _ => ?_
  refine Action.triple_bind _ (triple_in_store_hits count (Store.get key)) fun found => ?_
  cases found with
  | none => exact Action.triple_pure fun _ same _ => same
  | some rows =>
      exact Action.triple_bind (fun _ _ => True) (Action.triple_change fun _ _ => trivial) fun _ =>
        Action.triple_pure fun _ _ => nofun

-- A lookup counts as a hit only if it finds rows, and those are what the region held.
theorem hits_get (now : Nat) (key : Key) (region : Region Backing) :
    ((get now key).run region).2.hits = region.hits ∨
      ∃ rows, ((get now key).run region).1 = .ok (some rows) ∧ region.store.contents key = some rows := by
  have counted := triple_hits region.hits now key region rfl
  rcases lost_or_reachable region with reachable | ⟨cause, lost⟩
  · obtain ⟨after, ran, _, within, _⟩ := run_get now key region reachable
    rw [ran] at counted ⊢
    cases found : after.store.contents key with
    | none => exact Or.inl (counted found)
    | some rows => exact Or.inr ⟨rows, rfl, within key rows found⟩
  · obtain ⟨fault, after, ran, _⟩ := run_lookup_lost now key region lost
    rw [ran] at counted ⊢
    exact Or.inl counted

end Region

theorem Buffer.publish_within (buffer : Buffer) (now : Nat) (region : Region Backing) :
    ((buffer.publish now).run region).2.store.contents.Within (buffer.overlay region.store.contents) := by
  rcases region.lost_or_reachable with reachable | ⟨cause, lost⟩
  · obtain ⟨after, ran, _, within, _⟩ := run_publish buffer now region reachable
    rw [ran]
    exact within
  · have still : ((buffer.publish now).run region).2.Lost cause :=
      Action.triple_after (Region.triple_apply_lost now buffer.clearing buffer.entries) region lost
    rw [Region.contents_lost still]
    exact Contents.nothing_within _

namespace Shared

def Thins (shared after : Shared Backing) : Prop := ∀ id, (after.contents id).Within (shared.contents id)

theorem thins_refl (shared : Shared Backing) : Thins shared shared := fun _ => Contents.within_refl _

theorem thins_trans (first second third : Shared Backing) (early : Thins first second) (late : Thins second third) :
    Thins first third := fun id => Contents.within_trans (late id) (early id)

def hitsOf (id : String) (shared : Shared Backing) : Nat :=
  ((Table.get? id shared.regions).map Region.hits).getD 0

theorem run_in_region_of {A : Type} (id : String) (absent : A) (action : Nat → Action (Region Backing) A)
    (shared : Shared Backing) (region : Region Backing) (found : Table.get? id shared.regions = some region) :
    (inRegion id absent action).run shared = (((action shared.now).run region).1,
      { shared with regions := Table.put id ((action shared.now).run region).2 shared.regions }) :=
  run_in_region id absent action shared region _ _ found rfl

theorem contents_of {id : String} {shared : Shared Backing} {region : Region Backing}
    (found : Table.get? id shared.regions = some region) : shared.contents id = region.store.contents := by
  simp only [contents, found]

theorem thins_get (id : String) (key : Key) (buffer : Buffer) (shared : Shared Backing) :
    Thins shared ((inRegion id none fun now => Buffer.get buffer now key).run shared).2 := by
  intro other
  cases found : Table.get? id shared.regions with
  | none =>
      rw [run_in_region_absent id none _ shared found]
      exact Contents.within_refl _
  | some region =>
      rw [run_in_region_of id none _ shared region found, contents_put]
      by_cases same : other = id
      · rw [if_pos same, same, contents_of found]
        unfold Buffer.get
        cases Table.get? key buffer.entries with
        | some rows => exact Contents.within_refl _
        | none =>
            cases buffer.clearing with
            | true => exact Contents.within_refl _
            | false => exact Region.get_within shared.now key region
      · rw [if_neg same]
        exact Contents.within_refl _

theorem hits_in_region (id other : String) (key : Key) (buffer : Buffer) (shared : Shared Backing) :
    hitsOf other ((inRegion id none fun now => Buffer.get buffer now key).run shared).2 = hitsOf other shared ∨
      id = other ∧ ∃ rows, ((inRegion id none fun now => Buffer.get buffer now key).run shared).1 = .ok (some rows) ∧
        shared.contents other key = some rows := by
  cases found : Table.get? id shared.regions with
  | none =>
      rw [run_in_region_absent id none _ shared found]
      exact Or.inl rfl
  | some region =>
      rw [run_in_region_of id none _ shared region found]
      by_cases same : other = id
      · subst same
        have before : hitsOf other shared = region.hits := by
          rw [hitsOf, found]
          rfl
        have after (last : Region Backing) :
            hitsOf other { shared with regions := Table.put other last shared.regions } = last.hits := by
          rw [hitsOf, Table.get_put_same]
          rfl
        rw [after, before, contents_of found]
        unfold Buffer.get
        cases Table.get? key buffer.entries with
        | some rows => exact Or.inl rfl
        | none =>
            cases buffer.clearing with
            | true => exact Or.inl rfl
            | false => exact (Region.hits_get shared.now key region).imp_right fun hit => ⟨rfl, hit⟩
      · refine Or.inl ?_
        rw [hitsOf, Table.get_put_other same]
        rfl

theorem publish_all_within (buffers : Buffers) (distinct : buffers.Distinct) (shared : Shared Backing) (id : String) :
    (((Staging.publishAll buffers).run shared).2.contents id).Within (overlayOf buffers id (shared.contents id)) := by
  induction buffers generalizing shared with
  | nil => exact Contents.within_refl _
  | cons entry rest ih =>
      rcases entry with ⟨other, buffer⟩
      obtain ⟨fresh, below⟩ := (Table.distinct_cons _ _ _).mp distinct
      rcases ran : (inRegion other () buffer.publish).run shared with ⟨outcome, middle⟩
      have first : (middle.contents id).Within
          (if id = other then buffer.overlay (shared.contents id) else shared.contents id) := by
        cases found : Table.get? other shared.regions with
        | none =>
            rw [run_in_region_absent other () _ shared found] at ran
            cases ran
            by_cases same : id = other
            · rw [same, contents_unregistered other shared found]
              exact Contents.nothing_within _
            · rw [if_neg same]
              exact Contents.within_refl _
        | some region =>
            rw [run_in_region_of other () _ shared region found] at ran
            cases ran
            rw [contents_put]
            by_cases same : id = other
            · rw [if_pos same, if_pos same, same, contents_of found]
              exact buffer.publish_within shared.now region
            · rw [if_neg same, if_neg same]
              exact Contents.within_refl _
      have left : ((Staging.publishAll ((other, buffer) :: rest)).run shared).2 =
          ((Staging.publishAll rest).run middle).2 := by
        rw [Staging.publishAll, Action.run_bind_ok (Action.run_attempt_of ran)]
        rw [Action.run_bind_ok (Action.run_attempt _ _)]
        rcases outcome with cause | done
        · rfl
        · rcases ((Staging.publishAll rest).run middle).1 with cause | done <;> rfl
      rw [left, overlay_of_cons other id buffer rest fresh]
      exact Contents.within_trans (ih below middle) (overlay_of_within _ _ first)

theorem stored_publish_all (buffers : Buffers) (kept : Staging.WellKept buffers) (shared : Shared Backing) (id : String)
    (key : Key) (rows : Rows)
    (found : ((Staging.publishAll buffers).run shared).2.contents id key = some rows) :
    (∃ buffer, Table.get? id buffers = some buffer ∧ Table.get? key buffer.entries = some rows) ∨
      (∀ buffer, Table.get? id buffers = some buffer → buffer.clearing = false) ∧ shared.contents id key = some rows := by
  have overlaid := publish_all_within buffers kept.regions shared id key rows found
  unfold overlayOf at overlaid
  cases there : Table.get? id buffers with
  | none =>
      rw [there] at overlaid
      exact Or.inr ⟨nofun, overlaid⟩
  | some buffer =>
      rw [there] at overlaid
      have looked := (buffer.overlay_lookup (kept.entries id buffer there) _ key).symm.trans overlaid
      cases entry : Table.get? key buffer.entries with
      | some other =>
          rw [entry, Option.some_or] at looked
          exact Or.inl ⟨buffer, rfl, entry.trans looked⟩
      | none =>
          rw [entry, Option.none_or] at looked
          cases clearing : buffer.clearing with
          | true =>
              rw [clearing] at looked
              cases looked
          | false =>
              rw [clearing] at looked
              refine Or.inr ⟨fun other same => ?_, looked⟩
              exact Option.some.inj same ▸ clearing

end Shared

end StatementMapper.Cache
