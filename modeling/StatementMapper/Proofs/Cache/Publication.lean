import StatementMapper.Proofs.Cache.Overlay

set_option autoImplicit false

namespace StatementMapper.Cache

namespace Shared

def contents (id : String) (shared : Shared Backing) : Contents :=
  match Table.get? id shared.regions with
  | some region => region.store.contents
  | none => Contents.nothing

def Registered (id : String) (shared : Shared Backing) : Prop := Table.contains id shared.regions

def Reachable (shared : Shared Backing) : Prop :=
  ∀ id region, Table.get? id shared.regions = some region → region.store.Reachable

def Lasting (shared : Shared Backing) : Prop :=
  ∀ id region, Table.get? id shared.regions = some region → region.Lasting

theorem lasting_reachable (shared : Shared Backing) (lasting : shared.Lasting) : shared.Reachable :=
  fun id region found => Backing.permanent_reachable _ (lasting id region found).2

theorem contents_put (id other : String) (region : Region Backing) (shared : Shared Backing) :
    contents other { shared with regions := Table.put id region shared.regions } =
      if other = id then region.store.contents else shared.contents other := by
  by_cases same : other = id
  · simp only [contents, same, Table.get_put_same, if_pos]
  · simp only [contents, Table.get_put_other same, if_neg same]

-- Every region holds no more than expected of it, and exactly that if nothing evicts or goes stale.
structure Leaves (before : Shared Backing) (expected : String → Contents) (after : Shared Backing) : Prop where
  reachable : after.Reachable
  registered : ∀ id, after.Registered id ↔ before.Registered id
  within : ∀ id, (after.contents id).Within (expected id)
  lasting : before.Lasting → after.Lasting ∧ ∀ id, before.Registered id → after.contents id = expected id

theorem leaves_refl (shared : Shared Backing) (reachable : shared.Reachable) :
    Leaves shared (fun id => shared.contents id) shared :=
  ⟨reachable, fun _ => Iff.rfl, fun _ => Contents.within_refl _, fun lasting => ⟨lasting, fun _ _ => rfl⟩⟩

theorem leaves_put (id : String) (region after : Region Backing) (shared : Shared Backing) (expected : Contents)
    (reachable : shared.Reachable) (found : Table.get? id shared.regions = some region)
    (reached : after.store.Reachable) (within : after.store.contents.Within expected)
    (lasts : region.Lasting → after.Lasting ∧ after.store.contents = expected) :
    Leaves shared (fun other => if other = id then expected else shared.contents other)
      { shared with regions := Table.put id after shared.regions } := by
  refine ⟨?_, ?_, ?_, ?_⟩
  · intro other present stored
    by_cases same : other = id
    · rw [same, Table.get_put_same, Option.some.injEq] at stored
      exact stored ▸ reached
    · rw [Table.get_put_other same] at stored
      exact reachable other present stored
  · intro other
    by_cases same : other = id
    · simp [Registered, Table.contains, same, Table.get_put_same, found]
    · simp [Registered, Table.contains, Table.get_put_other same]
  · intro other
    rw [contents_put]
    by_cases same : other = id
    · simpa only [if_pos same] using within
    · simpa only [if_neg same] using Contents.within_refl _
  · intro lasting
    obtain ⟨still, exactly⟩ := lasts (lasting id region found)
    refine ⟨?_, ?_⟩
    · intro other present stored
      by_cases same : other = id
      · rw [same, Table.get_put_same, Option.some.injEq] at stored
        exact stored ▸ still
      · rw [Table.get_put_other same] at stored
        exact lasting other present stored
    · intro other _
      rw [contents_put, exactly]

variable {A : Type}

theorem run_in_region (id : String) (absent : A) (action : Nat → Action (Region Backing) A) (shared : Shared Backing)
    (region after : Region Backing) (outcome : Except Fault A) (found : Table.get? id shared.regions = some region)
    (ran : (action shared.now).run region = (outcome, after)) :
    (inRegion id absent action).run shared =
      (outcome, { shared with regions := Table.put id after shared.regions }) := by
  unfold inRegion Action.run at *
  simp only [found, ran]

theorem run_in_region_absent (id : String) (absent : A) (action : Nat → Action (Region Backing) A)
    (shared : Shared Backing) (missing : Table.get? id shared.regions = none) :
    (inRegion id absent action).run shared = (.ok absent, shared) := by
  unfold inRegion Action.run
  simp only [missing]

theorem registered_region (id : String) (shared : Shared Backing) (registered : shared.Registered id) :
    ∃ region, Table.get? id shared.regions = some region := Option.isSome_iff_exists.mp registered

theorem contents_unregistered (id : String) (shared : Shared Backing)
    (missing : Table.get? id shared.regions = none) : shared.contents id = Contents.nothing := by
  simp only [contents, missing]

end Shared

def overlayOf (buffers : Buffers) (id : String) (below : Contents) : Contents :=
  ((Table.get? id buffers).getD {}).overlay below

theorem overlay_of_cons (id other : String) (buffer : Buffer) (rest : Buffers) (fresh : id ∉ Table.keys rest)
    (below : Contents) :
    overlayOf ((id, buffer) :: rest) other below =
      overlayOf rest other (if other = id then buffer.overlay below else below) := by
  by_cases same : other = id
  · have absent : Table.get? id rest = none := (Table.get_none_iff _ _).mpr fresh
    simp [overlayOf, Table.get?, same, absent, Buffer.overlay_empty]
  · simp [overlayOf, Table.get?, same]

theorem overlay_of_within (buffers : Buffers) (id : String) {inner outer : Contents} (within : inner.Within outer) :
    (overlayOf buffers id inner).Within (overlayOf buffers id outer) := Buffer.overlay_within _ within

namespace Staging

structure WellKept (buffers : Buffers) : Prop where
  regions : buffers.Distinct
  entries : ∀ id buffer, Table.get? id buffers = some buffer → buffer.entries.Distinct

theorem well_kept_nil : WellKept [] := ⟨Table.distinct_nil, fun _ _ found => nomatch found⟩

theorem well_kept_put (id : String) (buffer : Buffer) (buffers : Buffers) (kept : WellKept buffers)
    (distinct : buffer.entries.Distinct) : WellKept (Table.put id buffer buffers) := by
  refine ⟨Table.distinct_put _ _ _ kept.regions, ?_⟩
  intro other present found
  by_cases same : other = id
  · rw [same, Table.get_put_same, Option.some.injEq] at found
    exact found ▸ distinct
  · rw [Table.get_put_other same] at found
    exact kept.entries other present found

theorem well_kept_erase (id : String) (buffers : Buffers) (kept : WellKept buffers) :
    WellKept (Table.erase id buffers) := by
  refine ⟨Table.distinct_erase _ _ kept.regions, ?_⟩
  intro other present found
  by_cases same : other = id
  · rw [same, Table.get_erase_same] at found
    exact nomatch found
  · rw [Table.get_erase_other same] at found
    exact kept.entries other present found

theorem get_emptied (id : String) (buffers : Buffers) :
    Table.get? id (emptied buffers) = (Table.get? id buffers).map fun _ => {} :=
  Table.get_map_values (fun _ : Buffer => ({} : Buffer)) id buffers

theorem well_kept_emptied (buffers : Buffers) (kept : WellKept buffers) : WellKept (emptied buffers) := by
  refine ⟨?_, ?_⟩
  · unfold Table.Distinct emptied
    rw [Table.keys_map_values]
    exact kept.regions
  · intro id buffer found
    rw [get_emptied, Option.map_eq_some_iff] at found
    obtain ⟨_, _, rfl⟩ := found
    exact Table.distinct_nil

theorem well_kept_buffer {T : Type} (id : String) (staging : Staging T) (kept : WellKept staging.buffers) :
    (staging.buffer id).entries.Distinct := by
  unfold buffer
  cases found : Table.get? id staging.buffers with
  | none => exact Table.distinct_nil
  | some buffer => exact kept.entries id buffer found

theorem overlay_of_emptied (id : String) (buffers : Buffers) (below : Contents) :
    overlayOf (emptied buffers) id below = below := by
  unfold overlayOf
  rw [get_emptied]
  cases Table.get? id buffers <;> rfl

theorem restore_shared {T : Type} (id : String) (checkpoint : Option Buffer) (staging : Staging T) :
    (staging.restore id checkpoint).shared = staging.shared := by
  cases checkpoint <;> rfl

theorem get_restore {T : Type} (id other : String) (staging changed : Staging T)
    (elsewhere : ∀ region, region ≠ id → Table.get? region changed.buffers = Table.get? region staging.buffers) :
    Table.get? other (changed.restore id (staging.checkpoint id)).buffers = Table.get? other staging.buffers := by
  unfold restore checkpoint
  cases there : Table.get? id staging.buffers with
  | none =>
      by_cases same : other = id
      · rw [same, Table.get_erase_same, there]
      · rw [Table.get_erase_other same, elsewhere other same]
  | some buffer =>
      by_cases same : other = id
      · rw [same, Table.get_put_same, there]
      · rw [Table.get_put_other same, elsewhere other same]

theorem well_kept_restore {T : Type} (id : String) (staging changed : Staging T)
    (elsewhere : ∀ region, region ≠ id → Table.get? region changed.buffers = Table.get? region staging.buffers)
    (distinct : changed.buffers.Distinct) (kept : WellKept staging.buffers) :
    WellKept (changed.restore id (staging.checkpoint id)).buffers := by
  refine ⟨?_, fun other buffer found => kept.entries other buffer ?_⟩
  · unfold restore
    cases staging.checkpoint id with
    | none => exact Table.distinct_erase _ _ distinct
    | some buffer => exact Table.distinct_put _ _ _ distinct
  · rwa [get_restore id other staging changed elsewhere] at found

theorem run_get (id : String) (key : Key) (staging : Staging Backing) (reachable : staging.shared.Reachable)
    (registered : staging.shared.Registered id) (kept : WellKept staging.buffers) :
    ∃ shared, (get id key).run staging =
        (.ok ((staging.buffer id).overlay (shared.contents id) key),
          ⟨Table.put id (staging.buffer id) staging.buffers, shared⟩) ∧
      Shared.Leaves staging.shared (fun other => staging.shared.contents other) shared := by
  obtain ⟨region, found⟩ := Shared.registered_region id staging.shared registered
  have below : staging.shared.contents id = region.store.contents := by simp only [Shared.contents, found]
  have read : ∃ after, ((staging.buffer id).get staging.shared.now key).run region =
      (.ok ((staging.buffer id).overlay after.store.contents key), after) ∧ after.store.Reachable ∧
      after.store.contents.Within region.store.contents ∧
      (region.Lasting → after.Lasting ∧ after.store.contents = region.store.contents) := by
    have idle : region.store.Reachable ∧ region.store.contents.Within region.store.contents ∧
        (region.Lasting → region.Lasting ∧ region.store.contents = region.store.contents) :=
      ⟨reachable id region found, Contents.within_refl _, fun lasting => ⟨lasting, rfl⟩⟩
    have lookup := Buffer.overlay_lookup (staging.buffer id) (well_kept_buffer id staging kept)
    unfold Buffer.get
    cases pending : Table.get? key (staging.buffer id).entries with
    | some rows => exact ⟨region, by simp [lookup, pending], idle⟩
    | none =>
        cases clearing : (staging.buffer id).clearing with
        | true => exact ⟨region, by simp [lookup, pending, clearing], idle⟩
        | false =>
            obtain ⟨after, ran, rest⟩ := Region.run_get staging.shared.now key region (reachable id region found)
            exact ⟨after, by simpa [lookup, pending, clearing] using ran, rest⟩
  obtain ⟨after, ran, reached, within, lasts⟩ := read
  have left := Shared.leaves_put id region after staging.shared region.store.contents reachable found reached within lasts
  refine ⟨{ staging.shared with regions := Table.put id after staging.shared.regions }, ?_, ?_⟩
  · have asked := Shared.run_in_region id none (fun now => (staging.buffer id).get now key) staging.shared region after _
      found ran
    have same : (alter id (fun buffer => buffer) staging).buffer id = staging.buffer id := by
      simp only [alter, buffer, Table.get_put_same, Option.getD_some]
    rw [get, Action.run_bind_ok (Action.run_change _ _), Action.run_bind_ok (Action.run_look _ _), same, inShared,
      Action.run_within]
    simp only [alter, asked, Shared.contents_put, if_pos]
  · have unchanged : (fun other => if other = id then region.store.contents else staging.shared.contents other) =
        fun other => staging.shared.contents other := by
      funext other
      by_cases same : other = id
      · rw [if_pos same, same, below]
      · rw [if_neg same]
    exact unchanged ▸ left

theorem run_publish_all (buffers : Buffers) (distinct : buffers.Distinct) (shared : Shared Backing)
    (reachable : shared.Reachable) :
    ∃ after, (publishAll buffers).run shared = (.ok (), after) ∧
      Shared.Leaves shared (fun id => overlayOf buffers id (shared.contents id)) after := by
  induction buffers generalizing shared with
  | nil => exact ⟨shared, rfl, Shared.leaves_refl shared reachable⟩
  | cons entry rest ih =>
      rcases entry with ⟨id, buffer⟩
      obtain ⟨fresh, below⟩ := (Table.distinct_cons _ _ _).mp distinct
      have first : ∃ middle, (Shared.inRegion id () buffer.publish).run shared = (.ok (), middle) ∧
          Shared.Leaves shared (fun other => if other = id then buffer.overlay (shared.contents id)
            else shared.contents other) middle := by
        cases found : Table.get? id shared.regions with
        | none =>
            have empty := Shared.contents_unregistered id shared found
            refine ⟨shared, Shared.run_in_region_absent _ _ _ _ found, reachable, fun _ => Iff.rfl, ?_, ?_⟩
            · intro other
              by_cases same : other = id
              · rw [same, empty]
                exact Contents.nothing_within _
              · simpa only [if_neg same] using Contents.within_refl _
            · refine fun lasting => ⟨lasting, fun other registered => ?_⟩
              have different : other ≠ id := fun same => by
                simp [same, Shared.Registered, Table.contains, found] at registered
              rw [if_neg different]
        | some region =>
            obtain ⟨after, ran, reached, within, lasts⟩ :=
              Buffer.run_publish buffer shared.now region (reachable id region found)
            have here : shared.contents id = region.store.contents := by simp only [Shared.contents, found]
            rw [here]
            exact ⟨_, Shared.run_in_region _ _ _ _ _ _ _ found ran,
              Shared.leaves_put id region after shared _ reachable found reached within lasts⟩
      obtain ⟨middle, ranFirst, left⟩ := first
      obtain ⟨after, ranRest, last⟩ := ih below middle left.reachable
      have expected (other : String) : overlayOf ((id, buffer) :: rest) other (shared.contents other) =
          overlayOf rest other (if other = id then buffer.overlay (shared.contents id) else shared.contents other) := by
        rw [overlay_of_cons id other buffer rest fresh]
        by_cases same : other = id <;> simp only [same, if_true, if_false]
      refine ⟨after, ?_, last.reachable, fun other => (last.registered other).trans (left.registered other), ?_, ?_⟩
      · rw [publishAll, Action.run_bind_ok (Action.run_attempt _ _), Action.run_bind_ok (Action.run_attempt _ _)]
        simp only [ranFirst, ranRest]
        rfl
      · intro other
        rw [expected]
        exact Contents.within_trans (last.within other) (overlay_of_within _ _ (left.within other))
      · intro lasting
        obtain ⟨lastingMiddle, exactlyMiddle⟩ := left.lasting lasting
        obtain ⟨lastingAfter, exactlyAfter⟩ := last.lasting lastingMiddle
        refine ⟨lastingAfter, fun other registered => ?_⟩
        rw [expected, exactlyAfter other ((left.registered other).mpr registered), exactlyMiddle other registered]

theorem run_commit (staging : Staging Backing) (reachable : staging.shared.Reachable)
    (kept : WellKept staging.buffers) :
    ∃ shared, commit.run staging = (.ok (), ⟨emptied staging.buffers, shared⟩) ∧
      Shared.Leaves staging.shared (fun id => overlayOf staging.buffers id (staging.shared.contents id)) shared := by
  obtain ⟨after, ran, left⟩ := run_publish_all staging.buffers kept.regions staging.shared reachable
  refine ⟨after, ?_, left⟩
  rw [commit, Action.run_bind_ok (Action.run_look _ _), Action.run_bind_ok (Action.run_change _ _), inShared,
    Action.run_within]
  simp only [ran]

end Staging

end StatementMapper.Cache
